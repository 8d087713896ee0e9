import Overseer.Fault
import Overseer.Host.Call
import Overseer.Journal.Entry

set_option autoImplicit false

namespace Overseer.Journal

open Host (Action ask)

structure Sink where
  path : String
  console : Bool
deriving DecidableEq, Repr

structure Failure where
  path : String
  cause : Refusal
deriving DecidableEq, Repr

def Failure.detail (f : Failure) : String :=
  "failed to append to " ++ f.path ++ ": " ++ f.cause.message

def Failure.fault (f : Failure) : Fault := ⟨.logSink, f.detail⟩

namespace Sink

variable (s : Sink)

def append (line : String) : Action (Except Refusal Unit) := do
  match ← ask (.openEnd s.path) with
  | .error r => return .error r
  | .ok () => ask (.extend s.path line.toUTF8)

-- Only what is in the file is printed, and it is no fault that it cannot be.
def display (line : String) : Action Unit := do
  if s.console then
    let _ ← ask (.print line)

def log (message : String) : Action (Except Failure Unit) := do
  let entry : Entry := ⟨← ask .clock, message⟩
  match ← s.append entry.line with
  | .error r => return .error ⟨s.path, r⟩
  | .ok () =>
    s.display entry.line
    return .ok ()

end Sink

end Overseer.Journal
