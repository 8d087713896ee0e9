import Overseer.Fault
import Overseer.Host.Call
import Overseer.Workload.Step

set_option autoImplicit false

namespace Overseer

structure Workload where
  steps : List Workload.Step
  limit : Option Host.Duration
  directory : Option String
deriving DecidableEq, Repr

namespace Workload

open Host (Action Duration Ending Unended ask note)

structure Unstartable where
  program : String
  cause : Unended
deriving DecidableEq, Repr

def Unstartable.detail (u : Unstartable) : String :=
  match u.cause with
  | .unstarted r => "failed to spawn '" ++ u.program ++ "': " ++ r.message
  | .unwatched r => "failed to wait on '" ++ u.program ++ "': " ++ r.message

def Unstartable.fault (u : Unstartable) : Fault := ⟨.execution, u.detail⟩

inductive Progress where
  | passed (left : Option Duration)
  | failed
  | overdue
deriving DecidableEq, Repr

def signalNames : List String :=
  ["SIGHUP", "SIGINT", "SIGQUIT", "SIGILL", "SIGTRAP", "SIGABRT", "SIGBUS", "SIGFPE", "SIGKILL",
   "SIGUSR1", "SIGSEGV", "SIGUSR2", "SIGPIPE", "SIGALRM", "SIGTERM", "SIGSTKFLT", "SIGCHLD",
   "SIGCONT", "SIGSTOP", "SIGTSTP", "SIGTTIN", "SIGTTOU", "SIGURG", "SIGXCPU", "SIGXFSZ",
   "SIGVTALRM", "SIGPROF", "SIGWINCH", "SIGIO", "SIGPWR", "SIGSYS"]

-- Signals are counted from 1, and those with higher numbers have no names.
def signalText (signal : Nat) : String :=
  Text.Numeral.text signal ++
    match signalNames[signal - 1]? with
    | some name => " (" ++ name ++ ")"
    | none => ""

def endingText : Ending → String
  | .exited code => "exit status: " ++ Text.Numeral.text code
  | .killed signal => "signal: " ++ signalText signal

def remaining (left : Option Duration) (spent : Duration) : Option Duration := left.map (· - spent)

def runCommand (directory : Option String) (left : Option Duration) (program : String)
    (arguments : List String) : Action (Except Unstartable Progress) := do
  match ← ask (.launch ⟨program, arguments, directory⟩ left) with
  | .error r => return .error ⟨program, r⟩
  | .ok .overdue => return .ok .overdue
  | .ok (.ended ending spent) =>
    if ending = .exited 0 then return .ok (.passed (remaining left spent))
    else
      note .info ("Step '" ++ program ++ "' exited with " ++ endingText ending)
      return .ok .failed

-- Prints a line. That it cannot be printed is no failure.
def mark (left : Option Duration) (message : String) : Action Progress := do
  match ← ask (.mark (message ++ "\n") left) with
  | .overdue => return .overdue
  | .ended (.ok ()) spent => return .passed (remaining left spent)
  | .ended (.error r) spent =>
    note .debug ("Dropped marker '" ++ message ++ "': " ++ r.message)
    return .passed (remaining left spent)

def runStep (directory : Option String) (left : Option Duration) :
    Step → Action (Except Unstartable Progress)
  | .command program arguments => runCommand directory left program arguments
  | .sleep seconds => do
    match ← ask (.pause (seconds.toNat * 1000000) left) with
    | .overdue => return .ok .overdue
    | .ended () spent => return .ok (.passed (remaining left spent))
  | .echo message => return .ok (← mark left message)

def runSteps (directory : Option String) :
    Option Duration → List Step → Action (Except Unstartable Progress)
  | left, [] => return .ok (.passed left)
  | left, s :: rest => do
    note .debug ("Running step: " ++ s.text)
    match ← runStep directory left s with
    | .ok (.passed left) => runSteps directory left rest
    | other => return other

def attempt (w : Workload) : Action (Except Unstartable Verdict) := do
  match ← runSteps w.directory w.limit w.steps with
  | .error u => return .error u
  | .ok (.passed _) => return .ok .success
  | .ok .failed => return .ok .failure
  | .ok .overdue =>
    note .warn ("Attempt timed out after " ++
      Text.Numeral.text (w.limit.getD 0 / 1000) ++ "ms")
    return .ok .failure

end Workload

end Overseer
