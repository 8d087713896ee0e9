import Overseer.Fault
import Overseer.Counter.Artifact
import Overseer.Host.Call
import Overseer.Text.Blank
/-!
The counter store: allocating sessions, writing their counts and reading them back, as programs of
file calls. A count is written to the temporary, brought to the disk and then given the artifact's
name, so that no reader finds a part of it. One writer at a time is assumed.
-/
set_option autoImplicit false

namespace Overseer.Counter

open Host (Action ask note)
open Text (Numeral.word32 Numeral.word64 Numeral.readWord32)

inductive Failure where
  | uncreatable (directory : String) (cause : Refusal)
  | unlistable (directory : String) (cause : Refusal)
  | noNumberAfter (last : UInt64)
  | unwritable (path : String) (cause : Refusal)
  | unreadable (path : String) (cause : Refusal)
  | notNumeric (path content : String)
deriving DecidableEq, Repr

def Failure.detail : Failure → String
  | uncreatable d r => "failed to create " ++ d ++ ": " ++ r.message
  | unlistable d r => "failed to list " ++ d ++ ": " ++ r.message
  | noNumberAfter last => "session ordinal overflow after " ++ Numeral.word64 last
  | unwritable p r => "failed to write " ++ p ++ ": " ++ r.message
  | unreadable p r => "failed to read " ++ p ++ ": " ++ r.message
  | notNumeric p content => p ++ " holds non-numeric content '" ++ content ++ "'"

def Failure.fault (f : Failure) : Fault := ⟨.storage, f.detail⟩

structure Found where
  id : UInt64
  name : String
deriving DecidableEq, Repr

-- By number, and by name where several names have one number.
def Found.before (a b : Found) : Bool :=
  a.id < b.id || (a.id == b.id && (a.name < b.name || a.name == b.name))

def found (stem : String) (names : List Files.Name) : List Found :=
  names.filterMap fun
    | .text s => (ordinal? stem s).map (⟨·, s⟩)
    | .raw _ => none

def foreign (stem : String) (names : List Files.Name) : List String :=
  names.filterMap fun
    | .text s => if (ordinal? stem s).isNone then some s else none
    | .raw _ => none

def nextId (sorted : List Found) : Except Failure UInt64 :=
  match sorted.getLast? with
  | none => .ok 1
  | some last =>
    if last.id.toNat + 1 < UInt64.size then .ok (last.id + 1) else .error (.noNumberAfter last.id)

def countOf (path : String) (bytes : ByteArray) : Except Failure UInt32 :=
  match String.fromUTF8? bytes with
  | none => .error (.unreadable path .notText)
  | some content =>
    let trimmed := Text.trim content
    match Numeral.readWord32 trimmed with
    | .ok count => .ok count
    | .error _ => .error (.notNumeric path trimmed)

namespace Store

variable (s : Store)

-- Every artifact in the directory, in order. A directory that is missing holds none.
def artifacts : Action (Except Failure (List Found)) := do
  match ← ask (.list s.directory) with
  | .error r => return if r = .missing then .ok [] else .error (.unlistable s.directory r)
  | .ok names =>
    (foreign s.stem names).forM fun name =>
      note .trace ("Ignoring non-counter entry " ++ name)
    return .ok ((found s.stem names).mergeSort Found.before)

def allocate : Action (Except Failure UInt64) := do
  match ← ask (.makePath s.directory) with
  | .error r => return .error (.uncreatable s.directory r)
  | .ok () =>
    match ← s.artifacts with
    | .error f => return .error f
    | .ok sorted =>
      match nextId sorted with
      | .error f => return .error f
      | .ok id =>
        note .debug ("Allocated session " ++ Numeral.word64 id ++ " in " ++ s.directory)
        return .ok id

def write (temporary path : String) (bytes : ByteArray) : Action (Except Refusal Unit) := do
  match ← ask (.create temporary) with
  | .error r => return .error r
  | .ok () =>
    match ← ask (.extend temporary bytes) with
    | .error r => return .error r
    | .ok () =>
      match ← ask (.sync temporary) with
      | .error r => return .error r
      | .ok () => ask (.rename temporary path)

-- Replaces the session's artifact by one with the count; a failure leaves no temporary.
def update (id : UInt64) (count : UInt32) : Action (Except Failure Unit) := do
  let temporary := s.temporaryPath id
  let path := s.artifactPath id
  match ← write temporary path (Numeral.word32 count).toUTF8 with
  | .ok () => return .ok ()
  | .error r =>
    let _ ← ask (.remove temporary)
    return .error (.unwritable path r)

def begin (id : UInt64) : Action (Except Failure Unit) := do
  let path := s.artifactPath id
  if ← ask (.isPresent path) then
    note .warn ("Counter artifact " ++ path ++
      " already exists; allocation is single-writer, overwriting")
  s.update id 0

def readAt (path : String) : Action (Except Failure UInt32) := do
  match ← ask (.read path) with
  | .error r => return .error (.unreadable path r)
  | .ok bytes => return countOf path bytes

def read (id : UInt64) : Action (Except Failure UInt32) := do
  match ← s.artifacts with
  | .error f => return .error f
  | .ok sorted =>
    match sorted.find? fun a => a.id == id with
    | some a => readAt (Files.Path.join s.directory a.name)
    | none => readAt (s.artifactPath id)

def readEach : List Found → Action (Except Failure (List (UInt64 × UInt32)))
  | [] => return .ok []
  | a :: rest => do
    match ← readAt (Files.Path.join s.directory a.name) with
    | .error f => return .error f
    | .ok count =>
      match ← readEach rest with
      | .error f => return .error f
      | .ok counts => return .ok ((a.id, count) :: counts)

def list : Action (Except Failure (List (UInt64 × UInt32))) := do
  match ← s.artifacts with
  | .error f => return .error f
  | .ok sorted => s.readEach sorted

end Store

end Overseer.Counter
