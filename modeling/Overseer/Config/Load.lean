import Overseer.Config.Format
import Overseer.Host.Call
import Overseer.Yaml.Parser

set_option autoImplicit false

namespace Overseer.Config

open Host (Action ask note)

inductive LoadFailure where
  | unreadable (path : String) (cause : Refusal)
  -- The text is not well formed, or holds more than one document.
  | malformed
  | mismatch (cause : Yaml.Mismatch)
deriving DecidableEq, Repr

def LoadFailure.fault : LoadFailure → Fault
  | unreadable path r => ⟨.config, "failed to read " ++ path ++ ": " ++ r.message⟩
  | malformed => ⟨.yaml, "the document is not well formed"⟩
  | mismatch m => ⟨.yaml, m.text⟩

def ofText {α : Type} (default_ : α) (decode : Yaml.Document → Except Yaml.Mismatch α)
    (text : String) : Except LoadFailure α :=
  match Yaml.read? text with
  | none => .error .malformed
  | some .void => .ok default_
  | some (.single d) => (decode d).mapError .mismatch

def parse (default_ : Config) (text : String) : Except LoadFailure Config :=
  ofText default_ (decode default_) text

def parseSteps (text : String) : Except LoadFailure (List Workload.Step) :=
  ofText [] (fun d => Steps.decode 1 d .root d.root) text

def ofBytes (default_ : Config) (path : String) (bytes : ByteArray) : Except LoadFailure Config :=
  match String.fromUTF8? bytes with
  | none => .error (.unreadable path .notText)
  | some text => parse default_ text

def standardHere : Action Config := do
  return standard (← ask .workingDirectory)

def loadFile (path : String) : Action (Except LoadFailure Config) := do
  match ← ask (.read path) with
  | .error r => return .error (.unreadable path r)
  | .ok bytes =>
    match ofBytes (← standardHere) path bytes with
    | .error f => return .error f
    | .ok c =>
      note .info ("Loaded config from: " ++ path)
      return .ok c

def isAbsolute (path : String) : Bool := path.toList.head? = some '/'

-- A directory of the user: what the variable names, if that is absolute, or a place at home.
def userDirectory (variable_ place : String) : Action (Option String) := do
  match (← ask (.variable variable_)).filter isAbsolute with
  | some d => return some d
  | none =>
    match (← ask (.variable "HOME")).filter (· ≠ "") with
    | some home => return some (Files.Path.join home place)
    | none => return none

def fileName : String := applicationName ++ ".yml"

def candidates : Action (List String) := do
  match ← userDirectory "XDG_CONFIG_HOME" ".config" with
  | none => return [fileName]
  | some d => return [fileName, Files.Path.join (Files.Path.join d applicationName) fileName]

def loadFirst : List String → Action (Except LoadFailure Config)
  | [] => do
    note .info "No config file found, using defaults"
    return .ok (← standardHere)
  | path :: rest => do
    if ← ask (.isPresent path) then loadFile path else loadFirst rest

def load : Option String → Action (Except LoadFailure Config)
  | some path => loadFile path
  | none => do loadFirst (← candidates)

end Overseer.Config
