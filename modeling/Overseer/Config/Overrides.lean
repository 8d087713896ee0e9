import Overseer.Config.Settings
import Overseer.Host.Call
import Overseer.Text.Blank

set_option autoImplicit false

namespace Overseer.Config

structure Overrides where
  directory : Option String
  logPath : Option String
  ceiling : Option UInt32
  timeout : Option UInt64
  -- A program and its arguments in place of the steps.
  command : Option (List String)
deriving DecidableEq, Repr

def directoryVariable : String := "HELMSMAN_STORAGE_DIR"

def logPathVariable : String := "HELMSMAN_LOG_PATH"

def ceilingVariable : String := "HELMSMAN_RETRY_CEILING"

structure BadCeiling where
  raw : String
  cause : Text.Numeral.Error
deriving DecidableEq, Repr

def BadCeiling.fault (b : BadCeiling) : Fault :=
  ⟨.config, ceilingVariable ++ " must be a non-negative integer, got '" ++ b.raw ++ "': " ++
    b.cause.message⟩

namespace Overrides

def empty : Overrides := ⟨none, none, none, none, none⟩

-- What is set in the higher layer wins.
def above (higher lower : Overrides) : Overrides where
  directory := higher.directory <|> lower.directory
  logPath := higher.logPath <|> lower.logPath
  ceiling := higher.ceiling <|> lower.ceiling
  timeout := higher.timeout <|> lower.timeout
  command := higher.command <|> lower.command

def readCeiling : Option String → Except BadCeiling (Option UInt32)
  | none => .ok none
  | some raw =>
    match Text.Numeral.readWord32 (Text.trim raw) with
    | .ok n => .ok (some n)
    | .error e => .error ⟨raw, e⟩

def ofValues (directory logPath ceiling : Option String) : Except BadCeiling Overrides :=
  (readCeiling ceiling).map fun n =>
    { empty with directory := directory, logPath := logPath, ceiling := n }

def ofVariables (lookup : String → Option String) : Except BadCeiling Overrides :=
  ofValues (lookup directoryVariable) (lookup logPathVariable) (lookup ceilingVariable)

def ofEnvironment : Host.Action (Except BadCeiling Overrides) := do
  let ceiling ← Host.ask (.variable ceilingVariable)
  let directory ← Host.ask (.variable directoryVariable)
  let logPath ← Host.ask (.variable logPathVariable)
  return ofValues directory logPath ceiling

def steps? : Option (List String) → Option (List Workload.Step)
  | some (program :: arguments) => some [.command program arguments]
  | _ => none

def apply (o : Overrides) (c : Config) : Config :=
  { c with
    storage := { c.storage with directory := o.directory.getD c.storage.directory }
    log := { c.log with path := o.logPath.getD c.log.path }
    retry := ⟨o.ceiling.getD c.retry.ceiling⟩
    work :=
      { c.work with
        steps := (steps? o.command).getD c.work.steps
        timeout := o.timeout <|> c.work.timeout } }

end Overrides

end Overseer.Config
