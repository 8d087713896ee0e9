import Overseer.CommandLine.Counts
import Overseer.CommandLine.Usage
import Overseer.Config.Load
import Overseer.Diagnostic.Filter
import Overseer.Session.Assembly

set_option autoImplicit false

namespace Overseer.CommandLine

open Host (Action ask note)
open Text (Numeral.word32 Numeral.word64)

inductive Trouble where
  | noLogDirectory (cause : Refusal)
  | noLogFile (cause : Refusal)
  | unloaded (cause : Config.LoadFailure)
  | badCeiling (cause : Config.BadCeiling)
  | unfit (cause : Session.Defect)
  | unread (session : UInt64) (cause : Counter.Failure)
  | unlisted (cause : Counter.Failure)
deriving DecidableEq, Repr

def Trouble.message : Trouble → String
  | noLogDirectory r =>
    "Failed to setup logging: Failed to create log directory: " ++ r.message
  | noLogFile r => "Failed to setup logging: Failed to open log file: " ++ r.message
  | unloaded f => "Failed to load configuration: " ++ f.fault.message
  | badCeiling b => "Invalid environment override: " ++ b.fault.message
  | unfit d => "Failed to build supervisor: " ++ d.fault.message
  | unread id f => "Failed to read session " ++ Numeral.word64 id ++ ": " ++ f.fault.message
  | unlisted f => "Failed to list sessions: " ++ f.fault.message

inductive Outcome where
  | reported (report : Session.Report)
  | shown
  | faulted (fault : Fault)
  | troubled (trouble : Trouble)
  | unprinted
deriving DecidableEq, Repr

namespace Outcome

def code : Outcome → Nat
  | reported r => r.exitCode
  | shown => 0
  | faulted _ => 2
  | troubled _ => 2
  | unprinted => 101

def ofSession : Except Fault Session.Report → Outcome
  | .error f => faulted f
  | .ok r => reported r

def fatal? : Outcome → Option String
  | faulted f => some f.message
  | troubled t => some t.message
  | _ => none

end Outcome

def filterVariable : String := "RUST_LOG"

def dataDirectory : Action String := do
  return (← Config.userDirectory "XDG_DATA_HOME" ".local/share").getD "."

def logDirectory (data : String) : String :=
  Files.Path.join (Files.Path.join data Config.applicationName) "logs"

def logFile (data : String) : String :=
  Files.Path.join (logDirectory data) (Config.applicationName ++ ".log")

def openDiagnostics : Action (Except Trouble Unit) := do
  let data ← dataDirectory
  match ← ask (.makePath (logDirectory data)) with
  | .error r => return .error (.noLogDirectory r)
  | .ok () =>
    match ← ask (.openEnd (logFile data)) with
    | .error r => return .error (.noLogFile r)
    | .ok () =>
      let filter := Diagnostic.Filter.ofVariable (← ask (.variable filterVariable))
      ask (.listen (logFile data) (filter.listener Config.applicationName))
      note .info ("Logging initialized, writing to: " ++ logFile data)
      return .ok ()

def settings (layer : Config.Overrides) (c : Config) : Action (Except Trouble Config) := do
  match ← Config.Overrides.ofEnvironment with
  | .error b => return .error (.badCeiling b)
  | .ok environment => return .ok ((layer.above environment).apply c)

def announcement (painting : Bool) (c : Config) : String :=
  Paint.cyan.apply painting "Supervising:" ++ " " ++
    String.intercalate " && " (c.work.steps.map Workload.Step.text) ++
    " (retry ceiling " ++ Numeral.word32 c.retry.ceiling ++ ", counters in " ++
    c.storage.directory ++ ")"

def printLines : List String → Action Bool
  | [] => return true
  | line :: rest => do
    match ← ask (.print (line ++ "\n")) with
    | .error _ => return false
    | .ok () => printLines rest

-- Supervises one session. From here on an interrupt only asks for a stop.
def supervised (c : Config) : Action Outcome := do
  ask .awaitInterrupt
  match ← Session.Supervisor.assemble c with
  | .error d => return .troubled (.unfit d)
  | .ok s => return .ofSession (← s.run)

def RunOptions.perform (o : RunOptions) (verbose painting : Bool) (c : Config) :
    Action Outcome := do
  match ← settings o.overrides c with
  | .error t => return .troubled t
  | .ok c =>
    if ← printLines (if verbose then [announcement painting c] else []) then supervised c
    else return .unprinted

def storeOf (c : Config) : Counter.Store := ⟨c.storage.directory, c.storage.stem⟩

def counts (s : Counter.Store) : Option UInt64 → Action (Except Trouble (List (UInt64 × UInt32)))
  | some id => do
    match ← s.read id with
    | .error f => return .error (.unread id f)
    | .ok count => return .ok [(id, count)]
  | none => do
    return (← s.list).mapError .unlisted

def StatusOptions.perform (o : StatusOptions) (painting : Bool) (c : Config) :
    Action Outcome := do
  match ← settings o.overrides c with
  | .error t => return .troubled t
  | .ok c =>
    match ← counts (storeOf c) o.session with
    | .error t => return .troubled t
    | .ok counts =>
      if ← printLines (countLines painting c.storage.directory c.retry.ceiling counts) then
        return .shown
      else return .unprinted

def givenFile : Option String → String
  | none => "None"
  | some path => "Some(" ++ Text.quotedPath path ++ ")"

def Invocation.perform (i : Invocation) (painting : Bool) : Action Outcome := do
  match ← openDiagnostics with
  | .error t => return .troubled t
  | .ok () =>
    match ← Config.load i.config with
    | .error f => return .troubled (.unloaded f)
    | .ok c =>
      note .info ("Starting with config from: " ++ givenFile i.config)
      match i.task with
      | none => RunOptions.none.perform i.verbose painting c
      | some (.run o) => o.perform i.verbose painting c
      | some (.status o) => o.perform painting c

-- The answer to words that ask for nothing to be done. That it cannot be printed is no failure.
def Stop.tell (s : Stop) : Action Nat := do
  if s.isAnswer then
    let _ ← ask (.print s.text)
    return 0
  else
    ask (.complain s.text)
    return 2

def run (words : List String) : Action Nat := do
  match parse words with
  | .error s => s.tell
  | .ok i =>
    let painting ← Paint.isDemanded
    let outcome ← i.perform painting
    match outcome.fatal? with
    | none => return outcome.code
    | some text =>
      ask (.complain (Paint.red.apply painting "Fatal:" ++ " " ++ text ++ "\n"))
      return outcome.code

end Overseer.CommandLine
