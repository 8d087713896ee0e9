import Overseer.Config.Overrides

set_option autoImplicit false

namespace Overseer.CommandLine

open Text (Numeral.word32 Numeral.word64)

structure RunOptions where
  ceiling : Option UInt32
  directory : Option String
  logPath : Option String
  timeout : Option UInt64
  -- What is supervised in place of the steps, unless it is empty.
  command : List String
deriving DecidableEq, Repr

structure StatusOptions where
  session : Option UInt64
  directory : Option String
deriving DecidableEq, Repr

inductive Task where
  | run (options : RunOptions)
  | status (options : StatusOptions)
deriving DecidableEq, Repr

structure Invocation where
  config : Option String
  verbose : Bool
  task : Option Task
deriving DecidableEq, Repr

def RunOptions.none : RunOptions := ⟨.none, .none, .none, .none, []⟩

def RunOptions.overrides (o : RunOptions) : Config.Overrides where
  directory := o.directory
  logPath := o.logPath
  ceiling := o.ceiling
  timeout := o.timeout
  command := if o.command = [] then .none else some o.command

def StatusOptions.overrides (o : StatusOptions) : Config.Overrides :=
  { Config.Overrides.empty with directory := o.directory }

inductive Key where
  | config
  | verbose
  | help
  | version
  | ceiling
  | directory
  | logPath
  | timeout
  | session
deriving DecidableEq, Repr

namespace Key

def name : Key → String
  | config => "config"
  | verbose => "verbose"
  | help => "help"
  | version => "version"
  | ceiling => "retry-ceiling"
  | directory => "storage-dir"
  | logPath => "log-path"
  | timeout => "attempt-timeout-ms"
  | session => "session"

def letter? : Key → Option Char
  | config => some 'c'
  | verbose => some 'v'
  | help => some 'h'
  | version => some 'V'
  | ceiling => some 'r'
  | session => some 's'
  | _ => none

def takesValue : Key → Bool
  | verbose => false
  | help => false
  | version => false
  | _ => true

end Key

inductive Level where
  | top
  | run
  | status
deriving DecidableEq, Repr

def Level.keys : Level → List Key
  | top => [.config, .verbose, .help, .version]
  | run => [.ceiling, .directory, .logPath, .timeout, .config, .verbose, .help]
  | status => [.session, .directory, .config, .verbose, .help]

def runWord : String := "run"

def statusWord : String := "status"

def helpWord : String := "help"

def separator : String := "--"

def flagWord (k : Key) : String := "--" ++ k.name

def settingWord (k : Key) (value : String) : String := "--" ++ k.name ++ "=" ++ value

def settingWords (k : Key) (value : Option String) : List String :=
  (value.map (settingWord k)).toList

def RunOptions.words (o : RunOptions) : List String :=
  settingWords .ceiling (o.ceiling.map Numeral.word32) ++
  settingWords .directory o.directory ++
  settingWords .logPath o.logPath ++
  settingWords .timeout (o.timeout.map Numeral.word64)

def StatusOptions.words (o : StatusOptions) : List String :=
  settingWords .session (o.session.map Numeral.word64) ++ settingWords .directory o.directory

namespace Invocation

def shared (i : Invocation) : List String :=
  settingWords .config i.config ++ if i.verbose then [flagWord .verbose] else []

def words (i : Invocation) (sharedFirst : Bool) : List String :=
  let before := if sharedFirst then i.shared else []
  let after := if sharedFirst then [] else i.shared
  match i.task with
  | none => i.shared
  | some (.run o) =>
    before ++ runWord :: o.words ++ after ++
      if o.command = [] then [] else separator :: o.command
  | some (.status o) => before ++ statusWord :: o.words ++ after

end Invocation

end Overseer.CommandLine
