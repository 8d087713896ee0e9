import Overseer.CommandLine.Arguments

set_option autoImplicit false

namespace Overseer.CommandLine

def version : String := "0.1.0"

def versionText : String := Config.applicationName ++ " " ++ version ++ "\n"

namespace Key

def placeholder (k : Key) : String :=
  String.ofList (k.name.toList.map fun c => if c = '-' then '_' else c.toUpper)

def form (k : Key) : String :=
  flagWord k ++ if k.takesValue then " <" ++ k.placeholder ++ ">" else ""

def about (level : Level) : Key → String
  | config => "Optional config file path"
  | verbose => "Verbose output"
  | help => "Print help"
  | version => "Print version"
  | ceiling => "Failed attempts tolerated before escalation"
  | directory =>
    if level = .status then "Counter directory (overrides config)" else "Counter directory"
  | logPath => "Process log file"
  | timeout => "Kill and fail an attempt after this many milliseconds"
  | session => "Only show this session"

def column (k : Key) : String :=
  (match k.letter? with
   | some c => String.ofList ['-', c, ',', ' ']
   | none => "    ") ++ k.form

end Key

def table (rows : List (String × String)) : String :=
  let width := (rows.map fun row => row.1.length).foldl max 0
  String.join (rows.map fun row =>
    "  " ++ row.1 ++ String.ofList (List.replicate (width + 2 - row.1.length) ' ') ++ row.2 ++ "\n")

namespace Level

def about : Level → String
  | top => "Helmsman - restart a failing workload with bounded retries"
  | run => "Run one supervised session"
  | status => "Show persisted failure counts"

def usage : Level → String
  | top => Config.applicationName ++ " [OPTIONS] [COMMAND]"
  | run => Config.applicationName ++ " " ++ runWord ++ " [OPTIONS] [-- <COMMAND>...]"
  | status => Config.applicationName ++ " " ++ statusWord ++ " [OPTIONS]"

def others : Level → String
  | top =>
    "Commands:\n" ++ table
      [(runWord, run.about), (statusWord, status.about),
       (helpWord, "Print this message or the help of the given subcommand(s)")] ++ "\n"
  | run =>
    "Arguments:\n" ++ table
      [("[COMMAND]...", "Program and arguments to supervise instead of the configured steps")] ++ "\n"
  | status => ""

def help (l : Level) : String :=
  l.about ++ "\n\nUsage: " ++ l.usage ++ "\n\n" ++ l.others ++ "Options:\n" ++
    table (l.keys.map fun k => (k.column, k.about l))

end Level

namespace Stop

def message : Stop → String
  | unknown w => "unexpected argument '" ++ w ++ "' found"
  | noSuchTask w => "unrecognized subcommand '" ++ w ++ "'"
  | missingValue k => "a value is required for '" ++ k.form ++ "' but none was supplied"
  | badValue k v reason => "invalid value '" ++ v ++ "' for '" ++ k.form ++ "': " ++ reason
  | unwantedValue k v =>
    "unexpected value '" ++ v ++ "' for '" ++ k.form ++ "' found; no more were expected"
  | repeated k => "the argument '" ++ k.form ++ "' cannot be used multiple times"
  | help l => l.help
  | version => versionText

def isAnswer : Stop → Bool
  | help _ => true
  | version => true
  | _ => false

def text (s : Stop) : String :=
  if s.isAnswer then s.message
  else "error: " ++ s.message ++ "\n\nFor more information, try '" ++ flagWord .help ++ "'.\n"

end Stop

end Overseer.CommandLine
