import Overseer.Config.Settings
import Overseer.Config.Steps

set_option autoImplicit false

namespace Overseer.Config

open Yaml Decode
open Text (Numeral.word32 Numeral.word64)

def channels : List (String × Channel) := [("log", .log), ("webhook", .webhook)]

def Channel.label : Channel → String
  | .log => "log"
  | .webhook => "webhook"

def storageFields : List (Member Storage) :=
  [field "dir" path fun v s => { s with directory := v },
   field "prefix" string fun v s => { s with stem := v }]

def logFields : List (Member Log) :=
  [field "path" path fun v s => { s with path := v },
   field "console" boolean fun v s => { s with console := v }]

def retryFields : List (Member Retry) :=
  [field "retry-ceiling" word32 fun v s => { s with ceiling := v }]

def workFields : List (Member Work) :=
  [field "steps" (Steps.decode 3) fun v s => { s with steps := v },
   optionalField "attempt-timeout-ms" word64 fun v s => { s with timeout := v },
   optionalField "working-dir" path fun v s => { s with directory := v }]

def notifyFields : List (Member Notify) :=
  [choiceField "kind" channels fun v s => { s with channel := v },
   field "url" string fun v s => { s with url := v },
   field "api-key-env" string fun v s => { s with keyVariable := v },
   optionalField "to" string fun v s => { s with recipient := v },
   optionalField "from" string fun v s => { s with sender := v },
   field "subject-prefix" string fun v s => { s with subject := v },
   field "timeout-ms" word64 fun v s => { s with timeout := v }]

def sections (c : Config) : List (Member Config) :=
  [field "storage" (record "StorageConfig" storageFields c.storage) fun v c =>
     { c with storage := v },
   field "log" (record "LogConfig" logFields c.log) fun v c => { c with log := v },
   field "supervisor" (record "SupervisorConfig" retryFields c.retry) fun v c =>
     { c with retry := v },
   field "workload" (record "WorkloadConfig" workFields c.work) fun v c => { c with work := v },
   field "notify" (record "NotifyConfig" notifyFields c.notify) fun v c =>
     { c with notify := v }]

def decode (default_ : Config) (d : Document) : Except Mismatch Config :=
  record "Config" (sections default_) default_ d .root d.root

def flag (b : Bool) : Node := .plain (if b then "true" else "false")

def present (key : String) : Option Node → List (String × Node)
  | none => []
  | some n => [(key, n)]

def encodeStorage (s : Storage) : Node :=
  Steps.mapping [("dir", .string s.directory), ("prefix", .string s.stem)]

def encodeLog (s : Log) : Node :=
  Steps.mapping [("path", .string s.path), ("console", flag s.console)]

def encodeRetry (s : Retry) : Node :=
  Steps.mapping [("retry-ceiling", .plain (Numeral.word32 s.ceiling))]

def encodeWork (s : Work) : Node :=
  Steps.mapping ([("steps", Steps.encode s.steps)] ++
    present "attempt-timeout-ms" (s.timeout.map fun n => .plain (Numeral.word64 n)) ++
    present "working-dir" (s.directory.map .string))

def encodeNotify (s : Notify) : Node :=
  Steps.mapping ([("kind", .string s.channel.label), ("url", .string s.url),
      ("api-key-env", .string s.keyVariable)] ++
    present "to" (s.recipient.map .string) ++ present "from" (s.sender.map .string) ++
    [("subject-prefix", .string s.subject), ("timeout-ms", .plain (Numeral.word64 s.timeout))])

def encode (c : Config) : Node :=
  Steps.mapping
    [("storage", encodeStorage c.storage), ("log", encodeLog c.log),
     ("supervisor", encodeRetry c.retry), ("workload", encodeWork c.work),
     ("notify", encodeNotify c.notify)]

end Overseer.Config
