import Overseer.Fault
import Overseer.Files.Path
import Overseer.Workload.Step

set_option autoImplicit false

namespace Overseer

namespace Config

structure Storage where
  directory : String
  stem : String
deriving DecidableEq, Repr

structure Log where
  path : String
  console : Bool
deriving DecidableEq, Repr

structure Retry where
  ceiling : UInt32
deriving DecidableEq, Repr

structure Work where
  steps : List Workload.Step
  -- Milliseconds that an attempt may take.
  timeout : Option UInt64
  directory : Option String
deriving DecidableEq, Repr

inductive Channel where
  | log
  | webhook
deriving DecidableEq, Repr

structure Notify where
  channel : Channel
  url : String
  keyVariable : String
  recipient : Option String
  -- The recipient, where it is absent.
  sender : Option String
  subject : String
  -- Milliseconds.
  timeout : UInt64
deriving DecidableEq, Repr

end Config

structure Config where
  storage : Config.Storage
  log : Config.Log
  retry : Config.Retry
  work : Config.Work
  notify : Config.Notify
deriving DecidableEq, Repr

namespace Config

def applicationName : String := "helmsman"

def defaultDirectory : String := "./failures"

def defaultStem : String := "fail_file_"

def defaultLogFile : String := "process_log.txt"

def defaultCeiling : UInt32 := 10

def standard (workingDirectory : Option String) : Config where
  storage := ⟨defaultDirectory, defaultStem⟩
  log := ⟨Files.Path.join (workingDirectory.getD ".") defaultLogFile, true⟩
  retry := ⟨defaultCeiling⟩
  work := ⟨Workload.Step.placeholder, none, none⟩
  notify :=
    { channel := .log
      url := "https://api.sendgrid.com/v3/mail/send"
      keyVariable := "SENDGRID_API_KEY"
      recipient := none
      sender := none
      subject := "Helmsman"
      timeout := 10000 }

inductive Flaw where
  | zeroCeiling
  | noSteps
  | noStem
  | noRecipient
deriving DecidableEq, Repr

def Flaw.detail : Flaw → String
  | zeroCeiling => "supervisor.retry-ceiling must be > 0"
  | noSteps => "workload.steps must not be empty"
  | noStem => "storage.prefix must not be empty"
  | noRecipient => "notify.to is required for webhook notifications"

def Flaw.fault (f : Flaw) : Fault := ⟨.config, f.detail⟩

def validate (c : Config) : Except Flaw Unit :=
  if c.retry.ceiling = 0 then .error .zeroCeiling
  else if c.work.steps = [] then .error .noSteps
  else if c.storage.stem = "" then .error .noStem
  else if c.notify.channel = .webhook ∧ c.notify.recipient = none then .error .noRecipient
  else .ok ()

end Config

end Overseer
