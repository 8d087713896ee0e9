import Overseer.Text.Numeral

set_option autoImplicit false

namespace Overseer

open Text (Numeral.word32 Numeral.word64)

inductive Phase where
  | init
  | running
  | retrying
  | succeeded
  | exhausted
deriving DecidableEq, Repr

def Phase.label : Phase → String
  | init => "init"
  | running => "running"
  | retrying => "retrying"
  | succeeded => "succeeded"
  | exhausted => "exhausted"

def Phase.all : List Phase := [.init, .running, .retrying, .succeeded, .exhausted]

-- The number is 0 until one is allocated.
structure Session where
  id : UInt64
  failures : UInt32
  ceiling : UInt32
deriving DecidableEq, Repr

namespace Session

def fresh (ceiling : UInt32) : Session := ⟨0, 0, ceiling⟩

def canRetry (s : Session) : Bool := s.failures < s.ceiling

inductive Outcome where
  | succeeded
  | exhausted
  | cancelled
deriving DecidableEq, Repr

def Outcome.exitCode : Outcome → Nat
  | succeeded => 0
  | exhausted => 1
  | cancelled => 130

structure Report where
  session : Session
  outcome : Outcome
deriving DecidableEq, Repr

def Report.exitCode (r : Report) : Nat := r.outcome.exitCode

def Report.summary (r : Report) : String :=
  let id := Numeral.word64 r.session.id
  let failures := Numeral.word32 r.session.failures
  match r.outcome with
  | .succeeded => "Session " ++ id ++ " succeeded after " ++ failures ++ " failures"
  | .exhausted => "Session " ++ id ++ " exhausted after " ++ failures ++ " failures, giving up"
  | .cancelled =>
    "Session " ++ id ++ " cancelled by shutdown request after " ++ failures ++ " failures"

def startMessage : String := "Starting the process..."

def restartMessage : String := "Restarting the process..."

def incrementStem : String := "Process ended with failure, incrementing failure count to"

def incrementMessage (count : UInt32) : String :=
  incrementStem ++ " " ++ Numeral.word32 count ++ "..."

def escalationMessage (count : UInt32) : String :=
  "Process has failed " ++ Numeral.word32 count ++ " times, sending notification..."

def undeliveredMessage (reason : String) : String := "Notification failed: " ++ reason

-- The closing line of a session that a fault ended. The number 0 is never allocated, so a session that
-- has it has no counter either.
def abortMessage (id : UInt64) (reason : String) : String :=
  if id = 0 then "Supervisor aborted before session allocation: " ++ reason
  else "Session " ++ Numeral.word64 id ++ " aborted: " ++ reason

end Session

end Overseer
