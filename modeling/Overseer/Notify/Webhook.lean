import Overseer.Fault
import Overseer.Host.Call
import Overseer.Notify.Address
import Overseer.Notify.Mail
import Overseer.Notify.Status

set_option autoImplicit false

namespace Overseer.Notify

open Host (Action ask note)
open Text (Numeral.word64)

structure Webhook where
  url : String
  key : String
  recipient : String
  sender : String
  title : String
  timeout : Host.Duration
deriving DecidableEq, Repr

inductive Obstacle where
  | unusable
  | unsupported (address : Address)
  | unreachable (address : Address)
deriving DecidableEq, Repr

def Obstacle.text : Obstacle → String
  | unusable => "builder error"
  | unsupported a => "builder error for url (" ++ a.text ++ ")"
  | unreachable a => "error sending request for url (" ++ a.text ++ ")"

inductive Failure where
  | unsent (url : String) (cause : Obstacle)
  | declined (url : String) (reply : Host.Reply)
deriving DecidableEq, Repr

def Failure.detail : Failure → String
  | unsent url cause => "request to " ++ url ++ " failed: " ++ cause.text
  | declined url reply =>
    url ++ " returned " ++ statusText reply.status ++ ": " ++ reply.body

def Failure.fault (f : Failure) : Fault := ⟨.notification, f.detail⟩

def fitsHeader (s : String) : Bool :=
  s.toList.all fun c => c = '\t' || (0x20 ≤ c.toNat && c.toNat ≠ 0x7F)

namespace Webhook

variable (w : Webhook)

-- Where a message goes. An address without a server is refused before the key is looked at, and one of
-- another protocol after it.
def destination : Except Obstacle Address :=
  match Address.read? w.url with
  | none => .error .unusable
  | some a =>
    if !a.hasServer then .error (.unsupported a)
    else if !fitsHeader w.key then .error .unusable
    else if !a.isSendable then .error (.unsupported a)
    else .ok a

def mail (id : UInt64) (count : UInt32) (time : Time.Instant) : Mail :=
  .escalation w.sender w.recipient w.title id count time

def deliver (m : Mail) : Action (Except Failure Host.Reply) :=
  match w.destination with
  | .error o => return .error (.unsent w.url o)
  | .ok a => do
    match ← ask (.post ⟨a.text, w.key, "application/json", m.json, w.timeout⟩) with
    | none => return .error (.unsent w.url (.unreachable a))
    | some reply =>
      if isSuccess reply.status then return .ok reply else return .error (.declined w.url reply)

def send (id : UInt64) (count : UInt32) : Action (Except Failure Unit) := do
  let m := w.mail id count (← ask .clock)
  match ← w.deliver m with
  | .error f => return .error f
  | .ok reply =>
    note .info ("Escalation sent for session " ++ Numeral.word64 id ++ " (" ++
      statusText reply.status ++ ")")
    return .ok ()

end Webhook

end Overseer.Notify
