import Overseer.Config.Settings
import Overseer.Notify.Webhook

set_option autoImplicit false

namespace Overseer.Notify

open Host (Action ask note)
open Text (Numeral.word32 Numeral.word64)

inductive Notifier where
  | log
  | webhook (w : Webhook)
deriving DecidableEq, Repr

inductive Lack where
  | key (variableName : String)
  | recipient
deriving DecidableEq, Repr

def Lack.fault : Lack → Fault
  | key name => ⟨.config, name ++ " not set"⟩
  | recipient => Config.Flaw.noRecipient.fault

def webhookOf (n : Config.Notify) (key : Option String) : Except Lack Webhook :=
  match key, n.recipient with
  | none, _ => .error (.key n.keyVariable)
  | some _, none => .error .recipient
  | some k, some recipient =>
    .ok
      { url := n.url
        key := k
        recipient
        sender := n.sender.getD recipient
        title := n.subject
        timeout := n.timeout.toNat * 1000 }

def prepare (n : Config.Notify) : Action (Except Lack Notifier) :=
  match n.channel with
  | .log => return .ok .log
  | .webhook => do
    let key ← ask (.variable n.keyVariable)
    return (webhookOf n key).map .webhook

namespace Notifier

def send (n : Notifier) (id : UInt64) (count : UInt32) : Action (Except Failure Unit) :=
  match n with
  | .log => do
    note .error ("Escalation: session " ++ Numeral.word64 id ++ " exhausted its retries after " ++
      Numeral.word32 count ++ " failures")
    return .ok ()
  | .webhook w => w.send id count

end Notifier

end Overseer.Notify
