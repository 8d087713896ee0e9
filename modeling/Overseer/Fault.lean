import Overseer.Refusal

set_option autoImplicit false

namespace Overseer

inductive Fault.Kind where
  | storage
  | logSink
  | execution
  | notification
  | config
  | io
  | yaml
deriving DecidableEq, Repr

def Fault.Kind.label : Fault.Kind → String
  | storage => "Storage"
  | logSink => "Log sink"
  | execution => "Execution"
  | notification => "Notification"
  | config => "Config"
  | io => "IO"
  | yaml => "YAML"

structure Fault where
  kind : Fault.Kind
  detail : String
deriving DecidableEq, Repr

def Fault.message (f : Fault) : String := f.kind.label ++ " error: " ++ f.detail

-- A failed notification is recorded and passed over; every other fault ends the session.
def Fault.isFatal (f : Fault) : Bool := f.kind != .notification

def Fault.ofRefusal (r : Refusal) : Fault := ⟨.io, r.message⟩

theorem faulty_ok {ε α : Type} {fault : ε → Fault} {r : Except ε α} {a : α} : r.mapError fault = .ok a ↔ r = .ok a := by
  cases r with
  | error e => exact ⟨nofun, nofun⟩
  | ok b =>
      constructor
      · intro told
        exact congrArg Except.ok (Except.ok.inj told)
      · rintro ⟨⟩
        rfl

end Overseer
