import Overseer.Time.Stamp

set_option autoImplicit false

namespace Overseer.Journal

structure Entry where
  time : Time.Instant
  message : String
deriving DecidableEq, Repr

def Entry.text (e : Entry) : String :=
  (Time.Stamp.ofInstant e.time).text ++ ": " ++ e.message

def Entry.line (e : Entry) : String := e.text ++ "\n"

end Overseer.Journal
