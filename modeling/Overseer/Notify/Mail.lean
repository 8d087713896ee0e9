import Overseer.Text.Numeral
import Overseer.Time.Stamp

set_option autoImplicit false

namespace Overseer.Notify

open Text (Numeral.word32 Numeral.word64 Numeral.padded Numeral.text)

structure Mail where
  sender : String
  recipient : String
  subject : String
  content : String
deriving DecidableEq, Repr

def weekdayNames : List String := ["Sun", "Mon", "Tue", "Wed", "Thu", "Fri", "Sat"]

def monthNames : List String :=
  ["Jan", "Feb", "Mar", "Apr", "May", "Jun", "Jul", "Aug", "Sep", "Oct", "Nov", "Dec"]

def dateText (t : Time.Instant) : String :=
  let stamp := Time.Stamp.ofInstant t
  let two (n : Nat) : String := String.ofList (Numeral.padded 2 n)
  weekdayNames.getD (Time.Date.weekday t.day) "" ++ " " ++
    monthNames.getD (stamp.date.month - 1) "" ++ " " ++ two stamp.date.day ++ " " ++
    String.ofList (Time.Stamp.yearText stamp.date.year) ++ " " ++
    two stamp.hour ++ ":" ++ two stamp.minute ++ ":" ++ two stamp.second

def Mail.escalation (sender recipient title : String) (id : UInt64) (count : UInt32)
    (time : Time.Instant) : Mail :=
  let subject := title ++ " -- Process failed " ++ Numeral.word32 count ++ " times (session " ++
    Numeral.word64 id ++ ")"
  ⟨sender, recipient, subject, subject ++ ". Failure occurred at " ++ dateText time⟩

namespace Json

def hexDigits (n : Nat) : List Char :=
  List.replicate (4 - (Nat.toDigits 16 n).length) '0' ++ Nat.toDigits 16 n

def escape (c : Char) : List Char :=
  if c = '"' || c = '\\' then ['\\', c]
  else if c = '\n' then ['\\', 'n']
  else if c = '\r' then ['\\', 'r']
  else if c = '\t' then ['\\', 't']
  else if c.toNat = 8 then ['\\', 'b']
  else if c.toNat = 12 then ['\\', 'f']
  else if c.toNat < 0x20 then '\\' :: 'u' :: hexDigits c.toNat
  else [c]

def string (s : String) : String := String.ofList ('"' :: s.toList.flatMap escape ++ ['"'])

def object (fields : List (String × String)) : String :=
  "\x7b" ++ String.intercalate "," (fields.map fun f => string f.1 ++ ":" ++ f.2) ++ "\x7d"

def list (items : List String) : String := "[" ++ String.intercalate "," items ++ "]"

end Json

def Mail.json (m : Mail) : String :=
  let person (address : String) : String := Json.object [("email", Json.string address)]
  Json.object
    [("content", Json.list [Json.object
        [("type", Json.string "text/plain"), ("value", Json.string m.content)]]),
     ("from", person m.sender),
     ("personalizations", Json.list [Json.object [("to", Json.list [person m.recipient])]]),
     ("subject", Json.string m.subject)]

end Overseer.Notify
