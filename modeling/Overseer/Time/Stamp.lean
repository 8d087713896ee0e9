import Overseer.Text.Numeral
import Overseer.Time.Date

set_option autoImplicit false

namespace Overseer.Time

open Text

-- From 1000000000 on, the nanoseconds lie in a leap second.
structure Instant where
  seconds : Int
  nanos : Nat
deriving DecidableEq, Repr

namespace Instant

def day (t : Instant) : Int := t.seconds / 86400

def secondOfDay (t : Instant) : Nat := (t.seconds % 86400).toNat

def isLeap (t : Instant) : Bool := 1000000000 ≤ t.nanos

def firstDay : Int := Date.dayNumber ⟨-262143, 1, 1⟩

def lastDay : Int := Date.dayNumber ⟨262142, 12, 31⟩

def isValid (t : Instant) : Bool :=
  firstDay ≤ t.day && t.day ≤ lastDay && t.nanos < 2000000000 &&
    (!t.isLeap || t.secondOfDay % 60 == 59)

end Instant

structure Stamp where
  date : Date
  hour : Nat
  minute : Nat
  second : Nat
  micro : Nat
deriving DecidableEq, Repr

namespace Stamp

def ofInstant (t : Instant) : Stamp where
  date := Date.ofDayNumber t.day
  hour := t.secondOfDay / 3600
  minute := t.secondOfDay / 60 % 60
  second := t.secondOfDay % 60 + (if t.isLeap then 1 else 0)
  micro := t.nanos % 1000000000 / 1000

-- Four digits, and a sign for a year that they cannot hold.
def yearText : Int → List Char
  | .ofNat y => if y ≤ 9999 then Numeral.padded 4 y else '+' :: Numeral.digits y
  | .negSucc y => '-' :: Numeral.padded 4 (y + 1)

def chars (s : Stamp) : List Char :=
  yearText s.date.year ++ '-' :: Numeral.padded 2 s.date.month ++ '-' :: Numeral.padded 2 s.date.day
    ++ ' ' :: Numeral.padded 2 s.hour ++ ':' :: Numeral.padded 2 s.minute
    ++ ':' :: Numeral.padded 2 s.second ++ '.' :: Numeral.padded 6 s.micro

def text (s : Stamp) : String := String.ofList s.chars

end Stamp

end Overseer.Time
