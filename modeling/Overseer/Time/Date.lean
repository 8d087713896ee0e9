set_option autoImplicit false

namespace Overseer.Time

structure Date where
  year : Int
  month : Nat
  day : Nat
deriving DecidableEq, Repr

namespace Date

-- Days from the first of March of the year 0 to 1970-01-01.
def epochShift : Int := 719468

def cycle : Int := 146097

def yearOfCycle (n : Nat) : Nat := (n - n / 1460 + n / 36524 - n / 146096) / 365

def daysBeforeYear (y : Nat) : Nat := 365 * y + y / 4 - y / 100

-- Days before a month, where March is month 0.
def daysBeforeMonth (m : Nat) : Nat := (153 * m + 2) / 5

def ofDayNumber (n : Int) : Date :=
  let shifted := n + epochShift
  let inCycle := (shifted % cycle).toNat
  let year := yearOfCycle inCycle
  let inYear := inCycle - daysBeforeYear year
  let month := (5 * inYear + 2) / 153
  { year := shifted / cycle * 400 + year + (if month < 10 then 0 else 1)
    month := if month < 10 then month + 3 else month - 9
    day := inYear - daysBeforeMonth month + 1 }

def dayNumber (d : Date) : Int :=
  let year := if d.month ≤ 2 then d.year - 1 else d.year
  let month := if d.month ≤ 2 then d.month + 9 else d.month - 3
  let inCycle := daysBeforeYear (year % 400).toNat + daysBeforeMonth month + (d.day - 1)
  year / 400 * cycle + inCycle - epochShift

def weekday (n : Int) : Nat := ((n + 4) % 7).toNat

end Date

end Overseer.Time
