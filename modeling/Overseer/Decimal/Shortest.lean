import Overseer.Decimal.Double

set_option autoImplicit false

namespace Overseer.Decimal

structure Digits where
  digits : Nat
  exponent : Int
deriving DecidableEq, Repr

-- The decimals that round to a number: between the middles to its neighbours, which count as well where
-- the mantissa is even. All three are multiples of a quarter of the last bit.
structure Interval where
  low : Nat
  middle : Nat
  high : Nat
  closed : Bool
  unit : Int

namespace Interval

def ofDouble (d : Double) : Interval where
  low := 4 * d.mantissa - (if d.mantissa = Nat.pow 2 52 && -1074 < d.exponent then 1 else 2)
  middle := 4 * d.mantissa
  high := 4 * d.mantissa + 2
  closed := d.mantissa % 2 = 0
  unit := d.exponent - 2

def compareTo (i : Interval) (c : Digits) (multiple : Nat) : Ordering :=
  let a := Ratio.scaled c.digits 10 c.exponent
  let b := Ratio.scaled multiple 2 i.unit
  compare (a.num * b.den) (b.num * a.den)

def contains (i : Interval) (c : Digits) : Bool :=
  let low := i.compareTo c i.low
  let high := i.compareTo c i.high
  (low == .gt || (i.closed && low == .eq)) && (high == .lt || (i.closed && high == .eq))

def floor (i : Interval) (exponent : Int) : Digits :=
  let v := Ratio.scaled i.middle 2 i.unit
  let g := Ratio.scaled 1 10 exponent
  ⟨v.num * g.den / (v.den * g.num), exponent⟩

def lowerIsNearer (i : Interval) (below : Digits) : Bool :=
  let v := Ratio.scaled i.middle 2 i.unit
  let g := Ratio.scaled (2 * below.digits + 1) 10 below.exponent
  2 * v.num * g.den ≤ g.num * v.den

def onGrid (i : Interval) (exponent : Int) : Option Digits :=
  let below := i.floor exponent
  let above : Digits := { below with digits := below.digits + 1 }
  match i.contains below, i.contains above with
  | true, true => some (if i.lowerIsNearer below then below else above)
  | true, false => some below
  | false, true => some above
  | false, false => none

def search (i : Interval) : Nat → Int → Digits
  | 0, exponent => i.floor exponent
  | n + 1, exponent => (i.onGrid exponent).getD (search i n (exponent - 1))

end Interval

def magnitude (d : Double) : Int :=
  let v := Ratio.scaled d.mantissa 2 d.exponent
  (Nat.toDigits 10 v.num).length - (Nat.toDigits 10 v.den).length + 1

def shortest (d : Double) : Digits := (Interval.ofDouble d).search 18 (magnitude d)

def Digits.positional (c : Digits) : List Char :=
  match c.exponent with
  | .ofNat e => Nat.toDigits 10 (c.digits * Nat.pow 10 e) ++ ['.', '0']
  | .negSucc e =>
    let places := e + 1
    let ds := Nat.toDigits 10 c.digits
    let ds := List.replicate (places + 1 - ds.length) '0' ++ ds
    ds.take (ds.length - places) ++ '.' :: ds.drop (ds.length - places)

def Double.text (d : Double) : String :=
  let body := if d.mantissa = 0 then ['0', '.', '0'] else (shortest d).positional
  String.ofList (if d.negative then '-' :: body else body)

end Overseer.Decimal
