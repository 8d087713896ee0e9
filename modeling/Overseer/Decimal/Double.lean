set_option autoImplicit false

namespace Overseer.Decimal

-- A finite number: its mantissa, below 2^53, times two to its exponent.
structure Double where
  negative : Bool
  mantissa : Nat
  exponent : Int
deriving DecidableEq, Repr

structure Ratio where
  num : Nat
  den : Nat

def Ratio.scaled (n base : Nat) (exponent : Int) : Ratio :=
  match exponent with
  | .ofNat e => ⟨n * Nat.pow base e, 1⟩
  | .negSucc e => ⟨n, Nat.pow base (e + 1)⟩

def Ratio.shifted (r : Ratio) (shift : Int) : Nat × Ratio :=
  let den := match shift with
    | .ofNat s => r.den * Nat.pow 2 s
    | .negSucc _ => r.den
  let num := match shift with
    | .ofNat _ => r.num
    | .negSucc s => r.num * Nat.pow 2 (s + 1)
  (num / den, ⟨num % den, den⟩)

namespace Double

def zero (negative : Bool) : Double := ⟨negative, 0, -1074⟩

def exponentOf (r : Ratio) : Int :=
  let guess := (r.num.log2 : Int) - r.den.log2 - 52
  let e := if (r.shifted guess).1 < Nat.pow 2 52 then guess - 1 else guess
  max e (-1074)

def nearest (negative : Bool) (r : Ratio) : Option Double :=
  let e := exponentOf r
  let (quotient, rest) := r.shifted e
  let up := rest.den < 2 * rest.num || (rest.den = 2 * rest.num && quotient % 2 = 1)
  let m := if up then quotient + 1 else quotient
  let (m, e) := if m = Nat.pow 2 53 then (Nat.pow 2 52, e + 1) else (m, e)
  if 971 < e then none else some ⟨negative, m, e⟩

def ofDecimal (negative : Bool) (digits : Nat) (exponent : Int) : Option Double :=
  let magnitude := (Nat.toDigits 10 digits).length + exponent
  if digits = 0 || magnitude < -330 then some (zero negative)
  else if 310 < magnitude then none
  else nearest negative (.scaled digits 10 exponent)

end Double

end Overseer.Decimal
