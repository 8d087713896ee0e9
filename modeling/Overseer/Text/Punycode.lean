set_option autoImplicit false

namespace Overseer.Text.Punycode

def base : Nat := 36

def threshold (position bias : Nat) : Nat := min 26 (max 1 (position - bias))

theorem threshold_bounds (position bias : Nat) :
    1 ≤ threshold position bias ∧ threshold position bias ≤ 26 := by
  unfold threshold
  omega

def digit (n : Nat) : Char := if n < 26 then Char.ofNat (97 + n) else Char.ofNat (22 + n)

def number (bias position n : Nat) : List Char :=
  let t := threshold position bias
  if n < t then [digit n]
  else digit (t + (n - t) % (base - t)) :: number bias (position + base) ((n - t) / (base - t))
termination_by n
decreasing_by
  have bounds := threshold_bounds position bias
  have quotient := Nat.div_le_self (n - threshold position bias) (base - threshold position bias)
  omega

def settle (weight delta : Nat) : Nat :=
  if 455 < delta then settle (weight + base) (delta / 35) else weight + base * delta / (delta + 38)
termination_by delta
decreasing_by omega

def adapted (delta count : Nat) (first : Bool) : Nat :=
  let halved := if first then delta / 700 else delta / 2
  settle 0 (halved + halved / count)

structure State where
  written : List Char
  delta : Nat
  bias : Nat
  count : Nat

def pass (basic n : Nat) (s : State) (c : Char) : State :=
  if c.toNat < n then { s with delta := s.delta + 1 }
  else if c.toNat = n then
    { written := s.written ++ number s.bias base s.delta
      delta := 0
      bias := adapted s.delta (s.count + 1) (s.count = basic)
      count := s.count + 1 }
  else s

-- Writes code points in ascending order, of which `n` is the least that may come.
def writeAll (label : List Char) (basic : Nat) : Nat → State → List Nat → State
  | _, s, [] => s
  | n, s, m :: ms =>
    let s := label.foldl (pass basic m) { s with delta := s.delta + (m - n) * (s.count + 1) }
    writeAll label basic (m + 1) { s with delta := s.delta + 1 } ms

def encode (label : List Char) : List Char :=
  let ascii := label.filter fun c => c.toNat < 128
  let others := ((label.map Char.toNat).filter (128 ≤ ·)).eraseDups.mergeSort
  let start : State := ⟨if ascii.isEmpty then [] else ascii ++ ['-'], 0, 72, ascii.length⟩
  (writeAll label ascii.length 128 start others).written

end Overseer.Text.Punycode
