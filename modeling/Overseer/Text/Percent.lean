set_option autoImplicit false

namespace Overseer.Text.Percent

def digit (n : Nat) : Char := (Nat.digitChar n).toUpper

def escape (b : UInt8) : List Char := ['%', digit (b.toNat / 16), digit (b.toNat % 16)]

def escapeChar (c : Char) : List Char :=
  (String.ofList [c]).toUTF8.data.toList.flatMap escape

def encode (special : Char → Bool) (cs : List Char) : List Char :=
  cs.flatMap fun c =>
    if c.toNat < 0x20 || 0x7F ≤ c.toNat || special c then escapeChar c else [c]

def digitValue? (c : Char) : Option Nat :=
  if c.isDigit then some (c.toNat - '0'.toNat)
  else if 'a' ≤ c && c ≤ 'f' then some (c.toNat - 'a'.toNat + 10)
  else if 'A' ≤ c && c ≤ 'F' then some (c.toNat - 'A'.toNat + 10)
  else none

def decode : List Char → List UInt8
  | '%' :: a :: b :: cs =>
    match digitValue? a, digitValue? b with
    | some x, some y => UInt8.ofNat (16 * x + y) :: decode cs
    | _, _ => '%'.val.toUInt8 :: decode (a :: b :: cs)
  | c :: cs => (String.ofList [c]).toUTF8.data.toList ++ decode cs
  | [] => []

end Overseer.Text.Percent
