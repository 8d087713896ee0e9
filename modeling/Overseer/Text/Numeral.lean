set_option autoImplicit false

namespace Overseer.Text.Numeral

inductive Error where
  | empty
  | badDigit
  | tooLarge
deriving DecidableEq, Repr

def Error.message : Error → String
  | .empty => "cannot parse integer from empty string"
  | .badDigit => "invalid digit found in string"
  | .tooLarge => "number too large to fit in target type"

def digits (n : Nat) : List Char := Nat.toDigits 10 n

def text (n : Nat) : String := String.ofList (digits n)

def padded (width n : Nat) : List Char :=
  List.replicate (width - (digits n).length) '0' ++ digits n

def aligned (width n : Nat) : String :=
  String.ofList (List.replicate (width - (digits n).length) ' ' ++ digits n)

def value (ds : List Char) : Nat := Nat.ofDigitChars 10 ds 0

def unsigned : List Char → List Char
  | '+' :: c :: cs => c :: cs
  | cs => cs

-- The first of the two faults that stands in the text decides.
def scan (bound : Nat) : Nat → List Char → Except Error Nat
  | n, [] => .ok n
  | n, c :: cs =>
    if !c.isDigit then .error .badDigit
    else
      let next := n * 10 + (c.toNat - '0'.toNat)
      if next < bound then scan bound next cs else .error .tooLarge

def read (bound : Nat) (cs : List Char) : Except Error Nat :=
  match unsigned cs with
  | [] => .error .empty
  | c :: rest => scan bound 0 (c :: rest)

def readWord32 (s : String) : Except Error UInt32 :=
  (read UInt32.size s.toList).map UInt32.ofNat

def readWord64 (s : String) : Except Error UInt64 :=
  (read UInt64.size s.toList).map UInt64.ofNat

def word32 (n : UInt32) : String := text n.toNat

def word64 (n : UInt64) : String := text n.toNat

end Overseer.Text.Numeral
