import Overseer.Decimal.Shortest
import Overseer.Yaml.Node

set_option autoImplicit false

namespace Overseer.Yaml

inductive Real where
  | finite (d : Decimal.Double)
  | infinite (negative : Bool)
  | notANumber
deriving DecidableEq, Repr

def Real.text : Real → String
  | finite d => d.text
  | infinite negative => if negative then "-inf" else "inf"
  | notANumber => "NaN"

inductive Resolved where
  | nothing
  | boolean (b : Bool)
  | natural (n : Nat)
  | negative (n : Nat)
  -- An integer that 128 bits hold and 64 do not.
  | wide (n : Int)
  | real (x : Real)
  | text (s : String)
deriving DecidableEq, Repr

namespace Spelling

def isNothing (s : String) : Bool := s = "null" || s = "Null" || s = "NULL" || s = "~"

def boolean? (s : String) : Option Bool :=
  if s = "true" || s = "True" || s = "TRUE" then some true
  else if s = "false" || s = "False" || s = "FALSE" then some false
  else none

def digitValue? (c : Char) : Option Nat :=
  if c.isDigit then some (c.toNat - '0'.toNat)
  else if 'a' ≤ c && c ≤ 'z' then some (c.toNat - 'a'.toNat + 10)
  else if 'A' ≤ c && c ≤ 'Z' then some (c.toNat - 'A'.toNat + 10)
  else none

def digitsValue? (radix : Nat) : Nat → List Char → Option Nat
  | n, [] => some n
  | n, c :: cs =>
    match digitValue? c with
    | some d => if d < radix then digitsValue? radix (n * radix + d) cs else none
    | none => none

def natural? (radix bound : Nat) (cs : List Char) : Option Nat :=
  if cs.isEmpty then none
  else (digitsValue? radix 0 cs).bind fun n => if n < bound then some n else none

def startsSign : List Char → Bool
  | c :: _ => c = '+' || c = '-'
  | [] => false

def radixes : List (Char × Nat) := [('x', 16), ('o', 8), ('b', 2)]

def marked? (bound : Nat) : List Char → Option Nat
  | '0' :: mark :: cs => (radixes.lookup mark).bind fun radix => natural? radix bound cs
  | _ => none

def isPaddedDigits (cs : List Char) : Bool :=
  let body := if startsSign cs then cs.tail else cs
  match body with
  | '0' :: ds => !ds.isEmpty && ds.all Char.isDigit
  | _ => false

def withoutPlus : List Char → List Char
  | '+' :: cs => cs
  | cs => cs

def unsigned? (bound : Nat) (cs : List Char) : Option Nat :=
  let body := withoutPlus cs
  match marked? bound body with
  | some n => some n
  | none =>
    if startsSign body || isPaddedDigits cs then none else natural? 10 bound body

def negative? (bound : Nat) (cs : List Char) : Option Nat :=
  match cs with
  | '-' :: body =>
    match marked? (bound + 1) body with
    | some n => some n
    | none => if isPaddedDigits cs then none else natural? 10 (bound + 1) body
  | _ => none

def wide? (cs : List Char) : Option Int :=
  match unsigned? (Nat.pow 2 128) cs with
  | some n => some n
  | none => (negative? (Nat.pow 2 127) cs).map fun n => -n

def power? : List Char → Option Int
  | [] => some 0
  | c :: cs =>
    if c = 'e' || c = 'E' then
      match cs with
      | '-' :: ds => (natural? 10 (Nat.pow 10 (ds.length + 1)) ds).map fun n => -n
      | '+' :: ds => (natural? 10 (Nat.pow 10 (ds.length + 1)) ds).map fun n => n
      | ds => (natural? 10 (Nat.pow 10 (ds.length + 1)) ds).map fun n => n
    else none

def decimal? (negative : Bool) (cs : List Char) : Option Decimal.Double :=
  let whole := cs.takeWhile Char.isDigit
  let rest := cs.dropWhile Char.isDigit
  let (part, rest) :=
    match rest with
    | '.' :: rest => (rest.takeWhile Char.isDigit, rest.dropWhile Char.isDigit)
    | rest => ([], rest)
  if whole.isEmpty && part.isEmpty then none
  else
    (power? rest).bind fun power =>
      Decimal.Double.ofDecimal negative (Nat.ofDigitChars 10 (whole ++ part) 0)
        (power - part.length)

def real? (s : String) : Option Real :=
  let cs := s.toList
  let body := withoutPlus cs
  let name := String.ofList body
  if startsSign body && cs.head? = some '+' then none
  else if name = ".inf" || name = ".Inf" || name = ".INF" then some (.infinite false)
  else if s = "-.inf" || s = "-.Inf" || s = "-.INF" then some (.infinite true)
  else if s = ".nan" || s = ".NaN" || s = ".NAN" then some .notANumber
  else
    (match body with
      | '-' :: ds => decimal? true ds
      | ds => decimal? false ds).map .finite

end Spelling

def Resolved.integer? (cs : List Char) : Option Resolved :=
  match Spelling.unsigned? UInt64.size cs with
  | some n => some (.natural n)
  | none =>
    match Spelling.negative? (Nat.pow 2 63) cs with
    | some n => some (.negative n)
    | none => (Spelling.wide? cs).map .wide

def Resolved.ofSpelling (s : String) : Resolved :=
  let cs := s.toList
  if s = "" || Spelling.isNothing s then .nothing
  else match Spelling.boolean? s with
  | some b => .boolean b
  | none =>
    match Resolved.integer? cs with
    | some r => r
    | none =>
      if Spelling.isPaddedDigits cs then .text s
      else match Spelling.real? s with
      | some x => .real x
      | none => .text s

namespace Tag

def standard (name : String) : String := "tag:yaml.org,2002:" ++ name

def boolean : String := standard "bool"

def integer : String := standard "int"

def real : String := standard "float"

def nothing : String := standard "null"

def own? (tag : Option String) : Option String :=
  match tag with
  | none => none
  | some t =>
    match t.toList with
    | ['!'] => some "!"
    | '!' :: name => some (String.ofList name)
    | _ => none

end Tag

-- What a scalar is; or, where it is not what its tag asks for, the name of that.
def Scalar.resolve (s : Scalar) : Except String Resolved :=
  let plain := s.style = .plain
  match s.tag with
  | none => .ok (if plain then .ofSpelling s.text else .text s.text)
  | some tag =>
    if tag = Tag.boolean then
      match Spelling.boolean? s.text with
      | some b => .ok (.boolean b)
      | none => .error "a boolean"
    else if tag = Tag.integer then
      match Resolved.integer? s.text.toList with
      | some r => .ok r
      | none => .error "an integer"
    else if tag = Tag.real then
      match Spelling.real? s.text with
      | some x => .ok (.real x)
      | none => .error "a float"
    else if tag = Tag.nothing then
      if Spelling.isNothing s.text then .ok .nothing else .error "null"
    else if plain && tag.toList.head? = some '!' then .ok (.ofSpelling s.text)
    else .ok (.text s.text)

end Overseer.Yaml
