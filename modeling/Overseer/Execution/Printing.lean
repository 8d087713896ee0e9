import Overseer.Refusal

set_option autoImplicit false

namespace Overseer.Execution

def isOctal (c : Char) : Bool := '0' ≤ c && c ≤ '7'

def octal (cs : List Char) : Nat := cs.foldl (fun n c => n * 8 + (c.toNat - '0'.toNat)) 0

def byteChar (n : Nat) : Char := Char.ofNat (n % 256)

def letterEscape? : Char → Option Char
  | 'n' => some '\n'
  | 't' => some '\t'
  | 'r' => some '\r'
  | 'a' => some '\x07'
  | 'b' => some '\x08'
  | 'f' => some '\x0c'
  | 'v' => some '\x0b'
  | '\\' => some '\\'
  | _ => none

-- The octal digits of a code, of which there are three at most, beside a leading zero where that is
-- only a mark.
def octalCode (zeroMarks : Bool) (cs : List Char) : List Char :=
  (cs.takeWhile isOctal).take (if zeroMarks && cs.head? = some '0' then 4 else 3)

def unescapedAfter (zeroMarks : Bool) : Nat → List Char → List Char
  | skipped + 1, _ :: cs => unescapedAfter zeroMarks skipped cs
  | 0, '\\' :: c :: cs =>
    match letterEscape? c with
    | some e => e :: unescapedAfter zeroMarks 1 (c :: cs)
    | none =>
      let code := octalCode zeroMarks (c :: cs)
      if code.isEmpty then '\\' :: c :: unescapedAfter zeroMarks 1 (c :: cs)
      else byteChar (octal code) :: unescapedAfter zeroMarks code.length (c :: cs)
  | 0, c :: cs => c :: unescapedAfter zeroMarks 0 cs
  | _, [] => []

def unescaped (zeroMarks : Bool) (cs : List Char) : List Char := unescapedAfter zeroMarks 0 cs

def integer? (s : String) : Option Int :=
  let number (cs : List Char) : Option Nat :=
    if cs.isEmpty || !cs.all Char.isDigit then none else some (Nat.ofDigitChars 10 cs 0)
  match s.toList with
  | '-' :: cs => (number cs).map fun n => -(n : Int)
  | '+' :: cs => (number cs).map Int.ofNat
  | cs => (number cs).map Int.ofNat

structure Conversion where
  left : Bool
  zero : Bool
  width : Nat
  letter : Char

def conversion? (cs : List Char) : Option (Conversion × List Char) :=
  let flags := cs.takeWhile fun c => c = '-' || c = '0' || c = '+' || c = ' '
  let rest := cs.drop flags.length
  let digits := rest.takeWhile Char.isDigit
  match rest.drop digits.length with
  | [] => none
  | c :: rest => some (⟨flags.contains '-', flags.contains '0', Nat.ofDigitChars 10 digits 0, c⟩, rest)

def Conversion.place (c : Conversion) (s : String) : List Char :=
  let missing := c.width - s.length
  if c.left then s.toList ++ List.replicate missing ' '
  else if c.zero && c.letter ≠ 's' then List.replicate missing '0' ++ s.toList
  else List.replicate missing ' ' ++ s.toList

def Conversion.apply (c : Conversion) (argument : Option String) : List Char × Bool :=
  match c.letter with
  | 's' => (c.place (argument.getD ""), true)
  | 'b' => (c.place (String.ofList (unescaped true (argument.getD "").toList)), true)
  | 'c' => (c.place (String.ofList ((argument.getD "").toList.take 1)), true)
  | letter =>
    let n := match argument with
      | none => some 0
      | some s => integer? s
    let text := match letter, n.getD 0 with
      | 'x', .ofNat n => String.ofList (Nat.toDigits 16 n)
      | 'o', .ofNat n => String.ofList (Nat.toDigits 8 n)
      | _, n => integerText n
    (c.place text, n.isSome)

structure Formatted where
  written : List Char
  arguments : List String
  takes : Bool
  sound : Bool

def format : Nat → List Char → Formatted → Formatted
  | 0, _, f => f
  | _, [], f => f
  | fuel + 1, '%' :: '%' :: cs, f => format fuel cs { f with written := f.written ++ ['%'] }
  | fuel + 1, '%' :: cs, f =>
    match conversion? cs with
    | none => { f with sound := false }
    | some (c, rest) =>
      let (text, sound) := c.apply f.arguments.head?
      format fuel rest ⟨f.written ++ text, f.arguments.drop 1, true, f.sound && sound⟩
  | fuel + 1, c :: cs, f => format fuel cs { f with written := f.written ++ [c] }

-- Escapes are read before the format, so that none of an argument is.
def formatAll (pattern : List Char) : Nat → Formatted → Formatted
  | 0, f => f
  | fuel + 1, f =>
    let f := format (pattern.length + 1) pattern f
    if f.takes && !f.arguments.isEmpty then formatAll pattern fuel f else f

def printf (pattern : String) (arguments : List String) : String × Bool :=
  let f := formatAll (unescaped false pattern.toList) (arguments.length + 1) ⟨[], arguments, false, true⟩
  (String.ofList f.written, f.sound)

end Overseer.Execution
