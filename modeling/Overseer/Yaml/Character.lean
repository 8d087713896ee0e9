set_option autoImplicit false

namespace Overseer.Yaml

def isAllowed (c : Char) : Bool :=
  let n := c.toNat
  n == 0x09 || n == 0x0A || n == 0x0D || (0x20 ≤ n && n ≤ 0x7E) || n == 0x85 ||
    (0xA0 ≤ n && n ≤ 0xD7FF) || (0xE000 ≤ n && n ≤ 0xFFFD) || 0x10000 ≤ n

def byteOrderMark : Char := '\ufeff'

def isBreak (c : Char) : Bool :=
  c = '\r' || c = '\n' || c = '\u0085' || c = '\u2028' || c = '\u2029'

def isBlank (c : Char) : Bool := c = ' ' || c = '\t'

def isWord (c : Char) : Bool := c.isAlphanum || c = '_' || c = '-'

def hexValue? (c : Char) : Option Nat :=
  if c.isDigit then some (c.toNat - '0'.toNat)
  else if 'a' ≤ c && c ≤ 'f' then some (c.toNat - 'a'.toNat + 10)
  else if 'A' ≤ c && c ≤ 'F' then some (c.toNat - 'A'.toNat + 10)
  else none

def startsBreak : List Char → Bool
  | [] => false
  | c :: _ => isBreak c

def startsBlank : List Char → Bool
  | [] => false
  | c :: _ => isBlank c

def endsLine : List Char → Bool
  | [] => true
  | c :: _ => isBreak c

def endsWord : List Char → Bool
  | [] => true
  | c :: _ => isBreak c || isBlank c

def startsMarker (m : Char) : List Char → Bool
  | a :: b :: c :: rest => a = m && b = m && c = m && endsWord rest
  | _ => false

def startsDocumentMarker (cs : List Char) : Bool := startsMarker '-' cs || startsMarker '.' cs

structure Position where
  index : Nat
  line : Nat
  column : Nat
deriving DecidableEq, Repr

namespace Position

def start : Position := ⟨0, 0, 0⟩

def right (p : Position) (n : Nat) : Position := { p with index := p.index + n, column := p.column + n }

def down (p : Position) (n : Nat) : Position := ⟨p.index + n, p.line + 1, 0⟩

end Position

structure Cursor where
  rest : List Char
  position : Position

def Cursor.next (k : Cursor) : Cursor := ⟨k.rest.tail, k.position.right 1⟩

def Cursor.skip (k : Cursor) (n : Nat) : Cursor := ⟨k.rest.drop n, k.position.right n⟩

def Cursor.nextLine (k : Cursor) : Cursor :=
  match k.rest with
  | '\r' :: '\n' :: cs => ⟨cs, k.position.down 2⟩
  | c :: cs => if isBreak c then ⟨cs, k.position.down 1⟩ else k
  | [] => k

-- What a line break is read as: line and paragraph separators stay what they are.
def breakText : List Char → List Char
  | [] => []
  | c :: _ => if c = '\u2028' || c = '\u2029' then [c] else if isBreak c then ['\n'] else []

def Cursor.span (k : Cursor) (passes : Char → Bool) : List Char × Cursor :=
  let word := k.rest.takeWhile passes
  (word, k.skip word.length)

end Overseer.Yaml
