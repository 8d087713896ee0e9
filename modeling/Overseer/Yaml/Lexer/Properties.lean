import Overseer.Yaml.Token
import Overseer.Yaml.Character

set_option autoImplicit false

namespace Overseer.Yaml.Lexer

def anchorName (k : Cursor) : Option (List Char × Cursor) :=
  let (name, k) := k.next.span isWord
  let closed := endsWord k.rest ||
    (k.rest.head?.any fun c => "?:,]\x7d%@`".toList.contains c)
  if name.isEmpty || !closed then none else some (name, k)

def isUriMark (c : Char) : Bool := ";/?:@&=+$.!~*'()".toList.contains c

def octetCount? (n : Nat) : Option Nat :=
  if n < 0x80 then some 1 else if 0xC0 ≤ n && n < 0xE0 then some 2
  else if 0xE0 ≤ n && n < 0xF0 then some 3 else if 0xF0 ≤ n && n < 0xF8 then some 4 else none

def escapedOctet : List Char → Option (Nat × List Char)
  | '%' :: a :: b :: cs =>
    match hexValue? a, hexValue? b with
    | some x, some y => some (x * 16 + y, cs)
    | _, _ => none
  | _ => none

def escapedTail : Nat → Nat → List Char → Option (Nat × List Char)
  | 0, value, cs => some (value, cs)
  | n + 1, value, cs =>
    match escapedOctet cs with
    | some (octet, cs) =>
      if octet / 64 = 2 then escapedTail n (value * 64 + octet % 64) cs else none
    | none => none

def escapedCharacter (cs : List Char) : Option (Char × Nat) :=
  match escapedOctet cs with
  | none => none
  | some (octet, rest) =>
    match octetCount? octet with
    | none => none
    | some n =>
      let first := if n = 1 then octet else octet % Nat.pow 2 (7 - n)
      match escapedTail (n - 1) first rest with
      | none => none
      | some (value, _) => some (Char.ofNat value, 3 * n)

def uri (verbatim : Bool) : Nat → Cursor → Option (List Char × Cursor)
  | 0, k => some ([], k)
  | fuel + 1, k =>
    match k.rest with
    | [] => some ([], k)
    | c :: cs =>
      if c = '%' then
        match escapedCharacter (c :: cs) with
        | none => none
        | some (character, n) =>
          (uri verbatim fuel (k.skip n)).map fun (text, k) => (character :: text, k)
      else if isWord c || isUriMark c || (verbatim && (c = ',' || c = '[' || c = ']')) then
        (uri verbatim fuel k.next).map fun (text, k) => (c :: text, k)
      else some ([], k)

def tagHandle (k : Cursor) : Option (List Char × Cursor) :=
  if k.rest.head? = some '!' then
    let (word, k) := k.next.span isWord
    if k.rest.head? = some '!' then some ('!' :: word ++ ['!'], k.next) else some ('!' :: word, k)
  else none

def isClosedHandle (handle : List Char) : Bool := 2 ≤ handle.length && handle.getLast? = some '!'

-- A handle and what follows it: `!<uri>`, `!name!rest` or `!rest`.
def tagParts (k : Cursor) : Option (List Char × List Char × Cursor) :=
  if k.next.rest.head? = some '<' then
    match uri true k.rest.length (k.skip 2) with
    | none => none
    | some (text, k) =>
      if text.isEmpty || k.rest.head? ≠ some '>' then none else some ([], text, k.next)
  else
    match tagHandle k with
    | none => none
    | some (handle, after) =>
      match uri false k.rest.length after with
      | none => none
      | some (text, k) =>
        if isClosedHandle handle then
          if text.isEmpty then none else some (handle, text, k)
        else
          let suffix := handle.drop 1 ++ text
          if suffix.isEmpty then some ([], ['!'], k) else some (['!'], suffix, k)

def tag (flow : Bool) (k : Cursor) : Option (Token × Cursor) :=
  match tagParts k with
  | none => none
  | some (handle, suffix, k) =>
    if endsWord k.rest || (flow && k.rest.head? = some ',') then some (.tag handle suffix, k)
    else none

def versionNumber (k : Cursor) : Option (Nat × Cursor) :=
  let (digits, k) := k.span Char.isDigit
  if digits.isEmpty || 9 < digits.length then none else some (Nat.ofDigitChars 10 digits 0, k)

def versionDirective (k : Cursor) : Option (Token × Cursor) := do
  let (major, k) ← versionNumber (k.span isBlank).2
  if k.rest.head? ≠ some '.' then none
  let (minor, k) ← versionNumber k.next
  return (.version major minor, k)

def tagDirective (k : Cursor) : Option (Token × Cursor) := do
  let (handle, k) ← tagHandle (k.span isBlank).2
  if handle ≠ ['!'] && !isClosedHandle handle then none
  if !startsBlank k.rest then none
  let k := (k.span isBlank).2
  let (start, k) ← uri true k.rest.length k
  if start.isEmpty || !endsWord k.rest then none
  return (.handle handle start, k)

end Overseer.Yaml.Lexer
