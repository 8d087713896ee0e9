import Overseer.Yaml.Lexer.Block
import Overseer.Yaml.Lexer.Plain
import Overseer.Yaml.Lexer.Properties
import Overseer.Yaml.Lexer.Quotes
/-!
From the text of a document to its tokens. A key on one line shows only by the colon after it, so
the place where such a key may begin is kept until then, and the mark of the key is put in there.
-/
set_option autoImplicit false

namespace Overseer.Yaml

structure KeyPlace where
  required : Bool
  tokens : Nat
  position : Position

structure Lexer where
  cursor : Cursor
  -- One entry for every open flow collection, and one for the block outside them.
  keys : List (Option KeyPlace)
  -- The column of the innermost block, or -1.
  indent : Int
  outer : List Int
  keyAllowed : Bool
  tokens : List Token
  count : Nat

namespace Lexer

def start (cs : List Char) : Lexer where
  cursor := ⟨cs, .start⟩
  keys := [none]
  indent := -1
  outer := []
  keyAllowed := true
  tokens := []
  count := 0

def flow (l : Lexer) : Bool := 1 < l.keys.length

def emit (l : Lexer) (t : Token) : Lexer := { l with tokens := t :: l.tokens, count := l.count + 1 }

def emitAt (l : Lexer) (n : Nat) (t : Token) : Lexer :=
  let later := l.count - n
  { l with tokens := l.tokens.take later ++ t :: l.tokens.drop later, count := l.count + 1 }

def goTo (l : Lexer) (k : Cursor) : Lexer := { l with cursor := k }

-- A key is on one line and at most 1024 characters long.
def keyEnded (l : Lexer) (place : KeyPlace) : Bool :=
  place.position.line < l.cursor.position.line ||
    place.position.index + 1024 < l.cursor.position.index

def forgetEndedKeys (l : Lexer) : Option Lexer :=
  if l.keys.any (fun key => key.any fun place => l.keyEnded place && place.required) then none
  else some { l with keys := l.keys.map fun key => key.filter fun place => !l.keyEnded place }

def forgetKey (l : Lexer) : Option Lexer :=
  match l.keys with
  | [] => some l
  | key :: keys =>
    if key.any KeyPlace.required then none else some { l with keys := none :: keys }

def noteKey (l : Lexer) : Option Lexer :=
  if l.keyAllowed then
    let place : KeyPlace :=
      ⟨!l.flow && l.indent = l.cursor.position.column, l.count, l.cursor.position⟩
    l.forgetKey.map fun l => { l with keys := some place :: l.keys.tail }
  else some l

def openBlock (l : Lexer) (column : Nat) (at? : Option Nat) (t : Token) : Lexer :=
  if l.flow || column ≤ l.indent then l
  else
    let l := { l with indent := column, outer := l.indent :: l.outer }
    match at? with
    | none => l.emit t
    | some n => l.emitAt n t

def closeBlocks (l : Lexer) (column : Int) : Lexer :=
  if l.flow then l else go l column l.outer
where
  go (l : Lexer) (column : Int) : List Int → Lexer
    | [] => l
    | parent :: outer =>
      if column < l.indent then
        go { l.emit .blockEnd with indent := parent, outer } column outer
      else l

-- Past blanks, comments and line breaks. A tab cannot stand where a key may begin in a block.
def skipFrom (flow : Bool) (comment keyAllowed : Bool) (p : Position) :
    List Char → Bool × Cursor
  | [] => (keyAllowed, ⟨[], p⟩)
  | c :: cs =>
    if c = '\r' && cs.head? = some '\n' then
      match cs with
      | _ :: cs => skipFrom flow false (keyAllowed || !flow) (p.down 2) cs
      | [] => (keyAllowed, ⟨c :: cs, p⟩)
    else if isBreak c then skipFrom flow false (keyAllowed || !flow) (p.down 1) cs
    else if comment then skipFrom flow true keyAllowed (p.right 1) cs
    else if p.column = 0 && c = byteOrderMark then skipFrom flow false keyAllowed (p.right 1) cs
    else if c = ' ' || ((flow || !keyAllowed) && c = '\t') then
      skipFrom flow false keyAllowed (p.right 1) cs
    else if c = '#' then skipFrom flow true keyAllowed (p.right 1) cs
    else (keyAllowed, ⟨c :: cs, p⟩)

def skip (l : Lexer) : Lexer :=
  let (keyAllowed, k) := skipFrom l.flow false l.keyAllowed l.cursor.position l.cursor.rest
  { l with keyAllowed, cursor := k }

def directive (l : Lexer) : Option Lexer := do
  let l ← (l.closeBlocks (-1)).forgetKey
  let l := { l with keyAllowed := false }
  let (name, k) := l.cursor.next.span isWord
  if name.isEmpty || !endsWord k.rest then none
  let (t, k) ←
    if name = "YAML".toList then versionDirective k
    else if name = "TAG".toList then tagDirective k
    else none
  let k ← lineEnd k
  return (l.goTo k).emit t

def documentMarker (l : Lexer) (t : Token) : Option Lexer := do
  let l ← (l.closeBlocks (-1)).forgetKey
  return ({ l with keyAllowed := false }.goTo (l.cursor.skip 3)).emit t

def openFlow (l : Lexer) (t : Token) : Option Lexer := do
  let l ← l.noteKey
  return ({ l with keys := none :: l.keys, keyAllowed := true }.goTo l.cursor.next).emit t

def closeFlow (l : Lexer) (t : Token) : Option Lexer := do
  let l ← l.forgetKey
  let keys := if l.flow then l.keys.tail else l.keys
  return ({ l with keys, keyAllowed := false }.goTo l.cursor.next).emit t

def comma (l : Lexer) : Option Lexer := do
  let l ← l.forgetKey
  return ({ l with keyAllowed := true }.goTo l.cursor.next).emit .comma

def beginEntry (l : Lexer) (t : Token) : Option Lexer :=
  if l.flow then some l
  else if l.keyAllowed then some (l.openBlock l.cursor.position.column none t)
  else none

def item (l : Lexer) : Option Lexer := do
  let l ← (← l.beginEntry .blockSequence).forgetKey
  return ({ l with keyAllowed := true }.goTo l.cursor.next).emit .item

def key (l : Lexer) : Option Lexer := do
  let l ← (← l.beginEntry .blockMapping).forgetKey
  return ({ l with keyAllowed := !l.flow }.goTo l.cursor.next).emit .key

def value (l : Lexer) : Option Lexer := do
  let l ←
    match l.keys with
    | some place :: keys =>
      let l := { l.emitAt place.tokens .key with keys := none :: keys, keyAllowed := false }
      pure (l.openBlock place.position.column (some place.tokens) .blockMapping)
    | _ =>
      let l ← l.beginEntry .blockMapping
      pure { l with keyAllowed := !l.flow }
  return (l.goTo l.cursor.next).emit .value

def anchorOrAlias (l : Lexer) (t : List Char → Token) : Option Lexer := do
  let l ← l.noteKey
  let (name, k) ← anchorName l.cursor
  return ({ l with keyAllowed := false }.goTo k).emit (t name)

def tagged (l : Lexer) : Option Lexer := do
  let l ← l.noteKey
  let (t, k) ← tag l.flow l.cursor
  return ({ l with keyAllowed := false }.goTo k).emit t

def block (l : Lexer) (folded : Bool) : Option Lexer := do
  let l ← l.forgetKey
  let (text, k) ← blockScalar folded l.indent l.cursor
  return ({ l with keyAllowed := true }.goTo k).emit
    (.scalar text (if folded then .folded else .literal))

def quoted (l : Lexer) (single : Bool) : Option Lexer := do
  let l ← l.noteKey
  let (text, k) ← quotedScalar single l.cursor
  return ({ l with keyAllowed := false }.goTo k).emit
    (.scalar text (if single then .singleQuoted else .doubleQuoted))

def plainScalar (l : Lexer) : Option Lexer := do
  let l ← l.noteKey
  let (text, broken, k) ← plain ⟨l.flow, (l.indent + 1).toNat⟩ l.cursor
  return ({ l with keyAllowed := broken }.goTo k).emit (.scalar text .plain)

def isIndicator (c : Char) : Bool := "-?:,[]\x7b\x7d#&*!|>'\"%@`".toList.contains c

-- A plain scalar may begin with a hyphen, and in a block with a question mark or a colon, if no blank
-- follows it.
def beginsPlain (flow : Bool) (c : Char) (cs : List Char) : Bool :=
  !(isIndicator c || isBlank c || isBreak c) || (c = '-' && !startsBlank cs) ||
    (!flow && (c = '?' || c = ':') && !endsWord cs)

def token (l : Lexer) (c : Char) (cs : List Char) : Option Lexer :=
  let first := l.cursor.position.column = 0
  if first && c = '%' then l.directive
  else if first && startsMarker '-' (c :: cs) then l.documentMarker .documentStart
  else if first && startsMarker '.' (c :: cs) then l.documentMarker .documentEnd
  else if c = '[' then l.openFlow .openSequence
  else if c = '{' then l.openFlow .openMapping
  else if c = ']' then l.closeFlow .closeSequence
  else if c = '}' then l.closeFlow .closeMapping
  else if c = ',' then l.comma
  else if c = '-' && endsWord cs then l.item
  else if c = '?' && (l.flow || endsWord cs) then l.key
  else if c = ':' && (l.flow || endsWord cs) then l.value
  else if c = '*' then l.anchorOrAlias .alias
  else if c = '&' then l.anchorOrAlias .anchor
  else if c = '!' then l.tagged
  else if c = '|' && !l.flow then l.block false
  else if c = '>' && !l.flow then l.block true
  else if c = '\'' then l.quoted true
  else if c = '"' then l.quoted false
  else if beginsPlain l.flow c cs then l.plainScalar
  else none

def run : Nat → Lexer → Option Lexer
  | 0, l => some l
  | fuel + 1, l =>
    match l.skip.forgetEndedKeys with
    | none => none
    | some l =>
      let l := l.closeBlocks l.cursor.position.column
      match l.cursor.rest with
      | [] => (l.closeBlocks (-1)).forgetKey
      | c :: cs =>
        match l.token c cs with
        | none => none
        | some l => run fuel l

end Lexer

def tokens? (cs : List Char) : Option (List Token) :=
  if cs.all isAllowed then
    let body := if cs.head? = some byteOrderMark then cs.tail else cs
    (Lexer.run (body.length + 1) (.start body)).map fun l => l.tokens.reverse
  else none

end Overseer.Yaml
