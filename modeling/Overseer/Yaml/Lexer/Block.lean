import Overseer.Yaml.Token
import Overseer.Yaml.Character

set_option autoImplicit false

namespace Overseer.Yaml.Lexer

inductive Chomping where
  | strip
  | clip
  | keep
deriving DecidableEq, Repr

structure BlockHeader where
  chomping : Chomping
  increment : Option Nat

def chompingOf (c : Char) : Option Chomping :=
  if c = '+' then some .keep else if c = '-' then some .strip else none

def incrementOf (c : Char) : Option Nat :=
  if c.isDigit && c ≠ '0' then some (c.toNat - '0'.toNat) else none

def blockHeader (k : Cursor) : BlockHeader × Cursor :=
  match k.rest.head?.bind chompingOf with
  | some chomping =>
    match k.next.rest.head?.bind incrementOf with
    | some n => (⟨chomping, some n⟩, k.next.next)
    | none => (⟨chomping, none⟩, k.next)
  | none =>
    match k.rest.head?.bind incrementOf with
    | none => (⟨.clip, none⟩, k)
    | some n =>
      match k.next.rest.head?.bind chompingOf with
      | some chomping => (⟨chomping, some n⟩, k.next.next)
      | none => (⟨.clip, some n⟩, k.next)

def lineEnd (k : Cursor) : Option Cursor :=
  let blanks := (k.span isBlank).2
  let comment := if blanks.rest.head? = some '#' then (blanks.span fun c => !isBreak c).2 else blanks
  if endsLine comment.rest then some comment.nextLine else none

-- The indentation and the empty lines before a line of text. An indentation of 0 is not known yet. The
-- answer holds the breaks, last one first, and the widest indentation.
def emptyLines (indent : Nat) (breaks : List Char) (widest : Nat) (p : Position) :
    List Char → Option (List Char × Nat × Cursor)
  | [] => some (breaks, max widest p.column, ⟨[], p⟩)
  | c :: cs =>
    let open_ := indent = 0 || p.column < indent
    if c = ' ' && open_ then emptyLines indent breaks widest (p.right 1) cs
    else
      let widest := max widest p.column
      if c = '\t' && open_ then none
      else if c = '\r' && cs.head? = some '\n' then
        match cs with
        | _ :: cs => emptyLines indent ('\n' :: breaks) widest (p.down 2) cs
        | [] => none
      else if isBreak c then
        emptyLines indent ((breakText [c]).reverse ++ breaks) widest (p.down 1) cs
      else some (breaks, widest, ⟨c :: cs, p⟩)

-- The text so far and the breaks after it, both last character first.
structure BlockText where
  text : List Char
  lastBreak : List Char
  emptyBreaks : List Char
  -- The line before begins with a blank, so that no fold is made after it.
  afterBlank : Bool

def BlockText.join (b : BlockText) (folded startsBlank : Bool) : List Char :=
  if folded && b.lastBreak.head? = some '\n' && !b.afterBlank && !startsBlank then
    if b.emptyBreaks = [] then ' ' :: b.text else b.emptyBreaks ++ b.text
  else b.emptyBreaks ++ b.lastBreak ++ b.text

def blockLines (folded : Bool) (indent : Nat) : Nat → BlockText → Cursor → Option (BlockText × Cursor)
  | 0, b, k => some (b, k)
  | fuel + 1, b, k =>
    if k.position.column ≠ indent || k.rest = [] then some (b, k)
    else
      let (line, atEnd) := k.span fun c => !isBreak c
      match emptyLines indent [] 0 atEnd.nextLine.position atEnd.nextLine.rest with
      | none => none
      | some (breaks, _, after) =>
        blockLines folded indent fuel
          { text := line.reverse ++ b.join folded (startsBlank k.rest)
            lastBreak := breakText atEnd.rest
            emptyBreaks := breaks
            afterBlank := startsBlank k.rest }
          after

def BlockText.chomp (b : BlockText) : Chomping → List Char
  | .strip => b.text.reverse
  | .clip => (b.lastBreak ++ b.text).reverse
  | .keep => (b.emptyBreaks ++ b.lastBreak ++ b.text).reverse

def blockScalar (folded : Bool) (parent : Int) (k : Cursor) : Option (List Char × Cursor) :=
  let (header, atEnd) := blockHeader k.next
  match lineEnd atEnd with
  | none => none
  | some k =>
    let given := match header.increment with
      | some n => (max parent 0).toNat + n
      | none => 0
    match emptyLines given [] 0 k.position k.rest with
    | none => none
    | some (breaks, widest, k) =>
      let indent := if given = 0 then max (max widest (parent + 1).toNat) 1 else given
      (blockLines folded indent (k.rest.length + 1) ⟨[], [], breaks, false⟩ k).map fun (b, k) =>
        (b.chomp header.chomping, k)

end Overseer.Yaml.Lexer
