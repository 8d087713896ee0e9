import Overseer.Yaml.Lexer.Folding

set_option autoImplicit false

namespace Overseer.Yaml.Lexer

def escapes : List (Char × Char) :=
  [('0', '\x00'), ('a', '\x07'), ('b', '\x08'), ('t', '\t'), ('\t', '\t'), ('n', '\n'), ('v', '\x0b'),
   ('f', '\x0c'), ('r', '\r'), ('e', '\x1b'), (' ', ' '), ('"', '"'), ('/', '/'), ('\\', '\\'),
   ('N', '\u0085'), ('_', '\u00a0'), ('L', '\u2028'), ('P', '\u2029')]

def codeLengths : List (Char × Nat) := [('x', 2), ('u', 4), ('U', 8)]

def characterOf? (n : Nat) : Option Char := if n.isValidChar then some (Char.ofNat n) else none

inductive Pending where
  | nothing
  | escape
  | lineFeed
  | quote
  | code (left value : Nat)

def quotedFrom (single : Bool) (f : Folding) (pending : Pending) (p : Position) :
    List Char → Option (List Char × Cursor)
  | [] => none
  | c :: cs =>
    match pending with
    | .quote => quotedFrom single (f.push c) .nothing (p.right 1) cs
    | .lineFeed => quotedFrom single { f with broken := true } .nothing (p.down 2) cs
    | .code left value =>
      match hexValue? c with
      | none => none
      | some d =>
        if left ≤ 1 then
          match characterOf? (value * 16 + d) with
          | none => none
          | some character => quotedFrom single (f.push character) .nothing (p.right 1) cs
        else quotedFrom single f (.code (left - 1) (value * 16 + d)) (p.right 1) cs
    | .escape =>
      if c = '\r' && cs.head? = some '\n' then quotedFrom single f .lineFeed p cs
      else if isBreak c then quotedFrom single { f with broken := true } .nothing (p.down 1) cs
      else match escapes.lookup c, codeLengths.lookup c with
      | some character, _ => quotedFrom single (f.push character) .nothing (p.right 1) cs
      | none, some n => quotedFrom single f (.code n 0) (p.right 1) cs
      | none, none => none
    | .nothing =>
      if isBlank c then quotedFrom single (f.blank c) .nothing (p.right 1) cs
      else if c = '\r' && cs.head? = some '\n' then
        match cs with
        | _ :: cs => quotedFrom single (f.lineBreak ['\n']) .nothing (p.down 2) cs
        | [] => none
      else if isBreak c then quotedFrom single (f.lineBreak (breakText [c])) .nothing (p.down 1) cs
      else if p.column = 0 && startsDocumentMarker (c :: cs) then none
      else if single && c = '\'' then
        if cs.head? = some '\'' then quotedFrom single f.join .quote (p.right 1) cs
        else some (f.join.result, ⟨cs, p.right 1⟩)
      else if !single && c = '"' then some (f.join.result, ⟨cs, p.right 1⟩)
      else if !single && c = '\\' then quotedFrom single f.join .escape (p.right 1) cs
      else quotedFrom single (f.join.push c) .nothing (p.right 1) cs

def quotedScalar (single : Bool) (k : Cursor) : Option (List Char × Cursor) :=
  quotedFrom single .empty .nothing k.next.position k.next.rest

end Overseer.Yaml.Lexer
