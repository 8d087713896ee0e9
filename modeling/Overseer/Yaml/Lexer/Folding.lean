import Overseer.Yaml.Character

set_option autoImplicit false

namespace Overseer.Yaml.Lexer

-- The text so far, last character first, and the blanks and breaks that may still join it.
structure Folding where
  text : List Char
  blanks : List Char
  broken : Bool
  firstBreak : List Char
  laterBreaks : List Char

namespace Folding

def empty : Folding := ⟨[], [], false, [], []⟩

def blank (f : Folding) (c : Char) : Folding :=
  if f.broken then f else { f with blanks := c :: f.blanks }

def lineBreak (f : Folding) (b : List Char) : Folding :=
  if f.broken then { f with laterBreaks := b.reverse ++ f.laterBreaks }
  else { f with blanks := [], broken := true, firstBreak := b }

def join (f : Folding) : Folding :=
  if f.broken then
    if f.firstBreak.head? = some '\n' then
      if f.laterBreaks = [] then ⟨' ' :: f.text, [], false, [], []⟩
      else ⟨f.laterBreaks ++ f.text, [], false, [], []⟩
    else ⟨f.laterBreaks ++ f.firstBreak.reverse ++ f.text, [], false, [], []⟩
  else ⟨f.blanks ++ f.text, [], false, [], []⟩

def push (f : Folding) (c : Char) : Folding := { f with text := c :: f.text }

def result (f : Folding) : List Char := f.text.reverse

end Folding

end Overseer.Yaml.Lexer
