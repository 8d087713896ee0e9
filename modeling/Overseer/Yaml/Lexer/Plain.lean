import Overseer.Yaml.Lexer.Folding

set_option autoImplicit false

namespace Overseer.Yaml.Lexer

structure PlainContext where
  flow : Bool
  indent : Nat

def isFlowIndicator (c : Char) : Bool := c = ',' || c = '[' || c = ']' || c = '{' || c = '}'

-- A colon that a flow indicator follows is refused inside a flow collection.
def PlainContext.refuses (x : PlainContext) (c : Char) (cs : List Char) : Bool :=
  x.flow && c = ':' && (cs.head?.any fun d => isFlowIndicator d || d = '?')

def PlainContext.ends (x : PlainContext) (c : Char) (cs : List Char) : Bool :=
  (c = ':' && endsWord cs) || (x.flow && isFlowIndicator c)

def plainFrom (x : PlainContext) (f : Folding) (fresh : Bool) (p : Position) :
    List Char → Option (Folding × Cursor)
  | [] => some (f, ⟨[], p⟩)
  | c :: cs =>
    if isBlank c then
      if f.broken && p.column < x.indent && c = '\t' then none
      else plainFrom x (f.blank c) true (p.right 1) cs
    else if c = '\r' && cs.head? = some '\n' then
      match cs with
      | _ :: cs => plainFrom x (f.lineBreak ['\n']) true (p.down 2) cs
      | [] => none
    else if isBreak c then plainFrom x (f.lineBreak (breakText [c])) true (p.down 1) cs
    else if fresh && !x.flow && p.column < x.indent then some (f, ⟨c :: cs, p⟩)
    else if p.column = 0 && startsDocumentMarker (c :: cs) then some (f, ⟨c :: cs, p⟩)
    else if fresh && c = '#' then some (f, ⟨c :: cs, p⟩)
    else if x.refuses c cs then none
    else if x.ends c cs then some (f, ⟨c :: cs, p⟩)
    else plainFrom x (f.join.push c) false (p.right 1) cs

def plain (x : PlainContext) (k : Cursor) : Option (List Char × Bool × Cursor) :=
  (plainFrom x .empty false k.position k.rest).map fun (f, k) => (f.result, f.broken, k)

end Overseer.Yaml.Lexer
