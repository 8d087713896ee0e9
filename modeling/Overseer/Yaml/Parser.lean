import Overseer.Yaml.Lexer
import Overseer.Yaml.Node

set_option autoImplicit false

namespace Overseer.Yaml

-- Names given to nodes. A name's number is how many names there were before it, so a name that is given
-- again takes the number that the next new one will take too.
structure Anchors where
  numbers : List (List Char × Nat)
  -- For each number the node that took it last, by the order in which nodes begin.
  places : List (Nat × Nat)
  nodes : List (Nat × Node)

structure Parser where
  tokens : List Token
  handles : List (List Char × List Char)
  anchors : Anchors
  begun : Nat
  size : Nat

namespace Parser

abbrev Parse (α : Type) := StateT Parser Option α

def peek : Parse (Option Token) := fun p => some (p.tokens.head?, p)

def advance : Parse Unit := fun p => some ((), { p with tokens := p.tokens.tail })

def fail {α : Type} : Parse α := fun _ => none

def count (n : Nat) : Parse Unit := fun p => some ((), { p with size := p.size + n })

def isNext (ts : List (Option Token)) : Parse Bool := fun p => some (ts.contains p.tokens.head?, p)

def passes (t : Token) : Parse Bool := fun p =>
  if p.tokens.head? = some t then some (true, { p with tokens := p.tokens.tail }) else some (false, p)

def beginNode (name : Option (List Char)) : Parse Nat := fun p =>
  let place := p.begun
  let p := { p with begun := place + 1 }
  match name with
  | none => some (place, p)
  | some name =>
    let number := p.anchors.numbers.length
    let numbers := (name, number) :: p.anchors.numbers.filter fun entry => entry.1 ≠ name
    let places := (number, place) :: p.anchors.places.filter fun entry => entry.1 ≠ number
    some (place, { p with anchors := { p.anchors with numbers, places } })

def endNode (place : Nat) (named : Bool) (n : Node) : Parse Node := fun p =>
  let nodes := if named then (place, n) :: p.anchors.nodes else p.anchors.nodes
  some (n, { p with anchors := { p.anchors with nodes } })

def aliasNumber (name : List Char) : Parse Node := fun p =>
  (p.anchors.numbers.lookup name).map fun number => (.alias number, p)

def properties : Parse (Option (List Char) × Option (List Char × List Char)) := do
  match ← peek with
  | some (.anchor name) =>
    advance
    match ← peek with
    | some (.tag handle suffix) => advance; return (some name, some (handle, suffix))
    | _ => return (some name, none)
  | some (.tag handle suffix) =>
    advance
    match ← peek with
    | some (.anchor name) => advance; return (some name, some (handle, suffix))
    | _ => return (none, some (handle, suffix))
  | _ => return (none, none)

def resolveTag : Option (List Char × List Char) → Parse (Option String)
  | none => return none
  | some ([], suffix) => return some (String.ofList suffix)
  | some (handle, suffix) => fun p =>
    (p.handles.lookup handle).map fun start => (some (String.ofList (start ++ suffix)), p)

def emptyNode : Parse Node := do
  count 1
  let place ← beginNode none
  endNode place false .nothing

def scalarNode (text : List Char) (style : Style) (tag : Option String) : Node :=
  .scalar ⟨String.ofList text, style, if tag = some "!" then none else tag⟩

mutual

-- A node. In a block it can be a block collection; under a key a sequence need not be indented.
def node (block indentless : Bool) : Nat → Parse Node
  | 0 => fail
  | fuel + 1 => do
    match ← peek with
    | some (.alias name) =>
      advance
      count 1
      aliasNumber name
    | _ =>
      let (name, parts) ← properties
      let tag ← resolveTag parts
      let place ← beginNode name
      let finish (n : Node) : Parse Node := endNode place name.isSome n
      count 1
      match ← peek with
      | some .item =>
        if block && indentless then
          finish (.sequence tag (← indentlessItems fuel))
        else if name.isSome || tag.isSome then finish (.scalar ⟨"", .plain, tag⟩)
        else fail
      | some (.scalar text style) =>
        advance
        finish (scalarNode text style tag)
      | some .openSequence =>
        advance
        finish (.sequence tag (← flowItems true fuel))
      | some .openMapping =>
        advance
        finish (.mapping tag (← flowEntries true fuel))
      | some .blockSequence =>
        if block then
          advance
          finish (.sequence tag (← blockItems fuel))
        else if name.isSome || tag.isSome then finish (.scalar ⟨"", .plain, tag⟩)
        else fail
      | some .blockMapping =>
        if block then
          advance
          finish (.mapping tag (← blockEntries fuel))
        else if name.isSome || tag.isSome then finish (.scalar ⟨"", .plain, tag⟩)
        else fail
      | _ =>
        if name.isSome || tag.isSome then finish (.scalar ⟨"", .plain, tag⟩)
        else fail

def nodeUnless (ts : List (Option Token)) (block indentless : Bool) : Nat → Parse Node
  | 0 => fail
  | fuel + 1 => do
    if ← isNext ts then emptyNode else node block indentless fuel

def blockItems : Nat → Parse (List Node)
  | 0 => fail
  | fuel + 1 => do
    if ← passes .item then
      let first ← nodeUnless [some .item, some .blockEnd] true false fuel
      return first :: (← blockItems fuel)
    else if ← passes .blockEnd then
      count 1
      return []
    else fail

def indentlessItems : Nat → Parse (List Node)
  | 0 => fail
  | fuel + 1 => do
    if ← passes .item then
      let first ←
        nodeUnless [some .item, some .key, some .value, some .blockEnd] true false fuel
      return first :: (← indentlessItems fuel)
    else
      count 1
      return []

def blockEntries : Nat → Parse (List (Node × Node))
  | 0 => fail
  | fuel + 1 => do
    if ← passes .key then
      let stops := [some .key, some .value, some .blockEnd]
      let k ← nodeUnless stops true true fuel
      let v ← if ← passes .value then nodeUnless stops true true fuel else emptyNode
      return (k, v) :: (← blockEntries fuel)
    else if ← passes .blockEnd then
      count 1
      return []
    else fail

def flowItems (first : Bool) : Nat → Parse (List Node)
  | 0 => fail
  | fuel + 1 => do
    if ← passes .closeSequence then
      count 1
      return []
    else
      if !first then
        if !(← passes .comma) then fail
      if ← passes .key then
        let entry ← singleEntry fuel
        return entry :: (← flowItems false fuel)
      else if ← passes .closeSequence then
        count 1
        return []
      else
        let n ← node false false fuel
        return n :: (← flowItems false fuel)

-- An item of a flow sequence that is a mapping of one entry, without braces. A token that ends the
-- empty key is passed over.
def singleEntry : Nat → Parse Node
  | 0 => fail
  | fuel + 1 => do
    count 2
    let place ← beginNode none
    let k ←
      if ← isNext [some .value, some .comma, some .closeSequence] then
        advance
        emptyNode
      else node false false fuel
    let v ←
      if ← passes .value then nodeUnless [some .comma, some .closeSequence] false false fuel
      else emptyNode
    endNode place false (.mapping none [(k, v)])

def flowEntries (first : Bool) : Nat → Parse (List (Node × Node))
  | 0 => fail
  | fuel + 1 => do
    if ← passes .closeMapping then
      count 1
      return []
    else
      if !first then
        if !(← passes .comma) then fail
      if ← passes .key then
        let k ← nodeUnless [some .value, some .comma, some .closeMapping] false false fuel
        let v ←
          if ← passes .value then nodeUnless [some .comma, some .closeMapping] false false fuel
          else emptyNode
        return (k, v) :: (← flowEntries false fuel)
      else if ← passes .closeMapping then
        count 1
        return []
      else
        let k ← node false false fuel
        let v ← emptyNode
        return (k, v) :: (← flowEntries false fuel)

end

def standardHandles : List (List Char × List Char) :=
  [(['!'], ['!']), (['!', '!'], "tag:yaml.org,2002:".toList)]

def directives (seen : Bool) (handles : List (List Char × List Char)) :
    List Token → Option (List (List Char × List Char) × List Token)
  | .version major minor :: ts =>
    if seen || major ≠ 1 || (minor ≠ 1 && minor ≠ 2) then none else directives true handles ts
  | .handle name start :: ts =>
    if (handles.lookup name).isSome then none
    else directives seen (handles ++ [(name, start)]) ts
  | ts => some (handles, ts)

def isDirective : Option Token → Bool
  | some (.version _ _) => true
  | some (.handle _ _) => true
  | _ => false

def content (fuel : Nat) : Parse Node := do
  let t ← peek
  if isDirective t || t = some .documentStart || t = some .documentEnd || t = none then emptyNode
  else node true false fuel

def begin (handles : List (List Char × List Char)) (ts : List Token) : Parser :=
  ⟨ts, handles ++ standardHandles, ⟨[], [], []⟩, 0, 0⟩

-- One document and the tokens after it; none where the tokens end. The marks that end documents may be
-- repeated between them, and only the first document needs no mark to begin it.
def document? (first : Bool) (ts : List Token) : Option (Option (Node × Parser)) :=
  let ts := if first then ts else ts.dropWhile (· == .documentEnd)
  match ts with
  | [] => some none
  | t :: _ =>
    let fuel := 4 * ts.length + 16
    let finish (r : Option (Node × Parser)) : Option (Option (Node × Parser)) :=
      r.map fun (n, p) => some (n, { p with tokens := if p.tokens.head? = some .documentEnd then
        p.tokens.tail else p.tokens })
    if first && !isDirective (some t) && t ≠ .documentStart then
      finish ((node true false fuel).run (begin [] ts))
    else
      match directives false [] ts with
      | some (handles, .documentStart :: rest) => finish ((content fuel).run (begin handles rest))
      | _ => none

def remaining : Nat → List Token → Option Nat
  | 0, _ => none
  | fuel + 1, ts =>
    match document? false ts with
    | none => none
    | some none => some 0
    | some (some (_, p)) => (remaining fuel p.tokens).map (· + 1)

def anchored (p : Parser) : List (Nat × Node) :=
  p.anchors.places.filterMap fun (number, place) =>
    (p.anchors.nodes.lookup place).map fun n => (number, n)

end Parser

inductive Content where
  | void
  | single (d : Document)

def read? (text : String) : Option Content :=
  match tokens? text.toList with
  | none => none
  | some ts =>
    match Parser.document? true ts with
    | none => none
    | some none => some .void
    | some (some (root, p)) =>
      match Parser.remaining (p.tokens.length + 1) p.tokens with
      | some 0 => some (.single ⟨root, p.anchored, p.size⟩)
      | _ => none

end Overseer.Yaml
