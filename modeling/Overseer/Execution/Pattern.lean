set_option autoImplicit false

namespace Overseer.Execution

namespace Pattern

inductive Atom where
  | any
  | char (c : Char)
  | set (inside : Bool) (members : List Char)
deriving DecidableEq, Repr

def isMember : List Char → Char → Bool
  | a :: '-' :: b :: cs, c => (a ≤ c && c ≤ b) || isMember cs c
  | a :: cs, c => a = c || isMember cs c
  | [], _ => false

def Atom.fits : Atom → Char → Bool
  | any, _ => true
  | char a, c => a = c
  | set inside members, c => isMember members c = inside

abbrev Part := Atom × Bool

def setOf (cs : List Char) : Option (Atom × List Char) :=
  let (inside, cs) :=
    match cs with
    | '^' :: cs => (false, cs)
    | cs => (true, cs)
  let first := cs.take 1
  let members := first ++ (cs.drop 1).takeWhile (· ≠ ']')
  match cs.drop members.length with
  | ']' :: rest => some (.set inside members, rest)
  | _ => none

def partsOf : Nat → List Char → List Part
  | 0, _ => []
  | _, [] => []
  | fuel + 1, c :: cs =>
    let (atom, rest) :=
      match c, cs with
      | '.', cs => (Atom.any, cs)
      | '\\', e :: cs => (.char e, cs)
      | '[', cs => (setOf cs).getD (.char '[', cs)
      | c, cs => (.char c, cs)
    match rest with
    | '*' :: rest => (atom, true) :: partsOf fuel rest
    | rest => (atom, false) :: partsOf fuel rest

def fitsHere (whole : Bool) : Nat → List Part → List Char → Bool
  | 0, _, _ => false
  | _, [], cs => !whole || cs.isEmpty
  | fuel + 1, (a, repeated) :: ps, cs =>
    let once (next : List Part) : Bool :=
      match cs with
      | [] => false
      | c :: rest => a.fits c && fitsHere whole fuel next rest
    if repeated then fitsHere whole fuel ps cs || once ((a, true) :: ps) else once ps

def fitsIn (whole : Bool) (fuel : Nat) (ps : List Part) : List Char → Bool
  | [] => fitsHere whole fuel ps []
  | c :: cs => fitsHere whole fuel ps (c :: cs) || fitsIn whole fuel ps cs

end Pattern

structure Pattern where
  fromStart : Bool
  toEnd : Bool
  parts : List Pattern.Part
deriving DecidableEq, Repr

namespace Pattern

def ofText (s : String) : Pattern :=
  let (fromStart, cs) :=
    match s.toList with
    | '^' :: cs => (true, cs)
    | cs => (false, cs)
  let (toEnd, cs) :=
    match cs.reverse with
    | '$' :: before => if before.head? = some '\\' then (false, cs) else (true, before.reverse)
    | _ => (false, cs)
  ⟨fromStart, toEnd, partsOf (cs.length + 1) cs⟩

def literal (s : String) : Pattern := ⟨false, false, s.toList.map fun c => (.char c, false)⟩

def isIn (p : Pattern) (line : String) : Bool :=
  let fuel := p.parts.length + line.length + 1
  if p.fromStart then fitsHere p.toEnd fuel p.parts line.toList
  else fitsIn p.toEnd fuel p.parts line.toList

end Pattern

end Overseer.Execution
