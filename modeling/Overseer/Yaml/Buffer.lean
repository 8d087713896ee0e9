import Overseer.Yaml.Decode

set_option autoImplicit false

namespace Overseer.Yaml

inductive Buffered where
  | nothing
  | boolean (b : Bool)
  | natural (n : Nat)
  | negative (n : Nat)
  | real (x : Real)
  | text (s : String)
  | sequence (items : List Buffered)
  | mapping (entries : List (Buffered × Buffered))

namespace Buffered

def found : Buffered → Found
  | nothing => .nothing
  | boolean b => .boolean b
  | natural n => .integer n
  | negative n => .integer (-n)
  | real x => .real x
  | text s => .text s
  | sequence _ => .sequence
  | mapping _ => .mapping

abbrev Buffer := StateT Nat (Except Mismatch)

def fail {α : Type} (m : Mismatch) : Buffer α := fun _ => .error m

def refuse {α : Type} (route : Route) (p : Problem) : Buffer α := fail (.at route p)

-- Aliases may be followed a hundred times for each part of the document.
def followCounted (d : Document) (n : Node) : Buffer Node :=
  match n with
  | .alias _ => fun followed =>
    if 100 * d.size < followed + 1 then .error .tooOften else .ok (d.follow n, followed + 1)
  | _ => return n

-- A scalar that 64 bits do not hold is refused, and so is a choice by a tag.
def ofScalar (route : Route) (expected : String) (s : Scalar) : Buffer Buffered :=
  if (Tag.own? s.tag).isSome then refuse route .taggedChoice
  else match s.resolve with
  | .error asked => refuse route (.wrongValue (.text s.text) asked)
  | .ok .nothing => return nothing
  | .ok (.boolean b) => return boolean b
  | .ok (.natural n) => return natural n
  | .ok (.negative n) => return negative n
  | .ok (.wide n) => refuse route (.wrongType (.wide n) expected)
  | .ok (.real x) => return real x
  | .ok (.text t) => return text t

def ofNode (d : Document) (expected : String) : Nat → Route → Node → Buffer Buffered
  | depth, route, n => do
    match ← followCounted d n with
    | .alias _ => return nothing
    | .scalar s => ofScalar route expected s
    | .sequence tag ns =>
      if (Tag.own? tag).isSome then refuse route .taggedChoice
      else match depth with
      | 0 => fail .tooDeep
      | depth + 1 =>
        sequence <$> ns.zipIdx.mapM fun (n, i) =>
          ofNode d "any value" depth (.item route i) n
    | .mapping tag es =>
      if (Tag.own? tag).isSome then refuse route .taggedChoice
      else match depth with
      | 0 => fail .tooDeep
      | depth + 1 =>
        mapping <$> es.mapM fun (k, v) => do
          let key ← ofNode d "any value" depth route k
          let value ← ofNode d "any value" depth (Decode.valueRoute route k) v
          return (key, value)

def anyValue : String := "any value"

end Buffered

end Overseer.Yaml
