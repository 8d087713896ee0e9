import Overseer.Refusal

set_option autoImplicit false

namespace Overseer.Files

inductive Name where
  | text (s : String)
  | raw (bytes : List UInt8)
deriving DecidableEq, Repr

namespace Name

def bytes : Name → List UInt8
  | text s => s.toUTF8.data.toList
  | raw bs => bs

def ofBytes (bs : List UInt8) : Name :=
  match String.fromUTF8? ⟨bs.toArray⟩ with
  | some s => text s
  | none => raw bs

def isTooLong (n : Name) : Bool := 255 < n.bytes.length

end Name

-- A place in the tree: the names on the way from the root to it, the last one first.
abbrev Location := List Name

inductive Step where
  | here
  | up
  | into (name : Name)
deriving DecidableEq, Repr

structure Path where
  fromRoot : Bool
  steps : List Step
  slashed : Bool
deriving DecidableEq, Repr

def pieces {α : Type} [DecidableEq α] (separator : α) : List α → List (List α)
  | [] => [[]]
  | c :: cs =>
    if c = separator then [] :: pieces separator cs
    else match pieces separator cs with
      | [] => [[c]]
      | p :: ps => (c :: p) :: ps

namespace Path

def step (n : Name) : Step :=
  if n = .text "." then .here else if n = .text ".." then .up else .into n

def ofNames (ns : List Name) : Path where
  fromRoot := ns.head? == some (.text "")
  steps := (ns.filter (· ≠ .text "")).map step
  slashed := ns.getLast? == some (.text "")

-- The longest path that is looked at has 4095 bytes.
def limit : Nat := 4096

def ofText (s : String) : Except Refusal Path :=
  if s.toList.contains '\x00' then .error .nulInPath
  else if s = "" then .error .missing
  else if limit ≤ s.utf8ByteSize then .error .nameTooLong
  else .ok (ofNames ((pieces '/' s.toList).map fun p => .text (String.ofList p)))

def ofBytes (bs : List UInt8) : Except Refusal Path :=
  if bs.contains 0 then .error .nulInPath
  else if bs = [] then .error .missing
  else if limit ≤ bs.length then .error .nameTooLong
  else .ok (ofNames ((pieces 47 bs).map Name.ofBytes))

def parent? (p : Path) : Option Path :=
  match p.steps.reverse.dropWhile (· == .here) with
  | [] => if p.steps.isEmpty then none else some ⟨p.fromRoot, [], false⟩
  | _ :: before => some ⟨p.fromRoot, (before.dropWhile (· == .here)).reverse, false⟩

def isNothing (p : Path) : Bool := !p.fromRoot && p.steps.isEmpty

def join (directory name : String) : String :=
  if name.toList.head? = some '/' || directory = "" then name
  else if directory.toList.getLast? = some '/' then directory ++ name
  else directory ++ "/" ++ name

end Path

def Location.text (l : Location) : String :=
  match l with
  | [] => "/"
  | names => String.join (names.reverse.map fun
      | .text s => "/" ++ s
      | .raw _ => "/\ufffd")

end Overseer.Files
