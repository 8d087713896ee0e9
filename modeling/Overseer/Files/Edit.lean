import Overseer.Files.Tree

set_option autoImplicit false

namespace Overseer.Files

inductive Edit where
  | write (path : Path) (content : ByteArray)
  | makeDirectory (path : String)
  | remove (path : String)
  | makeLink (target path : String)
  | setMode (path : String) (mode : Nat)
  | look (path : String)
  | survey (path : String)

inductive View where
  | nothing
  | content (bytes : ByteArray)
  | entries (list : List (List Name × Node))

namespace Tree

def joinNames : List Name → List UInt8
  | [] => []
  | [n] => n.bytes
  | n :: ns => n.bytes ++ 47 :: joinNames ns

-- All that lies below a directory, by the bytes of the way to it. What is no directory has nothing
-- below it.
def survey (t : Tree) (work : Location) (path : String) : List (List Name × Node) :=
  match t.find work true path with
  | .ok (.taken place .directory) =>
    let keyed := (t.below place).map fun entry => (joinNames entry.1, entry)
    (keyed.mergeSort fun a b => !decide (b.1 < a.1)).map (·.2)
  | _ => []

def store (t : Tree) (work : Location) (p : Path) (content : ByteArray) : Except Refusal Tree :=
  let prepared : Except Refusal Tree :=
    match p.parent? with
    | none => .ok t
    | some parent => t.makeDirectories work (parent.steps.length + 1) parent
  match prepared with
  | .error r => .error r
  | .ok t =>
    match t.locate work true p with
    | .error r => .error r
    | .ok (.free place) =>
      if p.slashed then .error .isDirectory else .ok (t.put place (.file content newMode))
    | .ok (.taken _ .directory) => .error .isDirectory
    | .ok (.taken place (.file _ mode)) => .ok (t.put place (.file content mode))
    | .ok (.taken place (.tool _)) => .ok (t.put place (.file content programMode))
    | .ok (.taken _ .fullDevice) => if content.isEmpty then .ok t else .error .noSpace
    | .ok (.taken _ _) => .ok t

end Tree

def Edit.apply (work : Location) (t : Tree) : Edit → Except Refusal View × Tree
  | .write p content => changed (t.store work p content)
  | .makeDirectory p => changed (t.makePath work p)
  | .remove p => changed (t.removeAll work p)
  | .makeLink target p => changed (t.makeLink work target p)
  | .setMode p mode => changed (t.setMode work p mode)
  | .look p => ((t.read work p).map .content, t)
  | .survey p => (.ok (.entries (t.survey work p)), t)
where
  changed : Except Refusal Tree → Except Refusal View × Tree
    | .ok t => (.ok .nothing, t)
    | .error r => (.error r, t)

end Overseer.Files
