import Overseer.Files.Path
/-!
A tree of files. Every place but the root holds at most one node; walking a path follows links and
ends at a taken place, or at a free one in a directory.
-/
set_option autoImplicit false

namespace Overseer.Files

inductive Node where
  | directory
  | file (content : ByteArray) (mode : Nat)
  | link (target : String)
  | sinkDevice
  | fullDevice
  | tool (name : String)

namespace Node

def isDirectory : Node → Bool
  | directory => true
  | _ => false

def isDevice : Node → Bool
  | sinkDevice => true
  | fullDevice => true
  | _ => false

end Node

def textBytes (s : String) : ByteArray := s.toUTF8

-- Hard links are not represented: no two places share a file.
structure Tree where
  nodes : List (Location × Node)

inductive Spot where
  | taken (place : Location) (node : Node)
  -- Nothing is there, but the directory that would hold it is.
  | free (place : Location)

namespace Tree

def empty : Tree := ⟨[]⟩

def node? (t : Tree) (place : Location) : Option Node :=
  if place = [] then some .directory else t.nodes.lookup place

def erase (t : Tree) (place : Location) : Tree :=
  ⟨t.nodes.filter fun entry => entry.1 ≠ place⟩

def put (t : Tree) (place : Location) (node : Node) : Tree :=
  ⟨(place, node) :: (t.erase place).nodes⟩

def eraseBelow (t : Tree) (place : Location) : Tree :=
  ⟨t.nodes.filter fun entry => !place.isSuffixOf entry.1⟩

def nameIn (directory : Location) : Location → Option Name
  | [] => none
  | n :: parent => if parent = directory then some n else none

def names (t : Tree) (directory : Location) : List Name :=
  t.nodes.filterMap fun entry => nameIn directory entry.1

def linkLimit : Nat := 40

def walk (t : Tree) (follow : Bool) : Nat → Location → List Step → Except Refusal Spot
  | _, place, [] => .ok (.taken place .directory)
  | links, place, .here :: rest => walk t follow links place rest
  | links, place, .up :: rest => walk t follow links place.tail rest
  | links, place, .into n :: rest =>
    if n.isTooLong then .error .nameTooLong
    else match t.node? (n :: place) with
    | none => if rest = [] then .ok (.free (n :: place)) else .error .missing
    | some .directory => walk t follow links (n :: place) rest
    | some (.link target) =>
      if rest = [] && !follow then .ok (.taken (n :: place) (.link target))
      else match links with
      | 0 => .error .tooManyLinks
      | links + 1 =>
        match Path.ofText target with
        | .error r => .error r
        | .ok p => walk t follow links (if p.fromRoot then [] else place) (p.steps ++ rest)
    | some node =>
      if rest = [] then .ok (.taken (n :: place) node) else .error .notDirectory
termination_by links _ steps => (links, steps.length)

-- Walks a path from the working directory. A path with a slash at its end leads to a directory, if it
-- leads to anything.
def locate (t : Tree) (work : Location) (follow : Bool) (p : Path) : Except Refusal Spot :=
  match t.walk (follow || p.slashed) linkLimit (if p.fromRoot then [] else work) p.steps with
  | .error r => .error r
  | .ok (.taken place .directory) => .ok (.taken place .directory)
  | .ok (.taken place node) => if p.slashed then .error .notDirectory else .ok (.taken place node)
  | .ok (.free place) => .ok (.free place)

def find (t : Tree) (work : Location) (follow : Bool) (path : String) : Except Refusal Spot :=
  match Path.ofText path with
  | .error r => .error r
  | .ok p => t.locate work follow p

def isPresent (t : Tree) (work : Location) (path : String) : Bool :=
  match t.find work true path with
  | .ok (.taken _ _) => true
  | _ => false

def isDirectory (t : Tree) (work : Location) (p : Path) : Bool :=
  match t.locate work true p with
  | .ok (.taken _ .directory) => true
  | _ => false

def makeDirectory (t : Tree) (work : Location) (p : Path) : Except Refusal Tree :=
  match t.locate work false ⟨p.fromRoot, p.steps, false⟩ with
  | .error r => .error r
  | .ok (.taken _ _) => .error .taken
  | .ok (.free place) => .ok (t.put place .directory)

def makeDirectories (t : Tree) (work : Location) : Nat → Path → Except Refusal Tree
  | depth, p =>
    if p.isNothing then .ok t
    else match t.makeDirectory work p with
    | .ok t => .ok t
    | .error r =>
      if r ≠ .missing then
        if t.isDirectory work p then .ok t else .error r
      else match depth, p.parent? with
      | depth + 1, some parent =>
        match makeDirectories t work depth parent with
        | .error r => .error r
        | .ok t =>
          match t.makeDirectory work p with
          | .ok t => .ok t
          | .error r => if t.isDirectory work p then .ok t else .error r
      | _, _ => .error (.other "failed to create whole tree")

-- Nothing is made for the empty path, which names the working directory.
def makePath (t : Tree) (work : Location) (path : String) : Except Refusal Tree :=
  if path = "" then .ok t
  else match Path.ofText path with
  | .error r => .error r
  | .ok p => t.makeDirectories work (p.steps.length + 1) p

def list (t : Tree) (work : Location) (path : String) : Except Refusal (List Name) :=
  match t.find work true path with
  | .error r => .error r
  | .ok (.free _) => .error .missing
  | .ok (.taken place .directory) => .ok (t.names place)
  | .ok (.taken _ _) => .error .notDirectory

def read (t : Tree) (work : Location) (path : String) : Except Refusal ByteArray :=
  match t.find work true path with
  | .error r => .error r
  | .ok (.free _) => .error .missing
  | .ok (.taken _ .directory) => .error .isDirectory
  | .ok (.taken _ (.file content _)) => .ok content
  | .ok (.taken _ _) => .ok ByteArray.empty

def newMode : Nat := 0o644

def programMode : Nat := 0o755

-- A path that leads nowhere but ends in a slash cannot become a file.
def findForWriting (t : Tree) (work : Location) (path : String) : Except Refusal Spot :=
  match Path.ofText path with
  | .error r => .error r
  | .ok p =>
    match t.locate work true p with
    | .ok (.free place) => if p.slashed then .error .isDirectory else .ok (.free place)
    | .ok (.taken _ .directory) => .error .isDirectory
    | spot => spot

def create (t : Tree) (work : Location) (path : String) : Except Refusal Tree :=
  match t.findForWriting work path with
  | .error r => .error r
  | .ok (.free place) => .ok (t.put place (.file ByteArray.empty newMode))
  | .ok (.taken place (.file _ mode)) => .ok (t.put place (.file ByteArray.empty mode))
  | .ok (.taken place (.tool _)) => .ok (t.put place (.file ByteArray.empty programMode))
  | .ok (.taken _ _) => .ok t

def openEnd (t : Tree) (work : Location) (path : String) : Except Refusal Tree :=
  match t.findForWriting work path with
  | .error r => .error r
  | .ok (.free place) => .ok (t.put place (.file ByteArray.empty newMode))
  | .ok (.taken _ _) => .ok t

def extend (t : Tree) (work : Location) (path : String) (bytes : ByteArray) :
    Except Refusal Tree :=
  match t.findForWriting work path with
  | .error r => .error r
  | .ok (.free _) => .error .missing
  | .ok (.taken place (.file content mode)) => .ok (t.put place (.file (content ++ bytes) mode))
  | .ok (.taken _ .fullDevice) => if bytes.isEmpty then .ok t else .error .noSpace
  | .ok (.taken _ _) => .ok t

def sync (t : Tree) (work : Location) (path : String) : Except Refusal Tree :=
  match t.findForWriting work path with
  | .error r => .error r
  | .ok (.taken _ .fullDevice) => .error .invalid
  | .ok (.taken _ .sinkDevice) => .error .invalid
  | .ok _ => .ok t

-- Gives a node another place, from which it drives what is there unless that is a directory.
def rename (t : Tree) (work : Location) (source target : String) : Except Refusal Tree :=
  match t.find work false source with
  | .error r => .error r
  | .ok (.free _) => .error .missing
  | .ok (.taken _ .directory) => .error .invalid
  | .ok (.taken place node) =>
    match Path.ofText target with
    | .error r => .error r
    | .ok p =>
      match t.locate work false p with
      | .error r => .error r
      | .ok (.taken _ .directory) => .error .isDirectory
      | .ok (.taken goal _) => .ok (if goal = place then t else (t.erase place).put goal node)
      | .ok (.free goal) =>
        if p.slashed then .error .notDirectory else .ok ((t.erase place).put goal node)

def remove (t : Tree) (work : Location) (path : String) : Except Refusal Tree :=
  match t.find work false path with
  | .error r => .error r
  | .ok (.free _) => .error .missing
  | .ok (.taken _ .directory) => .error .isDirectory
  | .ok (.taken place _) => .ok (t.erase place)

def removeAll (t : Tree) (work : Location) (path : String) : Except Refusal Tree :=
  match t.find work false path with
  | .error r => .error r
  | .ok (.free _) => .error .missing
  | .ok (.taken place _) => .ok (t.eraseBelow place)

def makeLink (t : Tree) (work : Location) (target path : String) : Except Refusal Tree :=
  match Path.ofText target with
  | .error r => .error r
  | .ok _ =>
    match t.find work false path with
    | .error r => .error r
    | .ok (.taken _ _) => .error .taken
    | .ok (.free place) => .ok (t.put place (.link target))

def setMode (t : Tree) (work : Location) (path : String) (mode : Nat) : Except Refusal Tree :=
  match t.find work true path with
  | .error r => .error r
  | .ok (.free _) => .error .missing
  | .ok (.taken place (.file content _)) => .ok (t.put place (.file content mode))
  | .ok (.taken _ _) => .ok t

def below (t : Tree) (place : Location) : List (List Name × Node) :=
  t.nodes.filterMap fun entry =>
    if place.isSuffixOf entry.1 && place ≠ entry.1 then
      some ((entry.1.take (entry.1.length - place.length)).reverse, entry.2)
    else none

end Tree

end Overseer.Files
