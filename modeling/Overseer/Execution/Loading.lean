import Overseer.Files.Tree

set_option autoImplicit false

namespace Overseer.Execution

open Files (Tree Location)

structure Image where
  tool : String
  arguments : List String
deriving DecidableEq, Repr

def isBlankByte (b : UInt8) : Bool := b = 32 || b = 9

def trimBytes (bs : List UInt8) : List UInt8 :=
  ((bs.dropWhile isBlankByte).reverse.dropWhile isBlankByte).reverse

def bytesText (bs : List UInt8) : String := (String.fromUTF8? ⟨bs.toArray⟩).getD "\ufffd"

def interpreter? (content : ByteArray) : Option (String × List String) :=
  match content.data.toList with
  | 35 :: 33 :: rest =>
    let line := trimBytes (rest.takeWhile (· ≠ 10))
    let path := line.takeWhile (!isBlankByte ·)
    let argument := trimBytes (line.drop path.length)
    if path.isEmpty then none
    else some (bytesText path, if argument.isEmpty then [] else [bytesText argument])
  | _ => none

def load (t : Tree) (work : Location) : Nat → String → List String → Except Refusal Image
  | depth, path, arguments =>
    match t.find work true path with
    | .error r => .error r
    | .ok (.free _) => .error .missing
    | .ok (.taken _ (.tool name)) => .ok ⟨name, arguments⟩
    | .ok (.taken _ (.file content mode)) =>
      if mode &&& 0o111 = 0 then .error .denied
      else match interpreter? content, depth with
      | none, _ => .error .badFormat
      | some _, 0 => .error .tooManyLinks
      | some (by_, first), depth + 1 => load t work depth by_ (first ++ path :: arguments)
    | .ok (.taken _ _) => .error .denied

def loadDepth : Nat := 5

def searchIn (t : Tree) (work : Location) (name : String) (arguments : List String) :
    Bool → List String → Except Refusal Image
  | denied, [] => .error (if denied then .denied else .missing)
  | denied, d :: ds =>
    match load t work loadDepth (if d = "" then name else d ++ "/" ++ name) arguments with
    | .ok image => .ok image
    | .error r =>
      if r = .denied then searchIn t work name arguments true ds
      else if r = .missing || r = .notDirectory then searchIn t work name arguments denied ds
      else .error r

def usualDirectories : String := "/bin:/usr/bin"

def search (t : Tree) (work : Location) (directories : Option String) (name : String)
    (arguments : List String) : Except Refusal Image :=
  if name = "" then .error .missing
  else if name.toList.contains '/' then load t work loadDepth name arguments
  else
    let ds := (Files.pieces ':' (directories.getD usualDirectories).toList).map String.ofList
    searchIn t work name arguments false ds

end Overseer.Execution
