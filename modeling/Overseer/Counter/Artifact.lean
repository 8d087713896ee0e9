import Overseer.Text.Numeral
import Overseer.Files.Path

set_option autoImplicit false

namespace Overseer.Counter

open Text (Numeral.padded Numeral.readWord64)

structure Store where
  directory : String
  stem : String
deriving DecidableEq, Repr

def ordinalWidth : Nat := 5

def artifactName (stem : String) (id : UInt64) : String :=
  stem ++ String.ofList (Numeral.padded ordinalWidth id.toNat)

def temporaryName (stem : String) (id : UInt64) : String :=
  "." ++ artifactName stem id ++ ".tmp"

def afterStem : List Char → List Char → Option (List Char)
  | [], cs => some cs
  | _ :: _, [] => none
  | s :: stem, c :: cs => if s = c then afterStem stem cs else none

-- The session that a name belongs to, whatever its padding.
def ordinal? (stem name : String) : Option UInt64 :=
  match afterStem stem.toList name.toList with
  | none => none
  | some ds =>
    if ds.isEmpty || !ds.all Char.isDigit then none
    else (Numeral.readWord64 (String.ofList ds)).toOption

def Store.artifactPath (s : Store) (id : UInt64) : String :=
  Files.Path.join s.directory (artifactName s.stem id)

def Store.temporaryPath (s : Store) (id : UInt64) : String :=
  Files.Path.join s.directory (temporaryName s.stem id)

end Overseer.Counter
