import Overseer.CommandLine.Paint
import Overseer.Text.Numeral

set_option autoImplicit false

namespace Overseer.CommandLine

open Text (Numeral.aligned Numeral.word32)

def countPaint (ceiling count : UInt32) : Paint :=
  if count = 0 then .green else if count < ceiling then .yellow else .red

def countLine (painting : Bool) (ceiling : UInt32) (id : UInt64) (count : UInt32) : String :=
  Paint.bold.apply painting "session" ++ " " ++ Numeral.aligned 6 id.toNat ++
    "  failures " ++
    (countPaint ceiling count).apply painting
      (Numeral.word32 count ++ "/" ++ Numeral.word32 ceiling)

def countLines (painting : Bool) (directory : String) (ceiling : UInt32) :
    List (UInt64 × UInt32) → List String
  | [] => ["No sessions recorded in " ++ directory]
  | counts => counts.map fun entry => countLine painting ceiling entry.1 entry.2

end Overseer.CommandLine
