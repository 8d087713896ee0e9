import Overseer.Host.Call

set_option autoImplicit false

namespace Overseer.CommandLine

open Host (Action ask)

inductive Paint where
  | bold
  | red
  | green
  | yellow
  | cyan
deriving DecidableEq, Repr

namespace Paint

def code : Paint → String
  | bold => "1"
  | red => "31"
  | green => "32"
  | yellow => "33"
  | cyan => "36"

def sequence (code : String) : String := "\x1b[" ++ code ++ "m"

def apply (p : Paint) (painting : Bool) (text : String) : String :=
  if painting then sequence p.code ++ text ++ sequence "0" else text

def variableName : String := "CLICOLOR_FORCE"

def demanded : Option String → Bool
  | none => false
  | some value => value ≠ "0"

def isDemanded : Action Bool := do
  return demanded (← ask (.variable variableName))

end Paint

end Overseer.CommandLine
