import Overseer.Text.Numeral
import Overseer.Text.Quoted
import Overseer.Refusal
import Overseer.Yaml.Resolution

set_option autoImplicit false

namespace Overseer.Yaml

inductive Route where
  | root
  | item (parent : Route) (index : Nat)
  | entry (parent : Route) (key : String)
  | unnamed (parent : Route)
deriving DecidableEq, Repr

namespace Route

def text : Route → String
  | root => "."
  | item parent index => parent.text ++ "[" ++ Text.Numeral.text index ++ "]"
  | entry parent key => (match parent with | root => "" | _ => parent.text ++ ".") ++ key
  | unnamed parent => (match parent with | root => "" | _ => parent.text ++ ".") ++ "?"

end Route

inductive Found where
  | nothing
  | boolean (b : Bool)
  | integer (n : Int)
  | wide (n : Int)
  | real (x : Real)
  | text (s : String)
  | sequence
  | mapping
  | choice
deriving DecidableEq, Repr

namespace Found

def description : Found → String
  | nothing => "unit value"
  | boolean b => "boolean `" ++ (if b then "true" else "false") ++ "`"
  | integer n => "integer `" ++ integerText n ++ "`"
  | wide n => "integer `" ++ integerText n ++ "` as " ++ (if n < 0 then "i128" else "u128")
  | real x => "floating point `" ++ x.text ++ "`"
  | text s => "string " ++ Text.quoted s
  | sequence => "sequence"
  | mapping => "map"
  | choice => "enum"

def ofResolved : Resolved → Found
  | .nothing => nothing
  | .boolean b => boolean b
  | .natural n => integer n
  | .negative n => integer (-n)
  | .wide n => wide n
  | .real x => real x
  | .text s => text s

end Found

inductive Problem where
  | wrongType (found : Found) (expected : String)
  | wrongValue (found : Found) (expected : String)
  | wrongLength (length : Nat) (expected : String)
  | missing (field : String)
  | repeated (field : String)
  | unknownVariant (name : String) (variants : List String)
  | taggedChoice
deriving DecidableEq, Repr

def oneOf : List String → String
  | [] => "there are no variants"
  | [a] => "expected `" ++ a ++ "`"
  | [a, b] => "expected `" ++ a ++ "` or `" ++ b ++ "`"
  | names => "expected one of " ++ String.intercalate ", " (names.map fun n => "`" ++ n ++ "`")

def Problem.text : Problem → String
  | wrongType found expected => "invalid type: " ++ found.description ++ ", expected " ++ expected
  | wrongValue found expected => "invalid value: " ++ found.description ++ ", expected " ++ expected
  | wrongLength n expected =>
    "invalid length " ++ Text.Numeral.text n ++ ", expected " ++ expected
  | missing field => "missing field `" ++ field ++ "`"
  | repeated field => "duplicate field `" ++ field ++ "`"
  | unknownVariant name variants => "unknown variant `" ++ name ++ "`, " ++ oneOf variants
  | taggedChoice => "untagged and internally tagged enums do not support enum input"

inductive Mismatch where
  | at (route : Route) (problem : Problem)
  | tooDeep
  | tooOften
deriving DecidableEq, Repr

def Mismatch.text : Mismatch → String
  | .at .root problem => problem.text
  | .at route problem => route.text ++ ": " ++ problem.text
  | tooDeep => "recursion limit exceeded"
  | tooOften => "repetition limit exceeded"

end Overseer.Yaml
