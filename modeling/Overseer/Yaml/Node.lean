import Overseer.Yaml.Token

set_option autoImplicit false

namespace Overseer.Yaml

structure Scalar where
  text : String
  style : Style
  tag : Option String
deriving DecidableEq, Repr

inductive Node where
  | scalar (s : Scalar)
  | sequence (tag : Option String) (items : List Node)
  | mapping (tag : Option String) (entries : List (Node × Node))
  | alias (id : Nat)
deriving Repr

namespace Node

def plain (text : String) : Node := scalar ⟨text, .plain, none⟩

def string (text : String) : Node := scalar ⟨text, .doubleQuoted, none⟩

def nothing : Node := plain ""

end Node

structure Document where
  root : Node
  anchored : List (Nat × Node)
  size : Nat

def Document.follow (d : Document) : Node → Node
  | .alias id => (d.anchored.lookup id).getD .nothing
  | node => node

end Overseer.Yaml
