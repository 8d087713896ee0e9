set_option autoImplicit false

namespace Overseer

inductive Level where
  | error
  | warn
  | info
  | debug
  | trace
deriving DecidableEq, Repr

def Level.label : Level → String
  | error => "ERROR"
  | warn => "WARN"
  | info => "INFO"
  | debug => "DEBUG"
  | trace => "TRACE"

def Level.rank : Level → Nat
  | error => 1
  | warn => 2
  | info => 3
  | debug => 4
  | trace => 5

structure Diagnostic where
  level : Level
  text : String
deriving DecidableEq, Repr

def Diagnostic.line (d : Diagnostic) : String := d.level.label ++ " " ++ d.text

def occurs (word : List Char) : List Char → Bool
  | [] => word.isEmpty
  | c :: cs => word.isPrefixOf (c :: cs) || occurs word cs

structure Listener where
  limit : Option Level
  word : String
deriving DecidableEq, Repr

namespace Listener

def upTo (level : Level) : Listener := ⟨some level, ""⟩

def hears (l : Listener) (d : Diagnostic) : Bool :=
  match l.limit with
  | none => false
  | some limit => decide (d.level.rank ≤ limit.rank) && occurs l.word.toList d.text.toList

end Listener

end Overseer
