set_option autoImplicit false

namespace Overseer.Execution.Shell

inductive Piece where
  | bare (text : List Char)
  | quoted (text : List Char)
  | parameter (name : List Char) (isQuoted : Bool)
  | fallback (name : List Char) (alsoEmpty : Bool) (text : List Char) (isQuoted : Bool)
  | size (name : List Char)
  | output (source : List Char) (isQuoted : Bool)
  | arithmetic (source : List Char) (isQuoted : Bool)
deriving DecidableEq, Repr

abbrev Word := List Piece

inductive Turn where
  | from
  | onto
  | after
  | descriptor
deriving DecidableEq, Repr

structure Redirection where
  number : Nat
  turn : Turn
  target : Word
deriving DecidableEq, Repr

inductive Script where
  | nothing
  | simple (settings : List (String × Word)) (words : List Word) (redirections : List Redirection)
  -- Commands in brackets; those in round ones change nothing of the shell.
  | group (inner : Script) (apart : Bool) (redirections : List Redirection)
  | sequence (first second : Script)
  | both (first second : Script)
  | either (first second : Script)
  | negated (inner : Script)
  | piped (first second : Script)
  | background (inner : Script)
  | choice (condition yes no : Script)
  | byCase (word : Word) (branches : List (List Word × Script))
  | define (name : String) (body : Script)
  | loop (untilTrue : Bool) (condition body : Script)
  | each (name : String) (words : List Word) (body : Script)

end Overseer.Execution.Shell
