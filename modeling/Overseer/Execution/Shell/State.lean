import Overseer.Execution.Basic
import Overseer.Execution.Printing
import Overseer.Execution.Shell.Field

set_option autoImplicit false

namespace Overseer.Execution

namespace Shell

structure Frame where
  context : Context
  values : List (String × String)
  exported : List String
  functions : List (String × Script)
  title : String
  words : List String
  last : Nat
  strict : Bool
  -- What is run on a signal, or at the end of the shell, which counts as 0; nothing is run where the
  -- text is empty.
  traps : List (Nat × String)

-- A script in the background. It is run when somebody waits for it or the shell ends, as if since it
-- began.
structure Job where
  number : Nat
  began : Host.Duration
  script : Script
  frame : Frame

end Shell

structure Shell extends Shell.Frame where
  jobs : List Shell.Job
  latestJob : Option Nat
  ended : List (Nat × Nat)

namespace Shell

def fresh (context : Context) (title : String) (strict : Bool) : Shell where
  context := context
  values := context.environment
  exported := context.environment.map (·.1)
  functions := []
  title := title
  words := []
  last := 0
  strict := strict
  traps := context.ignored.map (·, "")
  jobs := []
  latestJob := none
  ended := []

def ofFrame (f : Frame) : Shell := { f with jobs := [], latestJob := none, ended := [] }

def Frame.within (f : Frame) : Frame := { f with traps := f.traps.filter fun t => t.2 = "" }

def ignored (s : Shell) : List Nat := (s.traps.filter fun t => t.2 = "" && t.1 ≠ 0).map (·.1)

inductive Jump where
  | halted (h : Halt)
  | returned (code : Nat)
  | broke
  | continued
deriving DecidableEq, Repr

end Shell

abbrev Sh := ExceptT Shell.Jump (StateT Shell (StateM World))

instance (priority := low) : MonadLift Running Sh where
  monadLift p := ExceptT.mk fun s w =>
    match p w with
    | (.ok a, w) => ((.ok a, s), w)
    | (.error h, w) => ((.error (.halted h), s), w)

namespace Shell

def jump {α : Type} (j : Jump) : Sh α := ExceptT.mk (pure (.error j))

def observe {α : Type} (body : Sh α) : Sh (Except Jump α) := ExceptT.lift body.run

def assign (s : Shell) (name value : String) : Shell :=
  { s with values := (name, value) :: s.values.filter (·.1 ≠ name) }

def forget (s : Shell) (name : String) : Shell :=
  { s with
    values := s.values.filter (·.1 ≠ name)
    exported := s.exported.filter (· ≠ name) }

def publish (s : Shell) (name : String) : Shell := { s with exported := name :: s.exported }

def environment (s : Shell) : List (String × String) :=
  s.values.filter fun v => s.exported.contains v.1

def parameter? (s : Shell) (name : String) : Option String :=
  match name with
  | "$" => some (integerText s.context.number)
  | "?" => some (integerText s.last)
  | "#" => some (integerText s.words.length)
  | "@" => some (String.intercalate " " s.words)
  | "*" => some (String.intercalate " " s.words)
  | "-" => some (if s.strict then "e" else "")
  | "!" => s.latestJob.map fun n => integerText n
  | "0" => some s.title
  | "PPID" => some (integerText s.context.parent)
  | name =>
    if name.toList.all Char.isDigit then s.words[(name.toNat?).getD 0 - 1]?
    else s.values.lookup name

def valueOf (s : Shell) (name : List Char) : List Char :=
  ((s.parameter? (String.ofList name)).getD "").toList

def number (s : Shell) (name : List Char) : Int :=
  (integer? (String.ofList (s.valueOf name))).getD 0

def wordMarks (s : Shell) (isQuoted : Bool) : List Mark :=
  List.intercalate [.gap] (s.words.map fun w => valueMarks isQuoted w.toList)

def pieceMarks (s : Shell) : Piece → List Mark
  | .bare cs => live cs
  | .quoted cs => inert cs
  | .parameter ['@'] isQuoted => s.wordMarks isQuoted
  | .parameter ['*'] false => s.wordMarks false
  | .parameter name isQuoted => valueMarks isQuoted (s.valueOf name)
  | .fallback name alsoEmpty text isQuoted =>
    match s.parameter? (String.ofList name) with
    | none => valueMarks isQuoted text
    | some v => valueMarks isQuoted (if v = "" && alsoEmpty then text else v.toList)
  | .size name => live (integerText (s.valueOf name).length).toList
  | .output _ _ => []
  | .arithmetic _ _ => []

def chomped (bytes : ByteArray) : List Char :=
  (((String.fromUTF8? bytes).getD "\ufffd").toList.reverse.dropWhile (· = '\n')).reverse

end Shell

end Overseer.Execution
