import Overseer.Files.Tree
import Overseer.Execution.Shell.Script

set_option autoImplicit false

namespace Overseer.Execution.Shell

inductive Mark where
  -- A character; `isLive` says that it may stand for others in a pattern.
  | char (c : Char) (isLive : Bool)
  | gap
  -- A field is here even if it is empty.
  | here
deriving DecidableEq, Repr

abbrev Field := List (Char × Bool)

def isSpace (c : Char) : Bool := c = ' ' || c = '\t' || c = '\n'

def live (cs : List Char) : List Mark := cs.map (.char · true)

def inert (cs : List Char) : List Mark := .here :: cs.map (.char · false)

def split (cs : List Char) : List Mark := cs.map fun c => if isSpace c then .gap else .char c true

def valueMarks (isQuoted : Bool) (cs : List Char) : List Mark :=
  if isQuoted then inert cs else split cs

def fields : Option Field → List Mark → List Field
  | none, [] => []
  | some f, [] => [f.reverse]
  | none, .gap :: ms => fields none ms
  | some f, .gap :: ms => f.reverse :: fields none ms
  | current, .here :: ms => fields (some (current.getD [])) ms
  | current, .char c isLive :: ms => fields (some ((c, isLive) :: current.getD [])) ms

def Field.text (f : Field) : String := String.ofList (f.map (·.1))

def plainText : List Mark → List Char
  | [] => []
  | .char c _ :: ms => c :: plainText ms
  | .gap :: ms => ' ' :: plainText ms
  | .here :: ms => plainText ms

def isPattern (f : Field) : Bool :=
  f.any fun p => p.2 && (p.1 = '*' || p.1 = '?' || p.1 = '[')

def inSet : List Char → Char → Bool
  | a :: '-' :: b :: cs, c => (a ≤ c && c ≤ b) || inSet cs c
  | a :: cs, c => a = c || inSet cs c
  | [], _ => false

def matchSet (set : List Char) (c : Char) : Bool :=
  match set with
  | '!' :: cs => !inSet cs c
  | cs => inSet cs c

def fits : Nat → Field → List Char → Bool
  | 0, _, _ => false
  | _, [], [] => true
  | _, [], _ :: _ => false
  | fuel + 1, (p, isLive) :: ps, cs =>
    if isLive && p = '*' then
      fits fuel ps cs ||
        match cs with
        | [] => false
        | _ :: rest => fits fuel ((p, isLive) :: ps) rest
    else match cs with
    | [] => false
    | c :: rest =>
      if isLive && p = '?' then fits fuel ps rest
      else if isLive && p = '[' && ps.any (fun q => q.1 = ']') then
        matchSet ((ps.takeWhile (fun q => q.1 ≠ ']')).map (·.1)) c &&
          fits fuel ((ps.dropWhile (fun q => q.1 ≠ ']')).drop 1) rest
      else p = c && fits fuel ps rest

def lastPart (f : Field) : Field × Field :=
  let name := (f.reverse.takeWhile (fun p => p.1 ≠ '/')).reverse
  (f.take (f.length - name.length), name)

-- The names that a field stands for, in order; a field that no name fits stands for itself.
def filesOf (t : Files.Tree) (work : Files.Location) (f : Field) : List String :=
  if !isPattern f then [f.text]
  else
    let (directory, pattern) := lastPart f
    match t.list work (if directory.isEmpty then "." else Field.text directory) with
    | .error _ => [f.text]
    | .ok names =>
      let texts := names.filterMap fun
        | .text s => some s
        | .raw _ => none
      let hidden := pattern.head?.map (·.1) = some '.'
      let fitting := texts.filter fun s =>
        (hidden || s.toList.head? ≠ some '.') &&
          fits (pattern.length + s.length + 1) pattern s.toList
      if fitting.isEmpty then [f.text]
      else (fitting.mergeSort fun a b => !decide (b < a)).map (Field.text directory ++ ·)

end Overseer.Execution.Shell
