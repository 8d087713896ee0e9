import Overseer.Execution.Shell.Script

set_option autoImplicit false

namespace Overseer.Execution.Shell

inductive Token where
  | word (w : Word)
  | redirect (number : Nat) (operator : String)
  | operator (text : String)
deriving DecidableEq, Repr

def isBlank (c : Char) : Bool := c = ' ' || c = '\t'

def isMeta (c : Char) : Bool :=
  isBlank c || ['\n', ';', '&', '|', '<', '>', '(', ')'].contains c

def startsName (c : Char) : Bool := c.isAlpha || c = '_'

def inName (c : Char) : Bool := c.isAlphanum || c = '_'

def isSpecial (c : Char) : Bool :=
  c.isDigit || ['$', '?', '#', '@', '*', '!', '-'].contains c

def enclosed (opening closing : Char) : Nat → List Char → Option (List Char × List Char)
  | _, [] => none
  | depth, '\\' :: c :: cs => (enclosed opening closing depth cs).map fun (a, b) => ('\\' :: c :: a, b)
  | depth, '\'' :: cs =>
    let inside := cs.takeWhile (· ≠ '\'')
    match h : cs.drop inside.length with
    | [] => none
    | q :: rest =>
      have : rest.length < cs.length := by
        have := congrArg List.length h
        simp at this
        omega
      (enclosed opening closing depth rest).map fun (a, b) => ('\'' :: inside ++ q :: a, b)
  | depth, c :: cs =>
    if c = closing then
      match depth with
      | 0 => some ([], cs)
      | depth + 1 => (enclosed opening closing depth cs).map fun (a, b) => (c :: a, b)
    else (enclosed opening closing (if c = opening then depth + 1 else depth) cs).map
      fun (a, b) => (c :: a, b)
termination_by _ cs => cs.length

def backQuoted : List Char → Option (List Char × List Char)
  | [] => none
  | '\\' :: c :: cs =>
    (backQuoted cs).map fun (a, b) =>
      (if c = '\x60' || c = '$' || c = '\\' then c :: a else '\\' :: c :: a, b)
  | c :: cs => if c = '\x60' then some ([], cs) else (backQuoted cs).map fun (a, b) => (c :: a, b)

def braced (isQuoted : Bool) (inside : List Char) : Option Piece :=
  match inside with
  | '#' :: c :: name => some (.size (c :: name))
  | _ =>
    let name := inside.takeWhile inName
    let name := if name.isEmpty then inside.take 1 else name
    match inside.drop name.length with
    | [] => if name.isEmpty then none else some (.parameter name isQuoted)
    | ':' :: '-' :: text => some (.fallback name true text isQuoted)
    | '-' :: text => some (.fallback name false text isQuoted)
    | _ => none

def dollar (isQuoted : Bool) : List Char → Option (Piece × List Char)
  | '(' :: '(' :: cs =>
    match enclosed '(' ')' 0 cs with
    | some (inside, ')' :: rest) => some (.arithmetic inside isQuoted, rest)
    | _ => none
  | '(' :: cs => (enclosed '(' ')' 0 cs).map fun (inside, rest) => (.output inside isQuoted, rest)
  | c :: cs =>
    if c = '\x7b' then
      match enclosed '\x7b' '\x7d' 0 cs with
      | none => none
      | some (inside, rest) => (braced isQuoted inside).map (·, rest)
    else if startsName c then
      some (.parameter ((c :: cs).takeWhile inName) isQuoted, (c :: cs).dropWhile inName)
    else if isSpecial c then some (.parameter [c] isQuoted, cs)
    else some (.bare ['$'], c :: cs)
  | [] => some (.bare ['$'], [])

def doubleQuoted : Nat → List Char → Option (Word × List Char)
  | 0, _ => none
  | _, [] => none
  | fuel + 1, c :: cs =>
    if c = '"' then some ([], cs)
    else if c = '$' then
      match dollar true cs with
      | none => none
      | some (p, rest) => (doubleQuoted fuel rest).map fun (w, rest) => (p :: w, rest)
    else if c = '\x60' then
      match backQuoted cs with
      | none => none
      | some (inside, rest) =>
        (doubleQuoted fuel rest).map fun (w, rest) => (.output inside true :: w, rest)
    else match c, cs with
      | '\\', '\n' :: rest => doubleQuoted fuel rest
      | '\\', e :: rest =>
        let text := if ['$', '"', '\\', '\x60'].contains e then [e] else ['\\', e]
        (doubleQuoted fuel rest).map fun (w, rest) => (.quoted text :: w, rest)
      | c, cs => (doubleQuoted fuel cs).map fun (w, rest) => (.quoted [c] :: w, rest)

def word : Nat → List Char → Option (Word × List Char)
  | 0, _ => none
  | _, [] => some ([], [])
  | fuel + 1, c :: cs =>
    if isMeta c then some ([], c :: cs)
    else if c = '"' then
      match doubleQuoted (cs.length + 1) cs with
      | none => none
      | some (inside, rest) =>
        let inside := if inside.isEmpty then [.quoted []] else inside
        (word fuel rest).map fun (w, rest) => (inside ++ w, rest)
    else if c = '\'' then
      match cs.dropWhile (· ≠ '\'') with
      | [] => none
      | _ :: rest =>
        (word fuel rest).map fun (w, rest) => (.quoted (cs.takeWhile (· ≠ '\'')) :: w, rest)
    else if c = '$' then
      match dollar false cs with
      | none => none
      | some (p, rest) => (word fuel rest).map fun (w, rest) => (p :: w, rest)
    else if c = '\x60' then
      match backQuoted cs with
      | none => none
      | some (inside, rest) => (word fuel rest).map fun (w, rest) => (.output inside false :: w, rest)
    else match c, cs with
      | '\\', '\n' :: rest => word fuel rest
      | '\\', e :: rest => (word fuel rest).map fun (w, rest) => (.quoted [e] :: w, rest)
      | c, cs => (word fuel cs).map fun (w, rest) => (.bare [c] :: w, rest)

def operator? (cs : List Char) : Option (String × List Char) :=
  match cs with
  | '&' :: '&' :: rest => some ("&&", rest)
  | '|' :: '|' :: rest => some ("||", rest)
  | ';' :: ';' :: rest => some (";;", rest)
  | c :: rest => if ['\n', ';', '&', '|', '(', ')'].contains c then some (String.ofList [c], rest) else none
  | [] => none

def redirection? (cs : List Char) : Option (String × List Char) :=
  match cs with
  | '>' :: '>' :: rest => some (">>", rest)
  | '>' :: '&' :: rest => some (">&", rest)
  | '>' :: '|' :: rest => some (">", rest)
  | '>' :: rest => some (">", rest)
  | '<' :: '&' :: rest => some ("<&", rest)
  | '<' :: '<' :: _ => none
  | '<' :: rest => some ("<", rest)
  | _ => none

def usualNumber (operator : String) : Nat := if operator = "<" || operator = "<&" then 0 else 1

def tokens : Nat → List Char → Option (List Token)
  | 0, _ => none
  | _, [] => some []
  | fuel + 1, c :: cs =>
    if isBlank c then tokens fuel cs
    else if c = '#' then tokens fuel (cs.dropWhile (· ≠ '\n'))
    else if c = '\\' && cs.head? = some '\n' then tokens fuel (cs.drop 1)
    else match operator? (c :: cs) with
    | some (o, rest) => (tokens fuel rest).map (.operator o :: ·)
    | none =>
      let digits := (c :: cs).takeWhile Char.isDigit
      match redirection? ((c :: cs).drop digits.length) with
      | some (o, rest) =>
        let number := if digits.isEmpty then usualNumber o else Nat.ofDigitChars 10 digits 0
        (tokens fuel rest).map (.redirect number o :: ·)
      | none =>
        match word (cs.length + 2) (c :: cs) with
        | none => none
        | some (w, rest) => (tokens fuel rest).map (.word w :: ·)

end Overseer.Execution.Shell
