import Overseer.Execution.Shell.Token

set_option autoImplicit false

namespace Overseer.Execution.Shell

def operatorLevels : List (List (List Char)) :=
  [[['|', '|']], [['&', '&']], [['=', '='], ['!', '=']], [['<', '='], ['>', '='], ['<'], ['>']],
   [['+'], ['-']], [['*'], ['/'], ['%']]]

def truth (p : Bool) : Int := if p then 1 else 0

def operate (operator : List Char) (a b : Int) : Option Int :=
  match String.ofList operator with
  | "||" => some (truth (a ≠ 0 || b ≠ 0))
  | "&&" => some (truth (a ≠ 0 && b ≠ 0))
  | "==" => some (truth (a = b))
  | "!=" => some (truth (a ≠ b))
  | "<=" => some (truth (a ≤ b))
  | ">=" => some (truth (a ≥ b))
  | "<" => some (truth (a < b))
  | ">" => some (truth (a > b))
  | "+" => some (a + b)
  | "-" => some (a - b)
  | "*" => some (a * b)
  | "/" => if b = 0 then none else some (a.tdiv b)
  | "%" => if b = 0 then none else some (a.tmod b)
  | _ => none

def skipSpace (cs : List Char) : List Char := cs.dropWhile fun c => isBlank c || c = '\n'

def afterPrefix? : List Char → List Char → Option (List Char)
  | [], cs => some cs
  | p :: ps, c :: cs => if p = c then afterPrefix? ps cs else none
  | _ :: _, [] => none

def anyOf (operators : List (List Char)) (cs : List Char) : Option (List Char × List Char) :=
  operators.findSome? fun o => (afterPrefix? o cs).map (o, ·)

mutual

def sum (value : List Char → Int) : Nat → List (List (List Char)) → List Char →
    Option (Int × List Char)
  | 0, _, _ => none
  | fuel + 1, [], cs => operand value fuel cs
  | fuel + 1, level :: levels, cs =>
    match sum value fuel levels cs with
    | none => none
    | some (a, rest) => sumTo value fuel level levels a rest

def sumTo (value : List Char → Int) : Nat → List (List Char) → List (List (List Char)) → Int →
    List Char → Option (Int × List Char)
  | 0, _, _, _, _ => none
  | fuel + 1, level, levels, a, cs =>
    match anyOf level (skipSpace cs) with
    | none => some (a, cs)
    | some (o, rest) =>
      match sum value fuel levels rest with
      | none => none
      | some (b, rest) =>
        match operate o a b with
        | none => none
        | some n => sumTo value fuel level levels n rest

def operand (value : List Char → Int) : Nat → List Char → Option (Int × List Char)
  | 0, _ => none
  | fuel + 1, cs =>
    match skipSpace cs with
    | '(' :: rest =>
      match sum value fuel operatorLevels rest with
      | some (n, rest) =>
        match skipSpace rest with
        | ')' :: rest => some (n, rest)
        | _ => none
      | none => none
    | '-' :: rest => (operand value fuel rest).map fun (n, rest) => (-n, rest)
    | '+' :: rest => operand value fuel rest
    | '!' :: rest => (operand value fuel rest).map fun (n, rest) => (truth (n = 0), rest)
    | c :: rest =>
      if c.isDigit then
        some ((Nat.ofDigitChars 10 ((c :: rest).takeWhile Char.isDigit) 0 : Nat),
          (c :: rest).dropWhile Char.isDigit)
      else if startsName c then
        some (value ((c :: rest).takeWhile inName), (c :: rest).dropWhile inName)
      else none
    | [] => none

end

def calculate (value : List Char → Int) (cs : List Char) : Option Int :=
  if (skipSpace cs).isEmpty then some 0
  else match sum value (20 * cs.length + 20) operatorLevels cs with
  | some (n, rest) => if (skipSpace rest).isEmpty then some n else none
  | none => none

end Overseer.Execution.Shell
