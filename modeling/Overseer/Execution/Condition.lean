import Overseer.Files.Tree
import Overseer.Execution.Printing

set_option autoImplicit false

namespace Overseer.Execution

structure View where
  tree : Files.Tree
  work : Files.Location

namespace View

def node? (v : View) (follow : Bool) (path : String) : Option Files.Node :=
  match v.tree.find v.work follow path with
  | .ok (.taken _ node) => some node
  | _ => none

def unary? (v : View) (operator word : String) : Option Bool :=
  let node := v.node? true word
  match operator with
  | "-z" => some (word = "")
  | "-n" => some (word ≠ "")
  | "-e" => some node.isSome
  | "-r" => some node.isSome
  | "-w" => some node.isSome
  | "-f" => some (match node with
    | some (.file _ _) => true
    | some (.tool _) => true
    | _ => false)
  | "-d" => some (node.any Files.Node.isDirectory)
  | "-s" => some (match node with
    | some (.file content _) => !content.isEmpty
    | some _ => true
    | none => false)
  | "-x" => some (match node with
    | some .directory => true
    | some (.file _ mode) => mode &&& 0o111 ≠ 0
    | some (.tool _) => true
    | _ => false)
  | "-c" => some (node.any Files.Node.isDevice)
  | "-L" => some (match v.node? false word with
    | some (.link _) => true
    | _ => false)
  | "-h" => v.unary? "-L" word
  | "-t" => some false
  | _ => none
termination_by if operator = "-h" then 1 else 0
decreasing_by simp

def binary? (a operator b : String) : Option Bool :=
  let numbers (f : Int → Int → Bool) : Option Bool :=
    match integer? a, integer? b with
    | some x, some y => some (f x y)
    | _, _ => none
  match operator with
  | "=" => some (a = b)
  | "==" => some (a = b)
  | "!=" => some (a ≠ b)
  | "<" => some (a < b)
  | ">" => some (b < a)
  | "-eq" => numbers (· = ·)
  | "-ne" => numbers (· ≠ ·)
  | "-lt" => numbers (· < ·)
  | "-le" => numbers (· ≤ ·)
  | "-gt" => numbers (· > ·)
  | "-ge" => numbers (· ≥ ·)
  | _ => none

def cut? (word : String) : List String → Option (List String × List String)
  | [] => none
  | w :: ws =>
    if w = word then some ([], ws) else (cut? word ws).map fun (a, b) => (w :: a, b)

def holds? (v : View) : Nat → List String → Option Bool
  | _, [] => some false
  | _, [w] => some (w ≠ "")
  | 0, _ => none
  | fuel + 1, ws =>
    match ws with
    | ["!", w] => some (w = "")
    | [operator, w] => v.unary? operator w
    | [a, operator, b] =>
      match binary? a operator b with
      | some truth => some truth
      | none => compound fuel ws
    | ws => compound fuel ws
where
  compound (fuel : Nat) (ws : List String) : Option Bool :=
    match ws with
    | "!" :: rest => (holds? v fuel rest).map (!·)
    | ws =>
      match cut? "-o" ws with
      | some (a, b) =>
        match holds? v fuel a, holds? v fuel b with
        | some x, some y => some (x || y)
        | _, _ => none
      | none =>
        match cut? "-a" ws with
        | some (a, b) =>
          match holds? v fuel a, holds? v fuel b with
          | some x, some y => some (x && y)
          | _, _ => none
        | none =>
          match ws with
          | "(" :: rest => if rest.getLast? = some ")" then holds? v fuel rest.dropLast else none
          | _ => none

-- 0 for a true condition, 1 for a false one, and 2 for one that is not well formed.
def testCode (v : View) (ws : List String) : Nat :=
  match v.holds? (2 * ws.length + 2) ws with
  | some true => 0
  | some false => 1
  | none => 2

end View

end Overseer.Execution
