import Overseer.Files.Path
import Overseer.Text.Numeral
import Overseer.Text.Percent
import Overseer.Text.Punycode

set_option autoImplicit false

namespace Overseer.Notify

open Text (Percent.digitValue? Numeral.text)
open Files (pieces)

inductive Server where
  | name (text : String)
  | four (number : Nat)
  | six (pieces : List Nat)
deriving DecidableEq, Repr

namespace Server

def numeral? (base : Nat) (cs : List Char) : Option Nat :=
  if cs.isEmpty then none
  else cs.foldl (fun n c =>
    match n, Percent.digitValue? c with
    | some n, some d => if d < base then some (n * base + d) else none
    | _, _ => none) (some 0)

-- A number in base 16 after `0x`, in base 8 after a zero, or in base 10.
def part? : List Char → Option Nat
  | ['0', 'x'] => some 0
  | ['0', 'X'] => some 0
  | '0' :: 'x' :: cs => numeral? 16 cs
  | '0' :: 'X' :: cs => numeral? 16 cs
  | '0' :: c :: cs => numeral? 8 (c :: cs)
  | cs => numeral? 10 cs

def parts (cs : List Char) : List (List Char) :=
  match (pieces '.' cs).reverse with
  | [] :: p :: ps => (p :: ps).reverse
  | ps => ps.reverse

def endsInNumber (cs : List Char) : Bool :=
  match (parts cs).getLast? with
  | none => false
  | some last => (!last.isEmpty && last.all Char.isDigit) || (part? last).isSome

-- The last number fills the bytes that the others leave.
def fromParts : List Nat → Nat → Nat → Option Nat
  | [], _, _ => none
  | [n], used, place => if n < Nat.pow 256 place then some (used + n) else none
  | n :: ns, used, place =>
    if n < 256 && 1 < place then fromParts ns (used + n * Nat.pow 256 (place - 1)) (place - 1) else none

def four? (cs : List Char) : Option Nat :=
  match (parts cs).mapM part? with
  | none => none
  | some ns => fromParts ns 0 4

def piece? (cs : List Char) : Option Nat :=
  if 4 < cs.length then none else numeral? 16 cs

def byte? (cs : List Char) : Option Nat :=
  match cs with
  | '0' :: _ :: _ => none
  | cs => (numeral? 10 cs).filter (· < 256)

def run? (cs : List Char) : Option (List Nat) :=
  if cs.isEmpty then some []
  else
    let ps := pieces ':' cs
    match ps.getLast? with
    | none => none
    | some last =>
      if last.contains '.' then
        match ps.dropLast.mapM piece?, (pieces '.' last).mapM byte? with
        | some front, some [a, b, c, d] => some (front ++ [a * 256 + b, c * 256 + d])
        | _, _ => none
      else ps.mapM piece?

def gap? : List Char → Option (List Char × List Char)
  | [] => none
  | ':' :: ':' :: cs => some ([], cs)
  | c :: cs => (gap? cs).map fun (before, after) => (c :: before, after)

def six? (cs : List Char) : Option (List Nat) :=
  match gap? cs with
  | none => (run? cs).filter (·.length = 8)
  | some (before, after) =>
    match run? before, run? after with
    | some front, some back =>
      let missing := 8 - (front.length + back.length)
      if missing = 0 || before.contains '.' then none
      else some (front ++ List.replicate missing 0 ++ back)
    | _, _ => none

def zeros (ns : List Nat) : Nat := (ns.takeWhile (· = 0)).length

def longestZeros : List Nat → Nat
  | [] => 0
  | n :: ns => max (zeros (n :: ns)) (longestZeros ns)

def hexes (ns : List Nat) : List Char :=
  List.intercalate [':'] (ns.map fun n => Nat.toDigits 16 n)

-- The first of the longest runs of zeros, if it has two or more, is left out.
def shortened (longest : Nat) : List Nat → List Nat → List Char
  | before, [] => hexes before
  | before, n :: ns =>
    if 1 < longest && zeros (n :: ns) = longest then
      hexes before ++ [':', ':'] ++ hexes ((n :: ns).drop longest)
    else shortened longest (before ++ [n]) ns

def bytes (n : Nat) : List Nat := [n / 16777216, n / 65536 % 256, n / 256 % 256, n % 256]

def text : Server → String
  | name s => s
  | four n => String.intercalate "." ((bytes n).map Numeral.text)
  | six ps => "[" ++ String.ofList (shortened (longestZeros ps) [] ps) ++ "]"

def forbidden : List Char :=
  ['\x00', '\t', '\n', '\r', ' ', '#', '/', ':', '<', '>', '?', '@', '[', '\\', ']', '^', '|']

def label (cs : List Char) : List Char :=
  let lower := cs.map Char.toLower
  if lower.all fun c => c.toNat < 128 then lower
  else ['x', 'n', '-', '-'] ++ Text.Punycode.encode lower

def bracketed? (cs : List Char) : Option Server :=
  match cs.getLast? with
  | some ']' => (six? cs.dropLast).map .six
  | _ => none

def ofChars? (cs : List Char) : Option Server :=
  match cs with
  | '[' :: rest => bracketed? rest
  | _ =>
    match String.fromUTF8? ⟨(Text.Percent.decode cs).toArray⟩ with
    | none => none
    | some decoded =>
      let name := List.intercalate ['.'] ((pieces '.' decoded.toList).map label)
      if name.isEmpty || name.any fun c =>
          forbidden.contains c || c.toNat < 0x20 || c = '%' || c = '\x7f' then none
      else if endsInNumber name then (four? name).map .four
      else some (.name (String.ofList name))

def ofForeign? (cs : List Char) : Option Server :=
  match cs with
  | '[' :: rest => bracketed? rest
  | _ =>
    if cs.any forbidden.contains then none
    else some (.name (String.ofList (Text.Percent.encode (fun _ => false) cs)))

end Server

end Overseer.Notify
