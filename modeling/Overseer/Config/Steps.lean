import Overseer.Workload.Step
import Overseer.Yaml.Buffer

set_option autoImplicit false

namespace Overseer.Config

open Yaml
open Workload (Step)

namespace Steps

inductive Kind where
  | command
  | sleep
  | echo
deriving DecidableEq, Repr

def Kind.label : Kind → String
  | command => "command"
  | sleep => "sleep"
  | echo => "echo"

def kinds : List (String × Kind) := [Kind.command, .sleep, .echo].map fun k => (k.label, k)

def Kind.fields : Kind → List String
  | command => ["program", "args"]
  | sleep => ["secs"]
  | echo => ["message"]

def elements (n : Nat) : String :=
  Text.Numeral.text n ++ (if n = 1 then " element" else " elements")

def Kind.description (k : Kind) : String :=
  let name := match k with
    | command => "Command"
    | sleep => "Sleep"
    | echo => "Echo"
  "struct variant Step::" ++ name ++ " with " ++ elements k.fields.length

abbrev Judged (α : Type) := Except Problem α

def textOf : Buffered → Judged String
  | .text s => .ok s
  | b => .error (.wrongType b.found "a string")

def word64Of : Buffered → Judged UInt64
  | .natural n => .ok (.ofNat n)
  | .negative n => if n = 0 then .ok 0 else .error (.wrongValue (.integer (-n)) "u64")
  | b => .error (.wrongType b.found "u64")

def textsOf : Buffered → Judged (List String)
  | .sequence bs => bs.mapM textOf
  | b => .error (.wrongType b.found "a sequence")

structure Fields where
  program : Option String
  arguments : Option (List String)
  seconds : Option UInt64
  message : Option String

def Fields.empty : Fields := ⟨none, none, none, none⟩

def Fields.has (f : Fields) (name : String) : Bool :=
  if name = "program" then f.program.isSome
  else if name = "args" then f.arguments.isSome
  else if name = "secs" then f.seconds.isSome
  else if name = "message" then f.message.isSome
  else false

def Fields.set (f : Fields) (name : String) (b : Buffered) : Judged Fields :=
  if name = "program" then (textOf b).map fun s => { f with program := some s }
  else if name = "args" then (textsOf b).map fun l => { f with arguments := some l }
  else if name = "secs" then (word64Of b).map fun n => { f with seconds := some n }
  else (textOf b).map fun s => { f with message := some s }

-- A command's arguments may be left out, and no other field.
def Fields.step (f : Fields) (absent : String → Problem) : Kind → Judged Step
  | .command =>
    match f.program with
    | some program => .ok (.command program (f.arguments.getD []))
    | none => .error (absent "program")
  | .sleep =>
    match f.seconds with
    | some seconds => .ok (.sleep seconds)
    | none => .error (absent "secs")
  | .echo =>
    match f.message with
    | some message => .ok (.echo message)
    | none => .error (absent "message")

def fieldName (k : Kind) : Buffered → Judged (Option String)
  | .text s => .ok (if k.fields.contains s then some s else none)
  | .natural n => .ok k.fields[n]?
  | b => .error (.wrongType b.found "field identifier")

def ofEntries (k : Kind) : Fields → List (Buffered × Buffered) → Judged Step
  | f, [] => f.step .missing k
  | f, (key, v) :: rest => do
    match ← fieldName k key with
    | none => ofEntries k f rest
    | some name =>
      if f.has name then throw (.repeated name)
      else ofEntries k (← f.set name v) rest

def ofItems (k : Kind) (items : List Buffered) : Judged Step := do
  let f ← (k.fields.zip items).foldlM (fun f (name, b) => f.set name b) Fields.empty
  let step ← f.step (fun _ => .wrongLength 0 k.description) k
  let n := k.fields.length
  if n < items.length then throw (.wrongLength items.length (elements n ++ " in sequence"))
  return step

def expected : String := "internally tagged enum Step"

def kindOf (d : Document) (route : Route) (n : Node) : Buffered.Buffer Kind := do
  let n ← Buffered.followCounted d n
  match Decode.text "variant identifier" d route n with
  | .error m => Buffered.fail m
  | .ok name =>
    match kinds.lookup name with
    | some k => return k
    | none => Buffered.refuse route (.unknownVariant name (kinds.map Prod.fst))

def judge {α : Type} (route : Route) : Judged α → Buffered.Buffer α
  | .ok a => return a
  | .error p => Buffered.refuse route p

def splitEntries (d : Document) (depth : Nat) (route : Route) :
    Option Kind → List (Node × Node) →
      Buffered.Buffer (Option Kind × List (Buffered × Buffered))
  | kind, [] => return (kind, [])
  | kind, (k, v) :: rest => do
    match ← Buffered.ofNode d "a type tag `kind` or any other value" depth route k with
    | .text "kind" =>
      if kind.isSome then Buffered.refuse route (.repeated "kind")
      else splitEntries d depth route (some (← kindOf d (Decode.valueRoute route k) v)) rest
    | key =>
      let value ← Buffered.ofNode d Buffered.anyValue depth (Decode.valueRoute route k) v
      let (kind, others) ← splitEntries d depth route kind rest
      return (kind, (key, value) :: others)

def ofNode (d : Document) (depth : Nat) (list route : Route) (n : Node) : Buffered.Buffer Step := do
  let n ← Buffered.followCounted d n
  match n with
  | .alias _ => Buffered.refuse route (.wrongType .nothing expected)
  | .scalar s =>
    if (Tag.own? s.tag).isSome then Buffered.refuse route (.wrongType .choice expected)
    else match Decode.unexpected route n expected with
    | .ok step => return step
    | .error m => Buffered.fail m
  | .sequence tag ns =>
    if (Tag.own? tag).isSome then Buffered.refuse route (.wrongType .choice expected)
    else match depth, ns with
    | 0, _ => Buffered.fail .tooDeep
    | _, [] => Buffered.refuse route (.missing "kind")
    | depth + 1, first :: rest =>
      let kind ← kindOf d (.item route 0) first
      let items ← rest.zipIdx.mapM fun (n, i) =>
        Buffered.ofNode d Buffered.anyValue depth (.item route (i + 1)) n
      judge list (ofItems kind items)
  | .mapping tag es =>
    if (Tag.own? tag).isSome then Buffered.refuse route (.wrongType .choice expected)
    else match depth with
    | 0 => Buffered.fail .tooDeep
    | depth + 1 =>
      let (kind, others) ← splitEntries d depth route none es
      match kind with
      | none => Buffered.refuse route (.missing "kind")
      | some kind => judge list (ofEntries kind .empty others)

def decode (above : Nat) : Decoder (List Step) := fun d route n => do
  let ns ← Decode.items d route n
  let steps := ns.zipIdx.mapM fun (n, i) => ofNode d (128 - above) route (.item route i) n
  let (steps, _) ← steps.run 0
  return steps

def mapping (entries : List (String × Node)) : Node :=
  .mapping none (entries.map fun (k, v) => (.string k, v))

def encodeStep : Step → Node
  | .command program arguments =>
    mapping ([("kind", .string Kind.command.label), ("program", .string program)] ++
      if arguments = [] then [] else [("args", .sequence none (arguments.map .string))])
  | .sleep seconds =>
    mapping [("kind", .string Kind.sleep.label), ("secs", .plain (Text.Numeral.word64 seconds))]
  | .echo message =>
    mapping [("kind", .string Kind.echo.label), ("message", .string message)]

def encode (steps : List Step) : Node := .sequence none (steps.map encodeStep)

end Steps

end Overseer.Config
