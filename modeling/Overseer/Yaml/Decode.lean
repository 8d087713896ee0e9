import Overseer.Yaml.Mismatch

set_option autoImplicit false

namespace Overseer.Yaml

abbrev Decoder (α : Type) := Document → Route → Node → Except Mismatch α

namespace Decode

def wrong {α : Type} (route : Route) (found : Found) (expected : String) : Except Mismatch α :=
  .error (.at route (.wrongType found expected))

def unexpected {α : Type} (route : Route) (n : Node) (expected : String) : Except Mismatch α :=
  match n with
  | .scalar s =>
    match s.resolve with
    | .ok r => wrong route (.ofResolved r) expected
    | .error asked => .error (.at route (.wrongValue (.text s.text) asked))
  | .sequence _ _ => wrong route .sequence expected
  | .mapping _ _ => wrong route .mapping expected
  | .alias _ => wrong route .nothing expected

-- Only a plain scalar, or a literal one with the tag of its kind, can be other than a text.
def isTyped (kind : String) (s : Scalar) : Bool :=
  s.style = .plain || (s.style = .literal && s.tag = some kind)

def boolean : Decoder Bool := fun d route n =>
  match d.follow n with
  | .scalar s =>
    match isTyped Tag.boolean s, Spelling.boolean? s.text with
    | true, some b => .ok b
    | _, _ => unexpected route (.scalar s) "a boolean"
  | n => unexpected route n "a boolean"

def natural (expected : String) : Decoder Nat := fun d route n =>
  match d.follow n with
  | .scalar s =>
    match isTyped Tag.integer s, Spelling.unsigned? UInt64.size s.text.toList with
    | true, some v => .ok v
    | _, _ => unexpected route (.scalar s) expected
  | n => unexpected route n expected

def word64 : Decoder UInt64 := fun d route n => (natural "u64" d route n).map UInt64.ofNat

def word32 : Decoder UInt32 := fun d route n => do
  let v ← natural "u32" d route n
  if v < UInt32.size then return .ofNat v
  else throw (.at route (.wrongValue (.integer v) "u32"))

def text (expected : String) : Decoder String := fun d route n =>
  match d.follow n with
  | .scalar s => .ok s.text
  | n => unexpected route n expected

def string : Decoder String := text "a string"

def path : Decoder String := text "path string"

def isAbsent (s : Scalar) : Except String Bool :=
  if s.style ≠ .plain then .ok false
  else match s.tag with
  | none => .ok (s.text = "" || Spelling.isNothing s.text)
  | some tag =>
    if tag ≠ Tag.nothing then .ok false
    else if Spelling.isNothing s.text then .ok true
    else .error "null"

def optional {α : Type} (decoder : Decoder α) (parent : Route) : Decoder (Option α) :=
  fun d route n =>
    match d.follow n with
    | .scalar s =>
      match isAbsent s with
      | .ok true => .ok none
      | .ok false => (decoder d route n).map some
      | .error asked => .error (.at parent (.wrongValue (.text s.text) asked))
    | _ => (decoder d route n).map some

def isEmptyPlain (s : Scalar) : Bool := s.text = "" && s.style = .plain

def items : Decoder (List Node) := fun d route n =>
  match d.follow n with
  | .sequence _ ns => .ok ns
  | .scalar s => if isEmptyPlain s then .ok [] else unexpected route (.scalar s) "a sequence"
  | n => unexpected route n "a sequence"

-- A field of a record of type `σ`: its key and the change that its value makes. The first route is that
-- of the record.
structure Member (σ : Type) where
  key : String
  change : Route → Decoder (σ → σ)

def keyText (d : Document) (route : Route) (key : Node) : Except Mismatch String :=
  text "field identifier" d route key

def valueRoute (route : Route) : Node → Route
  | .scalar s => .entry route s.text
  | _ => .unnamed route

-- Changes a record by its entries in order. Unknown keys are passed over, and a known one can stand
-- only once.
def entries {σ : Type} (fields : List (Member σ)) (d : Document) (route : Route) :
    List String → σ → List (Node × Node) → Except Mismatch σ
  | _, record, [] => .ok record
  | seen, record, (k, v) :: rest => do
    let key ← keyText d route k
    match fields.find? fun f => f.key = key with
    | none => entries fields d route seen record rest
    | some field =>
      if seen.contains key then throw (.at route (.repeated key))
      else
        let change ← field.change route d (valueRoute route k) v
        entries fields d route (key :: seen) (change record) rest

-- A record is a mapping, or an empty scalar, and has its default in every field that is left out.
def record {σ : Type} (name : String) (fields : List (Member σ)) (default_ : σ) : Decoder σ :=
  fun d route n =>
    match d.follow n with
    | .mapping _ es => entries fields d route [] default_ es
    | .scalar s =>
      if isEmptyPlain s then .ok default_ else unexpected route (.scalar s) ("struct " ++ name)
    | n => unexpected route n ("struct " ++ name)

def field {σ α : Type} (key : String) (decoder : Decoder α) (put : α → σ → σ) : Member σ :=
  ⟨key, fun _ d route n => (decoder d route n).map put⟩

def optionalField {σ α : Type} (key : String) (decoder : Decoder α) (put : Option α → σ → σ) :
    Member σ :=
  ⟨key, fun parent d route n => (optional decoder parent d route n).map put⟩

-- One of several names: a scalar that spells it, or a tag made of it before a value of nothing. What
-- the tag says is judged where the record is.
def choice {α : Type} (variants : List (String × α)) (parent : Route) : Decoder α :=
  fun d route n =>
    let named (route : Route) (name : String) : Except Mismatch α :=
      match variants.lookup name with
      | some a => .ok a
      | none => .error (.at route (.unknownVariant name (variants.map Prod.fst)))
    let tagged (tag : Option String) (empty : Except Mismatch Unit) (otherwise : Except Mismatch α) :
        Except Mismatch α :=
      match Tag.own? tag with
      | none => otherwise
      | some name => do
        let a ← named (match n with | .alias _ => route | _ => parent) name
        empty
        return a
    let marked := "a YAML tag starting with '!'"
    match d.follow n with
    | .scalar s =>
      let empty : Except Mismatch Unit :=
        if isEmptyPlain s || (s.style = .plain && Spelling.isNothing s.text) then .ok ()
        else .error (.at route (.wrongValue (.text s.text) "null"))
      tagged s.tag empty (named route s.text)
    | .sequence tag _ => tagged tag (wrong route .sequence "unit") (wrong route .sequence marked)
    | .mapping tag _ => tagged tag (wrong route .mapping "unit") (wrong route .mapping marked)
    | .alias _ => wrong route .nothing marked

def choiceField {σ α : Type} (key : String) (variants : List (String × α)) (put : α → σ → σ) :
    Member σ :=
  ⟨key, fun parent d route n => (choice variants parent d route n).map put⟩

end Decode

end Overseer.Yaml
