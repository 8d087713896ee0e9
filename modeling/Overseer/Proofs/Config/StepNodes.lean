import Overseer.Proofs.Config.Edits
import Overseer.Proofs.Yaml.Spelling
import Mathlib.Data.List.Permutation
import Mathlib.Tactic.Choose

set_option autoImplicit false

namespace Overseer

namespace Yaml.Buffered

instance : Inhabited Buffered := ⟨.nothing⟩

def Keeps (d : Document) (depth : Nat) (n : Node) (b : Buffered) : Prop :=
  ∀ expected route, ofNode d expected depth route n = pure b

-- Nodes that can be kept: no tag of one's own, integers of 64 bits, and so many collections inside
-- one another.
inductive Storable : Nat → Node → Prop where
  | scalar (depth : Nat) (s : Scalar) (r : Resolved) (untagged : Tag.own? s.tag = none) (resolves : s.resolve = .ok r)
      (narrow : ∀ n, r ≠ .wide n) : Storable depth (.scalar s)
  | sequence (depth : Nat) (tag : Option String) (items : List Node) (untagged : Tag.own? tag = none)
      (inside : ∀ n ∈ items, Storable depth n) : Storable (depth + 1) (.sequence tag items)
  | mapping (depth : Nat) (tag : Option String) (entries : List (Node × Node)) (untagged : Tag.own? tag = none)
      (keys : ∀ e ∈ entries, Storable depth e.1) (values : ∀ e ∈ entries, Storable depth e.2) :
      Storable (depth + 1) (.mapping tag entries)

theorem pure_inj {α : Type} {a b : α} (same : (pure a : Buffer α) = pure b) : a = b :=
  congrArg Prod.fst (Except.ok.inj (congrFun same 0))

theorem map_each {α β : Type} (f : α → Buffer β) (g : α → β) (l : List α) (each : ∀ a ∈ l, f a = pure (g a)) :
    l.mapM f = pure (l.map g) := by
  induction l with
  | nil => rfl
  | cons a rest ih =>
      obtain ⟨first, others⟩ := List.forall_mem_cons.mp each
      rw [List.mapM_cons, first, ih others]
      rfl

theorem keeps_inj {d : Document} {depth : Nat} {n : Node} {a b : Buffered} (first : Keeps d depth n a)
    (second : Keeps d depth n b) : a = b :=
  pure_inj ((first "" .root).symm.trans (second "" .root))

theorem follow_scalar (d : Document) (s : Scalar) : followCounted d (.scalar s) = pure (.scalar s) := rfl

theorem follow_sequence (d : Document) (tag : Option String) (items : List Node) :
    followCounted d (.sequence tag items) = pure (.sequence tag items) := rfl

theorem follow_mapping (d : Document) (tag : Option String) (entries : List (Node × Node)) :
    followCounted d (.mapping tag entries) = pure (.mapping tag entries) := rfl

theorem keeps_scalar (d : Document) (depth : Nat) (s : Scalar) (b : Buffered)
    (own : ∀ route expected, ofScalar route expected s = pure b) : Keeps d depth (.scalar s) b := by
  intro expected route
  rw [ofNode, follow_scalar, pure_bind]
  exact own route expected

theorem keeps_sequence (d : Document) (depth : Nat) (tag : Option String) (items : List Node) (value : Node → Buffered)
    (untagged : Tag.own? tag = none) (inside : ∀ n ∈ items, Keeps d depth n (value n)) :
    Keeps d (depth + 1) (.sequence tag items) (.sequence (items.map value)) := by
  intro expected route
  rw [ofNode, follow_sequence, pure_bind]
  simp only [untagged]
  have each : (items.zipIdx.mapM fun e => ofNode d "any value" depth (.item route e.2) e.1) =
      pure (items.zipIdx.map fun e => value e.1) :=
    map_each _ _ _ fun e member => inside e.1 (List.fst_mem_of_mem_zipIdx member) _ _
  have same : (items.zipIdx.map fun e => value e.1) = items.map value := by
    conv => rhs; rw [← List.zipIdx_map_fst 0 items, List.map_map]
    rfl
  rw [same] at each
  change (sequence <$> items.zipIdx.mapM fun e => ofNode d "any value" depth (.item route e.2) e.1) = _
  rw [each]
  rfl

theorem keeps_mapping (d : Document) (depth : Nat) (tag : Option String) (entries : List (Node × Node))
    (value : Node → Buffered) (untagged : Tag.own? tag = none)
    (keys : ∀ e ∈ entries, Keeps d depth e.1 (value e.1)) (values : ∀ e ∈ entries, Keeps d depth e.2 (value e.2)) :
    Keeps d (depth + 1) (.mapping tag entries) (.mapping (entries.map fun e => (value e.1, value e.2))) := by
  intro expected route
  rw [ofNode, follow_mapping, pure_bind]
  simp only [untagged]
  have each : (entries.mapM fun e => do
      let key ← ofNode d "any value" depth route e.1
      let value ← ofNode d "any value" depth (Decode.valueRoute route e.1) e.2
      return (key, value)) = pure (entries.map fun e => (value e.1, value e.2)) := by
    apply map_each
    intro e member
    rw [keys e member, values e member]
    rfl
  exact congrArg (mapping <$> ·) each

theorem storable_keeps (d : Document) (depth : Nat) (n : Node) (storable : Storable depth n) :
    ∃ b, Keeps d depth n b := by
  induction storable with
  | scalar depth s r untagged resolves narrow =>
      cases r with
      | wide n => exact absurd rfl (narrow n)
      | _ => exact ⟨_, keeps_scalar d depth s _ fun route expected => by rw [ofScalar, untagged, resolves]; rfl⟩
  | sequence depth tag items untagged inside ih =>
      choose! value kept using ih
      exact ⟨_, keeps_sequence d depth tag items value untagged kept⟩
  | mapping depth tag entries untagged keys values firsts seconds =>
      have all : ∀ n, (∃ e ∈ entries, n = e.1 ∨ n = e.2) → ∃ b, Keeps d depth n b := by
        rintro n ⟨e, member, rfl | rfl⟩
        · exact firsts e member
        · exact seconds e member
      choose! value kept using all
      exact ⟨_, keeps_mapping d depth tag entries value untagged
        (fun e member => kept e.1 ⟨e, member, .inl rfl⟩) (fun e member => kept e.2 ⟨e, member, .inr rfl⟩)⟩

theorem keeps_string (d : Document) (depth : Nat) (text : String) : Keeps d depth (.string text) (.text text) :=
  keeps_scalar d depth _ _ fun _ _ => rfl

theorem keeps_word64 (d : Document) (depth : Nat) (n : UInt64) :
    Keeps d depth (.plain (Text.Numeral.word64 n)) (.natural n.toNat) := by
  apply keeps_scalar
  intro route expected
  have resolved : (⟨Text.Numeral.word64 n, .plain, none⟩ : Scalar).resolve = .ok (.natural n.toNat) :=
    congrArg Except.ok (resolved_text n.toNat n.toNat_lt)
  rw [ofScalar, resolved]
  rfl

def ofString : Node → Buffered
  | .scalar s => .text s.text
  | _ => .nothing

theorem keeps_strings (d : Document) (depth : Nat) (texts : List String) :
    Keeps d (depth + 1) (.sequence none (texts.map .string)) (.sequence (texts.map .text)) := by
  have each : ∀ n ∈ texts.map Node.string, Keeps d depth n (ofString n) :=
    List.forall_mem_map.mpr fun text _ => keeps_string d depth text
  have kept := keeps_sequence d depth none _ ofString rfl each
  rw [List.map_map] at kept
  exact kept

end Yaml.Buffered

namespace Config.Steps

open Yaml
open Workload (Step)
open Yaml.Buffered (Keeps Storable)

def fieldEntries : Step → List (String × Node)
  | .command program arguments => ("program", .string program) ::
      if arguments = [] then [] else [("args", .sequence none (arguments.map .string))]
  | .sleep seconds => [("secs", .plain (Text.Numeral.word64 seconds))]
  | .echo message => [("message", .string message)]

def kindOfStep : Step → Kind
  | .command _ _ => .command
  | .sleep _ => .sleep
  | .echo _ => .echo

def stepEntries (step : Step) : List (String × Node) :=
  ("kind", .string (kindOfStep step).label) :: fieldEntries step

def Kind.known (k : Kind) : List String := "kind" :: k.fields

theorem encode_step_entries (step : Step) : encodeStep step = mapping (stepEntries step) := by
  cases step <;> rfl

theorem kind_of_label (d : Document) (route : Route) (k : Kind) :
    kindOf d route (.string k.label) = pure k := by
  cases k <;> rfl

theorem split_entries (d : Document) (depth : Nat) (route : Route) (k : Kind) (value : String × Node → Buffered)
    (given : Option Kind) (es : List (String × Node)) (distinct : (es.map Prod.fst).Nodup)
    (fresh : given.isSome = true → "kind" ∉ es.map Prod.fst)
    (tagged : ∀ e ∈ es, e.1 = "kind" → e.2 = .string k.label)
    (kept : ∀ e ∈ es, e.1 ≠ "kind" → Keeps d depth e.2 (value e)) :
    splitEntries d depth route given (es.map fun e => (.string e.1, e.2)) =
      pure (if "kind" ∈ es.map Prod.fst then some k else given,
        (es.filter fun e => e.1 ≠ "kind").map fun e => (.text e.1, value e)) := by
  induction es generalizing given with
  | nil => rfl
  | cons e rest ih =>
      obtain ⟨key, v⟩ := e
      obtain ⟨new, others⟩ := List.nodup_cons.mp distinct
      obtain ⟨tag, tags⟩ := List.forall_mem_cons.mp tagged
      obtain ⟨keep, keeps⟩ := List.forall_mem_cons.mp kept
      rw [List.map_cons, splitEntries, Buffered.keeps_string, pure_bind]
      by_cases kind : key = "kind"
      · subst kind
        have unset : given = none := by
          cases given with
          | none => rfl
          | some own => exact absurd (List.mem_cons_self) (fresh rfl)
        subst unset
        obtain rfl : v = .string k.label := tag rfl
        have rest := ih (some k) others (fun _ => new) tags keeps
        change (kindOf d _ _ >>= fun kind => splitEntries d depth route (some kind) _) = _
        rw [kind_of_label, pure_bind, rest]
        simp [new]
      · have next := ih given others (fun set member => fresh set (List.mem_cons_of_mem _ member)) tags keeps
        have own : Keeps d depth v (value (key, v)) := keep kind
        split
        · next same => exact absurd (Buffered.text.inj same) kind
        · have membership : "kind" ∈ ((key, v) :: rest).map Prod.fst ↔ "kind" ∈ rest.map Prod.fst :=
            List.mem_cons.trans (or_iff_right (Ne.symm kind))
          have found : (if "kind" ∈ ((key, v) :: rest).map Prod.fst then some k else given) =
              if "kind" ∈ rest.map Prod.fst then some k else given := if_congr membership rfl rfl
          rw [own, pure_bind, next, pure_bind, List.filter_cons_of_pos (by simpa using kind), found]
          rfl

theorem known_entries (k : Kind) (f : Fields) (bs : List (String × Buffered)) :
    ofEntries k f (bs.map fun e => (.text e.1, e.2)) =
      ofEntries k f ((bs.filter fun e => k.fields.contains e.1).map fun e => (.text e.1, e.2)) := by
  induction bs generalizing f with
  | nil => rfl
  | cons e rest ih =>
      have name : fieldName k (.text e.1) = .ok (if k.fields.contains e.1 then some e.1 else none) := rfl
      by_cases own : k.fields.contains e.1 = true
      · rw [List.filter_cons_of_pos (by exact own), List.map_cons, List.map_cons, ofEntries, ofEntries, name, if_pos own]
        change (if f.has e.1 then _ else f.set e.1 e.2 >>= fun f => ofEntries k f _) =
          (if f.has e.1 then _ else f.set e.1 e.2 >>= fun f => ofEntries k f _)
        simp only [ih]
      · rw [List.filter_cons_of_neg (by exact own), List.map_cons, ofEntries, name, if_neg own]
        exact ih f

def fieldValues : Step → List (String × Buffered)
  | .command program arguments => ("program", .text program) ::
      if arguments = [] then [] else [("args", .sequence (arguments.map .text))]
  | .sleep seconds => [("secs", .natural seconds.toNat)]
  | .echo message => [("message", .text message)]

theorem texts_of_strings (texts : List String) : (texts.map Buffered.text).mapM textOf = .ok texts := by
  induction texts with
  | nil => rfl
  | cons text rest ih =>
      rw [List.map_cons, List.mapM_cons, ih]
      rfl

theorem step_of_fields (step : Step) (bs : List (String × Buffered)) (order : bs.Perm (fieldValues step)) :
    ofEntries (kindOfStep step) .empty (bs.map fun e => (.text e.1, e.2)) = .ok step := by
  cases step with
  | sleep seconds =>
      obtain rfl := List.perm_singleton.mp order
      change Except.ok (Step.sleep (.ofNat seconds.toNat)) = _
      rw [UInt64.ofNat_toNat]
  | echo message =>
      obtain rfl := List.perm_singleton.mp order
      rfl
  | command program arguments =>
      by_cases none : arguments = []
      · subst none
        obtain rfl := List.perm_singleton.mp order
        rfl
      · rw [fieldValues, if_neg none] at order
        have texts := texts_of_strings arguments
        rcases List.perm_pair.mp order with rfl | rfl
        · simp [ofEntries, fieldName, kindOfStep, Kind.fields, Fields.has, Fields.set, Fields.step, Fields.empty,
            textOf, textsOf, texts, bind, Except.bind, Except.map]
        · simp [ofEntries, fieldName, kindOfStep, Kind.fields, Fields.has, Fields.set, Fields.step, Fields.empty,
            textOf, textsOf, texts, bind, Except.bind, Except.map]

theorem field_kept (d : Document) (depth : Nat) (step : Step) :
    List.Forall₂ (fun e b => e.1 = b.1 ∧ Keeps d (depth + 1) e.2 b.2) (fieldEntries step) (fieldValues step) := by
  cases step with
  | sleep seconds => exact .cons ⟨rfl, Buffered.keeps_word64 d _ seconds⟩ .nil
  | echo message => exact .cons ⟨rfl, Buffered.keeps_string d _ message⟩ .nil
  | command program arguments =>
      refine .cons ⟨rfl, Buffered.keeps_string d _ program⟩ ?_
      split
      · exact .nil
      · exact .cons ⟨rfl, Buffered.keeps_strings d depth arguments⟩ .nil

theorem values_kept (d : Document) (depth : Nat) (value : String × Node → Buffered) (es : List (String × Node))
    (bs : List (String × Buffered)) (kept : List.Forall₂ (fun e b => e.1 = b.1 ∧ Keeps d depth e.2 b.2) es bs)
    (own : ∀ e ∈ es, Keeps d depth e.2 (value e)) : es.map (fun e => (e.1, value e)) = bs := by
  induction kept with
  | nil => rfl
  | cons first _ ih =>
      obtain ⟨now, later⟩ := List.forall_mem_cons.mp own
      rw [List.map_cons, ih later, first.1, Buffered.keeps_inj now first.2]

theorem value_kept (d : Document) (depth : Nat) (es : List (String × Node)) (bs : List (String × Buffered))
    (kept : List.Forall₂ (fun e b => e.1 = b.1 ∧ Keeps d depth e.2 b.2) es bs) :
    ∀ e ∈ es, ∃ b, Keeps d depth e.2 b := by
  induction kept with
  | nil => exact List.forall_mem_nil _
  | cons first _ ih => exact List.forall_mem_cons.mpr ⟨⟨_, first.2⟩, ih⟩

theorem field_known (step : Step) :
    ∀ e ∈ fieldEntries step, e.1 ≠ "kind" ∧ e.1 ∈ (kindOfStep step).fields := by
  cases step with
  | sleep seconds => simp [fieldEntries, kindOfStep, Kind.fields]
  | echo message => simp [fieldEntries, kindOfStep, Kind.fields]
  | command program arguments =>
      by_cases none : arguments = [] <;> simp [fieldEntries, none, kindOfStep, Kind.fields]

theorem field_distinct (step : Step) : ((stepEntries step).map Prod.fst).Nodup := by
  cases step with
  | sleep seconds => simp [stepEntries, fieldEntries]
  | echo message => simp [stepEntries, fieldEntries]
  | command program arguments =>
      rw [stepEntries, fieldEntries]
      split <;> simp

theorem field_entries (step : Step) (es extra : List (String × Node)) (order : es.Perm (stepEntries step ++ extra))
    (unknown : ∀ e ∈ extra, e.1 ∉ (kindOfStep step).known) :
    ((es.filter fun e => e.1 ≠ "kind").filter fun e => (kindOfStep step).fields.contains e.1).Perm
      (fieldEntries step) := by
  have shown := (order.filter fun e => e.1 ≠ "kind").filter fun e => (kindOfStep step).fields.contains e.1
  have fields := field_known step
  have own : (fieldEntries step).filter (fun e => e.1 ≠ "kind") = fieldEntries step :=
    List.filter_eq_self.mpr fun e member => by simpa using (fields e member).1
  have known : (fieldEntries step).filter (fun e => (kindOfStep step).fields.contains e.1) = fieldEntries step :=
    List.filter_eq_self.mpr fun e member => by simpa using (fields e member).2
  have others : (extra.filter fun e => e.1 ≠ "kind").filter (fun e => (kindOfStep step).fields.contains e.1) = [] := by
    rw [List.filter_eq_nil_iff]
    intro e member has
    exact unknown e (List.mem_filter.mp member).1 (List.mem_cons_of_mem _ (by simpa using has))
  rw [stepEntries, List.cons_append, List.filter_cons_of_neg (by simp), List.filter_append, own, List.filter_append,
    known, others, List.append_nil] at shown
  exact shown

theorem step_edited (d : Document) (depth : Nat) (list route : Route) (step : Step) (n : Node)
    (edited : Edited (kindOfStep step).known (Storable (depth + 1)) (stepEntries step) n) :
    ofNode d (depth + 2) list route n = pure step := by
  obtain ⟨es, extra, rfl, order, apart, unknown⟩ := edited
  have known : ∀ e ∈ stepEntries step, e.1 ∈ (kindOfStep step).known :=
    List.forall_mem_cons.mpr ⟨List.mem_cons_self, fun e member => List.mem_cons_of_mem _ (field_known step e member).2⟩
  have distinct := edited_distinct _ _ _ es extra (field_distinct step) known order apart unknown
  have kept := field_kept d depth step
  have apartKind : ∀ e ∈ extra, e.1 ∉ (kindOfStep step).known := fun e member => (unknown e member).1
  have storable : ∀ e ∈ es, e.1 ≠ "kind" → ∃ b, Keeps d (depth + 1) e.2 b := by
    intro e member other
    rcases List.mem_append.mp (order.mem_iff.mp member) with own | put
    · rcases List.mem_cons.mp own with rfl | field
      · exact absurd rfl other
      · exact value_kept d _ _ _ kept e field
    · exact Buffered.storable_keeps d _ e.2 (unknown e put).2
  choose! value keeps using storable
  have tagged : ∀ e ∈ es, e.1 = "kind" → e.2 = .string (kindOfStep step).label := by
    intro e member kind
    rcases List.mem_append.mp (order.mem_iff.mp member) with own | put
    · rcases List.mem_cons.mp own with rfl | field
      · rfl
      · exact absurd kind (field_known step e field).1
    · exact absurd (kind ▸ List.mem_cons_self) (apartKind e put)
  have present : "kind" ∈ es.map Prod.fst :=
    List.mem_map_of_mem (order.mem_iff.mpr (List.mem_append_left extra List.mem_cons_self))
  have split := split_entries d (depth + 1) route (kindOfStep step) value none es distinct (by simp) tagged keeps
  rw [if_pos present] at split
  have fields := (field_entries step es extra order apartKind).map fun e => (e.1, value e)
  have own : ∀ e ∈ fieldEntries step, Keeps d (depth + 1) e.2 (value e) := by
    intro e field
    have member := order.mem_iff.mpr (List.mem_append_left extra (List.mem_cons_of_mem _ field))
    exact keeps e member (field_known step e field).1
  rw [values_kept d _ value _ _ kept own] at fields
  have passed := known_entries (kindOfStep step) .empty ((es.filter fun e => e.1 ≠ "kind").map fun e => (e.1, value e))
  rw [List.map_map, List.filter_map] at passed
  have read : ofEntries (kindOfStep step) .empty
      ((es.filter fun e => e.1 ≠ "kind").map fun e => (.text e.1, value e)) = .ok step :=
    passed.trans (step_of_fields step _ fields)
  rw [ofNode, mapping, Buffered.follow_mapping, pure_bind]
  change (splitEntries d (depth + 1) route none (es.map fun e => (.string e.1, e.2)) >>= _) = _
  rw [split, pure_bind]
  change judge list (ofEntries (kindOfStep step) .empty _) = _
  rw [read]
  rfl

theorem steps_edited (d : Document) (route : Route) (steps : List Step) (nodes : List Node)
    (edited : List.Forall₂ (fun step n => Edited (kindOfStep step).known (Storable 124) (stepEntries step) n) steps nodes) :
    decode 3 d route (.sequence none nodes) = .ok steps := by
  have each : (nodes.zipIdx.mapM fun e => ofNode d (128 - 3) route (.item route e.2) e.1) = pure steps := by
    generalize 0 = start
    induction edited generalizing start with
    | nil => rfl
    | cons first _ ih =>
        rw [List.zipIdx_cons, List.mapM_cons, ih]
        dsimp only
        rw [step_edited d 123 route _ _ _ first]
        rfl
  change (nodes.zipIdx.mapM fun e => ofNode d (128 - 3) route (.item route e.2) e.1).run 0 >>= _ = _
  rw [each]
  rfl

end Config.Steps

end Overseer
