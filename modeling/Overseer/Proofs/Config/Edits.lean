import Overseer.Config.Format
import Mathlib.Data.List.Nodup

set_option autoImplicit false

namespace Overseer.Config

open Yaml Decode

variable {σ : Type}

-- The keys that are put in are distinct, and their values fit where they stand.
def Edited (known : List String) (fits : Node → Prop) (kept : List (String × Node)) (n : Node) : Prop :=
  ∃ es extra, n = Steps.mapping es ∧ es.Perm (kept ++ extra) ∧ (extra.map Prod.fst).Nodup ∧
    ∀ e ∈ extra, e.1 ∉ known ∧ fits e.2

def effect (fields : List (Member σ)) (d : Document) (route : Route) (e : String × Node) :
    Except Mismatch (σ → σ) :=
  match fields.find? fun f => f.key = e.1 with
  | none => .ok id
  | some f => f.change route d (.entry route e.1) e.2

abbrev Copies (σ : Type) : Type := List (String × (σ → σ))

def Copies.copy (copies : Copies σ) (key : String) : σ → σ := (copies.lookup key).getD id

def Copies.Commute (copies : Copies σ) : Prop :=
  ∀ p ∈ copies, ∀ q ∈ copies, ∀ s, p.2 (q.2 s) = q.2 (p.2 s)

theorem copy_commutes (copies : Copies σ) (commute : copies.Commute) (j k : String) (s : σ) :
    copies.copy j (copies.copy k s) = copies.copy k (copies.copy j s) := by
  unfold Copies.copy
  cases first : copies.lookup j with
  | none => rfl
  | some change =>
      cases second : copies.lookup k with
      | none => rfl
      | some other =>
          obtain ⟨a, b, rfl, -⟩ := List.lookup_eq_some_iff.mp first
          obtain ⟨c, e, same, -⟩ := List.lookup_eq_some_iff.mp second
          refine commute (j, change) (by simp) (k, other) ?_ s
          rw [same]
          simp

theorem copy_unknown (copies : Copies σ) (key : String) (unknown : key ∉ copies.map Prod.fst) :
    copies.copy key = id := by
  have none : copies.lookup key = none := by
    rw [List.lookup_eq_none_iff]
    intro p member
    rw [bne_iff_ne]
    rintro rfl
    exact unknown (List.mem_map_of_mem member)
  rw [Copies.copy, none]
  rfl

theorem fold_idle (copies : Copies σ) (keys : List String) (s : σ) (idle : ∀ k ∈ keys, copies.copy k = id) :
    keys.foldl (fun s k => copies.copy k s) s = s := by
  induction keys with
  | nil => rfl
  | cons k rest ih =>
      obtain ⟨first, others⟩ := List.forall_mem_cons.mp idle
      rw [List.foldl_cons, first]
      exact ih others

theorem entries_effects (fields : List (Member σ)) (d : Document) (route : Route) (change : String → σ → σ)
    (seen : List String) (s : σ) (es : List (String × Node)) (distinct : (es.map Prod.fst).Nodup)
    (fresh : ∀ e ∈ es, e.1 ∉ seen) (effects : ∀ e ∈ es, effect fields d route e = .ok (change e.1)) :
    entries fields d route seen s (es.map fun (k, v) => (.string k, v)) =
      .ok ((es.map Prod.fst).foldl (fun s k => change k s) s) := by
  induction es generalizing seen s with
  | nil => rfl
  | cons e rest ih =>
      obtain ⟨key, v⟩ := e
      obtain ⟨new, others⟩ := List.nodup_cons.mp distinct
      obtain ⟨unseen, freshRest⟩ := List.forall_mem_cons.mp fresh
      obtain ⟨now, later⟩ := List.forall_mem_cons.mp effects
      have next (seen : List String) (fresh : ∀ e ∈ rest, e.1 ∉ seen) (s : σ) := ih seen s others fresh later
      rw [List.map_cons, entries]
      change (match fields.find? fun f => f.key = key with
        | none => entries fields d route seen s (rest.map fun (k, v) => (.string k, v))
        | some field => _) = _
      unfold effect at now
      dsimp only at now
      cases found : fields.find? fun f => f.key = key with
      | none =>
          rw [found] at now
          have same : change key = id := (Except.ok.inj now).symm
          rw [List.map_cons, List.foldl_cons, same]
          exact next seen freshRest s
      | some field =>
          rw [found] at now
          dsimp only at now ⊢
          have first : seen.contains key = false := by simpa using unseen
          have apart : ∀ e ∈ rest, e.1 ∉ key :: seen := by
            intro e member again
            rcases List.mem_cons.mp again with same | old
            · exact new (List.mem_map.mpr ⟨e, member, same⟩)
            · exact freshRest e member old
          rw [first]
          change (field.change route d (.entry route key) v >>= fun change =>
            entries fields d route (key :: seen) (change s) _) = _
          rw [now]
          exact next (key :: seen) apart (change key s)

theorem effect_unknown (fields : List (Member σ)) (d : Document) (route : Route) (e : String × Node)
    (unknown : e.1 ∉ fields.map Member.key) : effect fields d route e = .ok id := by
  have none : (fields.find? fun f => f.key = e.1) = none := by
    rw [List.find?_eq_none]
    intro f member
    simp only [decide_eq_true_eq]
    rintro same
    exact unknown (same ▸ List.mem_map_of_mem member)
  rw [effect, none]

theorem edited_distinct (known : List String) (fits : Node → Prop) (kept es extra : List (String × Node))
    (distinct : (kept.map Prod.fst).Nodup) (own : ∀ e ∈ kept, e.1 ∈ known) (order : es.Perm (kept ++ extra))
    (apart : (extra.map Prod.fst).Nodup) (unknown : ∀ e ∈ extra, e.1 ∉ known ∧ fits e.2) :
    (es.map Prod.fst).Nodup := by
  rw [(order.map Prod.fst).nodup_iff, List.map_append, List.nodup_append]
  refine ⟨distinct, apart, ?_⟩
  intro key inside other outside same
  obtain ⟨e, first, rfl⟩ := List.mem_map.mp inside
  obtain ⟨x, second, rfl⟩ := List.mem_map.mp outside
  exact (unknown x second).1 (same ▸ own e first)

theorem record_folded (name : String) (fields : List (Member σ)) (copies : Copies σ) (default_ : σ) (d : Document)
    (route : Route) (fits : Node → Prop) (kept : List (String × Node)) (n : Node)
    (edited : Edited (fields.map Member.key) fits kept n) (keys : copies.map Prod.fst = fields.map Member.key)
    (commute : copies.Commute) (distinct : (kept.map Prod.fst).Nodup)
    (own : ∀ e ∈ kept, e.1 ∈ fields.map Member.key)
    (effects : ∀ e ∈ kept, effect fields d route e = .ok (copies.copy e.1)) :
    record name fields default_ d route n =
      .ok ((kept.map Prod.fst).foldl (fun s k => copies.copy k s) default_) := by
  obtain ⟨es, extra, rfl, order, apart, unknown⟩ := edited
  have idle : ∀ e ∈ extra, copies.copy e.1 = id :=
    fun e member => copy_unknown copies e.1 (keys ▸ (unknown e member).1)
  have all : ∀ e ∈ es, effect fields d route e = .ok (copies.copy e.1) := by
    intro e member
    rcases List.mem_append.mp (order.mem_iff.mp member) with keeps | put
    · exact effects e keeps
    · rw [effect_unknown fields d route e (unknown e put).1, idle e put]
  have read := entries_effects fields d route copies.copy [] default_ es
    (edited_distinct _ fits kept es extra distinct own order apart unknown) (by simp) all
  change entries fields d route [] default_ (es.map fun (k, v) => (.string k, v)) = _
  rw [read, (order.map Prod.fst).foldl_eq' (fun j _ k _ s => copy_commutes copies commute k j s), List.map_append,
    List.foldl_append, fold_idle copies (extra.map Prod.fst) _ (List.forall_mem_map.mpr idle)]

def kept (left : String → Bool) (entries : List (String × Node)) : List (String × Node) :=
  entries.filter fun e => !left e.1

theorem fold_target (copies : Copies σ) (target default_ : σ) (keys : List String) (commute : copies.Commute)
    (single : (copies.map Prod.fst).Nodup) (distinct : keys.Nodup) (own : ∀ k ∈ keys, k ∈ copies.map Prod.fst)
    (whole : (copies.map Prod.fst).foldl (fun s k => copies.copy k s) default_ = target)
    (still : ∀ k ∈ copies.map Prod.fst, k ∉ keys → copies.copy k default_ = default_) :
    keys.foldl (fun s k => copies.copy k s) default_ = target := by
  have taken : ((copies.map Prod.fst).filter fun k => decide (k ∈ keys)).Perm keys := by
    rw [List.perm_ext_iff_of_nodup (single.filter _) distinct]
    intro k
    simpa using own k
  have parts := (List.filter_append_perm (fun k => !decide (k ∈ keys)) (copies.map Prod.fst)).symm
  simp only [Bool.not_not] at parts
  have order := parts.trans (taken.append_left _)
  have quiet : ((copies.map Prod.fst).filter fun k => !decide (k ∈ keys)).foldl
      (fun s k => copies.copy k s) default_ = default_ := by
    have each : ∀ k ∈ (copies.map Prod.fst).filter fun k => !decide (k ∈ keys), copies.copy k default_ = default_ := by
      intro k member
      obtain ⟨inside, out⟩ := List.mem_filter.mp member
      exact still k inside (by simpa using out)
    generalize (copies.map Prod.fst).filter (fun k => !decide (k ∈ keys)) = others at each
    induction others with
    | nil => rfl
    | cons k rest ih =>
        obtain ⟨first, later⟩ := List.forall_mem_cons.mp each
        rw [List.foldl_cons, first]
        exact ih later
  rw [order.foldl_eq' (fun j _ k _ s => copy_commutes copies commute k j s), List.foldl_append, quiet] at whole
  exact whole

-- A section is read from what is kept of its entries: a field has the target's value because its entry
-- says so, or because the default has it.
theorem section_edited (name : String) (fields : List (Member σ)) (copies : Copies σ) (target default_ : σ)
    (left : String → Bool) (entries : List (String × Node)) (d : Document) (route : Route) (n : Node)
    (edited : Edited (fields.map Member.key) (fun _ => True) (kept left entries) n)
    (keys : copies.map Prod.fst = fields.map Member.key) (commute : copies.Commute)
    (single : (copies.map Prod.fst).Nodup) (distinct : (entries.map Prod.fst).Nodup)
    (own : ∀ e ∈ entries, e.1 ∈ copies.map Prod.fst)
    (whole : (copies.map Prod.fst).foldl (fun s k => copies.copy k s) default_ = target)
    (effects : ∀ e ∈ entries, left e.1 = false → effect fields d route e = .ok (copies.copy e.1))
    (still : ∀ k ∈ copies.map Prod.fst, left k = true ∨ k ∉ entries.map Prod.fst → copies.copy k default_ = default_) :
    record name fields default_ d route n = .ok target := by
  have part : (kept left entries).Sublist entries := List.filter_sublist
  have apart := distinct.sublist (part.map Prod.fst)
  have inside : ∀ e ∈ kept left entries, e.1 ∈ copies.map Prod.fst := fun e member => own e (part.subset member)
  rw [record_folded name fields copies default_ d route _ _ n edited keys commute apart (keys ▸ inside),
    fold_target copies target default_ _ commute single apart (List.forall_mem_map.mpr inside) whole]
  · intro k known out
    apply still k known
    by_contra both
    obtain ⟨stays, listed⟩ := not_or.mp both
    obtain ⟨e, member, rfl⟩ := List.mem_map.mp (not_not.mp listed)
    exact out (List.mem_map_of_mem (List.mem_filter.mpr ⟨member, by simpa using stays⟩))
  · intro e member
    obtain ⟨listed, stays⟩ := List.mem_filter.mp member
    exact effects e listed (by simpa using stays)

end Overseer.Config
