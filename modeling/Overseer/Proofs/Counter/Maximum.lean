import Mathlib.Order.Bounds.Basic
import Overseer.Proofs.Counter.Lone
import Overseer.Proofs.Counter.Numbering

set_option autoImplicit false

namespace Overseer.Counter

open Files (Location Name Tree)
open Host (Listing Machine)
open Text (Numeral.value)

variable {store : Store} {m : Machine} {t : Tree} {place : Location}

-- The name is the stem and then decimal digits of this value, with any number of zeros in front.
def Numbered (stem name : String) (n : Nat) : Prop :=
  ∃ ds, name.toList = stem.toList ++ ds ∧ ds ≠ [] ∧ (∀ c ∈ ds, c.isDigit = true) ∧ Numeral.value ds = n

-- Some entry, whatever it is, has a name with this number, which is below 2^64.
def Taken (stem : String) (t : Tree) (place : Location) (n : Nat) : Prop :=
  n < UInt64.size ∧ ∃ name, t.node? (.text name :: place) ≠ none ∧ Numbered stem name n

theorem numbered_ordinal (stem name : String) (id : UInt64) :
    Numbered stem name id.toNat ↔ ordinal? stem name = some id := by
  constructor
  · rintro ⟨ds, named, some, digits, number⟩
    exact ordinal_named stem name id ds named some digits number
  · exact ordinal_value stem name id

theorem temporary_unnumbered (stem : String) (id : UInt64) (n : Nat) : ¬Numbered stem (temporaryName stem id) n := by
  rintro ⟨ds, named, some, digits, -⟩
  exact temporary_undigited stem stem id ds some digits named

theorem taken_ordinal (stem : String) (t : Tree) (place : Location) (id : UInt64) :
    Taken stem t place id.toNat ↔ ∃ name, t.node? (.text name :: place) ≠ none ∧ ordinal? stem name = some id := by
  simp only [Taken, numbered_ordinal, id.toNat_lt, true_and]

theorem taken_word {stem : String} {n : Nat} (taken : Taken stem t place n) : (UInt64.ofNat n).toNat = n :=
  UInt64.toNat_ofNat_of_lt' taken.1

theorem greatest_highest {stem : String} {top : Nat} (greatest : IsGreatest {n | Taken stem t place n} top) :
    Highest stem (fun name => Name.text name ∈ t.names place) top where
  bound name id listed own :=
    greatest.2 ((taken_ordinal stem t place id).mpr ⟨name, (Files.Tree.mem_names _ _).mp listed, own⟩)
  reached := by
    have word := taken_word greatest.1
    obtain ⟨name, present, own⟩ := (taken_ordinal stem t place _).mp (word.symm ▸ greatest.1)
    exact .inr ⟨name, _, (Files.Tree.mem_names _ _).mpr present, own, word⟩

theorem untaken_highest {stem : String} (untaken : ∀ n, ¬Taken stem t place n) :
    Highest stem (fun name => Name.text name ∈ t.names place) 0 where
  bound name id listed own :=
    absurd ((taken_ordinal stem t place id).mpr ⟨name, (Files.Tree.mem_names _ _).mp listed, own⟩) (untaken _)
  reached := .inl rfl

theorem greatest_taken (stem : String) (t : Tree) (place : Location) :
    (∀ n, ¬Taken stem t place n) ∨ ∃ top, IsGreatest {n | Taken stem t place n} top := by
  have listed (n : Nat) (taken : Taken stem t place n) : ∃ a ∈ sorted stem (t.names place), a.id.toNat = n := by
    have word := taken_word taken
    obtain ⟨name, present, own⟩ := (taken_ordinal stem t place _).mp (word.symm ▸ taken)
    exact ⟨⟨_, name⟩, (mem_sorted _ _ _).mpr ⟨(Files.Tree.mem_names _ _).mpr present, own⟩, word⟩
  cases ends : (sorted stem (t.names place)).getLast? with
  | none =>
      refine .inl fun n taken => ?_
      obtain ⟨a, member, -⟩ := listed n taken
      rw [List.getLast?_eq_none_iff.mp ends] at member
      cases member
  | some last =>
      refine .inr ⟨last.id.toNat, ?_, ?_⟩
      · obtain ⟨present, own⟩ := (mem_sorted _ _ last).mp (List.mem_of_getLast? ends)
        exact (taken_ordinal stem t place last.id).mpr ⟨last.name, (Files.Tree.mem_names _ _).mp present, own⟩
      · intro n taken
        obtain ⟨a, member, rfl⟩ := listed n taken
        exact UInt64.le_iff_toNat_le.mp (last_highest _ _ last ends a member)

theorem allocate_names (listing : Listing) (made : m.tree.makePath m.work store.directory = .ok t)
    (opens : t.Opens m.work store.directory place) :
    (store.allocate.run listing.answer m).1 = nextId (sorted store.stem (t.names place)) := by
  have answered := allocate_answer store listing m
  rw [made] at answered
  obtain ⟨m', -, told⟩ := answered
  rw [told, shows_opens (m := { m with tree := t }) listing opens, sorted_perm store.stem (listing.perm _ _)]
  rfl

theorem next_taken {stem : String} {t' : Tree} {place' : Location}
    (same : ∀ n, Taken stem t' place' n ↔ Taken stem t place n) :
    nextId (sorted stem (t'.names place')) = nextId (sorted stem (t.names place)) := by
  rcases greatest_taken stem t place with untaken | ⟨top, greatest⟩
  · have other : ∀ n, ¬Taken stem t' place' n := fun n taken => untaken n ((same n).mp taken)
    rw [next_id _ _ 0 (untaken_highest untaken), next_id _ _ 0 (untaken_highest other)]
  · have other : IsGreatest {n | Taken stem t' place' n} top :=
      ⟨(same top).mpr greatest.1, fun n taken => greatest.2 ((same n).mp taken)⟩
    rw [next_id _ _ top (greatest_highest greatest), next_id _ _ top (greatest_highest other)]

theorem next_untaken {stem : String} (untaken : ∀ n, ¬Taken stem t place n) :
    nextId (sorted stem (t.names place)) = .ok 1 :=
  next_id stem _ 0 (untaken_highest untaken)

theorem next_greatest {stem : String} {top : Nat} (greatest : IsGreatest {n | Taken stem t place n} top) :
    nextId (sorted stem (t.names place)) = following top :=
  next_id stem _ top (greatest_highest greatest)

theorem following_number {top : Nat} {id : UInt64} (next : following top = .ok id) : id.toNat = top + 1 := by
  unfold following at next
  by_cases room : top + 1 < UInt64.size
  · rw [if_pos room] at next
    obtain rfl := Except.ok.inj next
    exact UInt64.toNat_ofNat_of_lt' room
  · rw [if_neg room] at next
    cases next

theorem next_new {stem : String} {id : UInt64} (next : nextId (sorted stem (t.names place)) = .ok id) :
    1 ≤ id ∧ ∀ n, Taken stem t place n → n < id.toNat := by
  rcases greatest_taken stem t place with untaken | ⟨top, greatest⟩
  · rw [next_untaken untaken] at next
    obtain rfl := Except.ok.inj next
    exact ⟨Std.le_refl _, fun n taken => absurd taken (untaken n)⟩
  · rw [next_greatest greatest] at next
    have number := following_number next
    refine ⟨UInt64.le_iff_toNat_le.mpr ?_, fun n taken => ?_⟩
    · rw [number]
      exact Nat.le_add_left 1 top
    · rw [number]
      exact Nat.lt_succ_of_le (greatest.2 taken)

theorem next_full {stem : String} : (∃ f, nextId (sorted stem (t.names place)) = .error f) ↔
    IsGreatest {n | Taken stem t place n} (UInt64.size - 1) := by
  constructor
  · rintro ⟨f, refused⟩
    obtain ⟨-, a, member, last⟩ := next_refused stem _ f refused
    obtain ⟨listed, own⟩ := (mem_sorted stem _ a).mp member
    refine ⟨(taken_ordinal stem t place 18446744073709551615).mpr ?_, fun n taken => Nat.le_pred_of_lt taken.1⟩
    exact ⟨a.name, (Files.Tree.mem_names _ _).mp listed, last ▸ own⟩
  · intro greatest
    exact ⟨_, next_greatest greatest⟩

-- For a directory that can be made and listed, one answer is given under every order of listing. It is 1 or the
-- number after the greatest that is taken, and an error where there is none after it. Only the numbers that are
-- taken tell the answer, and no temporary has one.
theorem allocation_follows_maximum (made : m.tree.makePath m.work store.directory = .ok t)
    (opens : t.Opens m.work store.directory place) :
    ∃ answer : Except Failure UInt64,
      (∀ listing : Listing, (store.allocate.run listing.answer m).1 = answer) ∧
      ((∀ n, ¬Taken store.stem t place n) ∧ answer = .ok 1 ∨
        ∃ top, IsGreatest {n | Taken store.stem t place n} top ∧ answer = following top) ∧
      ((∃ f, answer = .error f) ↔ IsGreatest {n | Taken store.stem t place n} (UInt64.size - 1)) ∧
      (∀ f, answer = .error f → f.fault.kind = .storage) ∧
      (∀ id, answer = .ok id → 1 ≤ id ∧ (∀ n, Taken store.stem t place n → n < id.toNat) ∧
        ∀ name, t.node? (.text name :: place) ≠ none → ¬Numbered store.stem name id.toNat) ∧
      (∀ id n, ¬Numbered store.stem (temporaryName store.stem id) n) ∧
      ∀ m' t' place', m'.tree.makePath m'.work store.directory = .ok t' → t'.Opens m'.work store.directory place' →
        (∀ n, Taken store.stem t' place' n ↔ Taken store.stem t place n) →
        ∀ listing : Listing, (store.allocate.run listing.answer m').1 = answer := by
  have answers (listing : Listing) := allocate_names listing made opens
  refine ⟨_, answers, ?_, next_full, fun _ _ => rfl, ?_, temporary_unnumbered store.stem, ?_⟩
  · rcases greatest_taken store.stem t place with untaken | ⟨top, greatest⟩
    · exact .inl ⟨untaken, next_untaken untaken⟩
    · exact .inr ⟨top, greatest, next_greatest greatest⟩
  · intro id next
    obtain ⟨positive, above⟩ := next_new next
    refine ⟨positive, above, fun name present numbered => ?_⟩
    exact Nat.lt_irrefl _ (above _ ⟨id.toNat_lt, name, present, numbered⟩)
  · intro m' t' place' made' opens' same listing
    rw [allocate_names listing made' opens', next_taken same]

theorem allocation_follows_seventh :
    (lone "f7" "0").tree.makePath (lone "f7" "0").work "." = .ok (lone "f7" "0").tree ∧
      (lone "f7" "0").tree.Opens (lone "f7" "0").work "." [] ∧
      ∀ listing : Listing, ((Store.allocate ⟨".", "f"⟩).run listing.answer (lone "f7" "0")).1 = .ok 8 := by
  have opens : (lone "f7" "0").tree.Opens (lone "f7" "0").work (Store.directory ⟨".", "f"⟩) [] := lone_opens "f7" "0"
  have made : (lone "f7" "0").tree.makePath (lone "f7" "0").work (Store.directory ⟨".", "f"⟩) = .ok (lone "f7" "0").tree :=
    Files.Tree.make_opens opens
  have own : ordinal? "f" "f7" = some 7 := by decide
  have seventh : Taken "f" (lone "f7" "0").tree [] 7 :=
    (taken_ordinal "f" _ [] 7).mpr ⟨"f7", by rw [lone_node, if_pos rfl]; nofun, own⟩
  refine ⟨made, opens, ?_⟩
  obtain ⟨answer, answers, told, -⟩ := allocation_follows_maximum made opens
  rcases told with ⟨untaken, -⟩ | ⟨top, greatest, rfl⟩
  · exact absurd seventh (untaken 7)
  · have word := taken_word greatest.1
    obtain ⟨name, present, numbered⟩ := (taken_ordinal "f" _ [] _).mp (word.symm ▸ greatest.1)
    have only : name = "f7" := by
      by_cases same : name = "f7"
      · exact same
      · rw [lone_node, if_neg same] at present
        exact absurd rfl present
    rw [only, own] at numbered
    have number : top = 7 := by
      rw [← word, ← Option.some.inj numbered]
      rfl
    rw [number] at answers
    exact answers

end Overseer.Counter
