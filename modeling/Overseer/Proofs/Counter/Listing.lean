import Overseer.Proofs.Counter.Names
import Overseer.Counter.Store

set_option autoImplicit false

namespace Overseer.Counter

open Files (Name)

theorem mem_found (stem : String) (names : List Name) (a : Found) :
    a ∈ found stem names ↔ Name.text a.name ∈ names ∧ ordinal? stem a.name = some a.id := by
  rw [found, List.mem_filterMap]
  constructor
  · rintro ⟨name, member, own⟩
    cases name with
    | raw bytes => cases own
    | text s =>
        obtain ⟨id, numbered, rfl⟩ := Option.map_eq_some_iff.mp own
        exact ⟨member, numbered⟩
  · rintro ⟨member, numbered⟩
    exact ⟨_, member, by simp [numbered]⟩

theorem before_iff (a b : Found) : a.before b = true ↔ a.id < b.id ∨ a.id = b.id ∧ a.name ≤ b.name := by
  simp only [Found.before, Bool.or_eq_true, Bool.and_eq_true, decide_eq_true_eq, beq_iff_eq]
  rw [← Std.le_iff_lt_or_eq]

theorem before_trans (a b c : Found) (first : a.before b = true) (second : b.before c = true) : a.before c = true := by
  rw [before_iff] at first second ⊢
  rcases first with less | ⟨same, le⟩
  · rcases second with more | ⟨equal, -⟩
    · exact .inl (Std.lt_trans less more)
    · exact .inl (equal ▸ less)
  · rcases second with more | ⟨equal, further⟩
    · exact .inl (same ▸ more)
    · exact .inr ⟨same.trans equal, String.le_trans le further⟩

theorem before_total (a b : Found) : (a.before b || b.before a) = true := by
  rw [Bool.or_eq_true, before_iff, before_iff]
  rcases Std.lt_trichotomy a.id b.id with less | same | more
  · exact .inl (.inl less)
  · rcases String.le_total a.name b.name with le | ge
    · exact .inl (.inr ⟨same, le⟩)
    · exact .inr (.inr ⟨same.symm, ge⟩)
  · exact .inr (.inl more)

def sorted (stem : String) (names : List Name) : List Found := (found stem names).mergeSort Found.before

theorem mem_sorted (stem : String) (names : List Name) (a : Found) :
    a ∈ sorted stem names ↔ Name.text a.name ∈ names ∧ ordinal? stem a.name = some a.id := by
  rw [sorted, List.mem_mergeSort, mem_found]

theorem sorted_ordered (stem : String) (names : List Name) :
    (sorted stem names).Pairwise fun a b => a.id < b.id ∨ a.id = b.id ∧ a.name ≤ b.name := by
  have ordered := List.pairwise_mergeSort before_trans before_total (found stem names)
  exact ordered.imp fun first => (before_iff _ _).mp first

theorem sorted_perm (stem : String) {names names' : List Name} (perm : names'.Perm names) :
    sorted stem names' = sorted stem names := by
  have same : (found stem names').Perm (found stem names) := perm.filterMap _
  have whole : (sorted stem names').Perm (sorted stem names) :=
    (List.mergeSort_perm _ _).trans (same.trans (List.mergeSort_perm _ _).symm)
  refine List.Perm.eq_of_pairwise ?_ (sorted_ordered stem names') (sorted_ordered stem names) whole
  rintro ⟨id, name⟩ ⟨id', name'⟩ - - first second
  rcases first with less | ⟨rfl, le⟩
  · rcases second with more | ⟨rfl, -⟩
    · exact absurd (Std.lt_trans less more) (Std.lt_irrefl)
    · exact absurd less Std.lt_irrefl
  · rcases second with more | ⟨-, ge⟩
    · exact absurd more Std.lt_irrefl
    · exact congrArg (Found.mk id) (String.le_antisymm le ge)

theorem sorted_filter (stem : String) (names : List Name) (keep : Name → Bool)
    (foreign : ∀ name, keep (.text name) = false → ordinal? stem name = none) :
    sorted stem (names.filter keep) = sorted stem names := by
  have same : found stem (names.filter keep) = found stem names := by
    unfold found
    rw [List.filterMap_filter]
    congr 1
    funext own
    cases kept : keep own with
    | true => simp
    | false =>
        cases own with
        | raw bytes => simp
        | text name => simp [foreign name kept]
  rw [sorted, sorted, same]

theorem sorted_without (stem : String) (names : List Name) (name : String) (foreign : ordinal? stem name = none) :
    sorted stem (names.filter (· ≠ .text name)) = sorted stem names := by
  refine sorted_filter stem names _ fun other gone => ?_
  obtain rfl : other = name := by simpa using gone
  exact foreign

theorem sorted_nodup (stem : String) (names : List Name) (unique : names.Nodup) : (sorted stem names).Nodup := by
  apply (List.mergeSort_perm _ _).symm.nodup
  apply List.Pairwise.filterMap _ _ unique
  intro first second different a own b other same
  subst same
  cases first with
  | raw bytes => cases own
  | text s =>
      cases second with
      | raw bytes => cases other
      | text t =>
          obtain ⟨id, -, rfl⟩ := Option.map_eq_some_iff.mp own
          obtain ⟨id', -, equal⟩ := Option.map_eq_some_iff.mp other
          exact different (congrArg Name.text (congrArg Found.name equal).symm)

-- The highest number of an artifact among the names that are present, and 0 where there is none.
structure Highest (stem : String) (present : String → Prop) (highest : Nat) : Prop where
  bound : ∀ name id, present name → ordinal? stem name = some id → id.toNat ≤ highest
  reached : highest = 0 ∨ ∃ name id, present name ∧ ordinal? stem name = some id ∧ id.toNat = highest

theorem last_highest (stem : String) (names : List Name) (last : Found) (ends : (sorted stem names).getLast? = some last)
    (a : Found) (member : a ∈ sorted stem names) : a.id ≤ last.id := by
  obtain ⟨before, split⟩ := List.getLast?_eq_some_iff.mp ends
  have ordered := sorted_ordered stem names
  rw [split, List.pairwise_append] at ordered
  rw [split, List.mem_append, List.mem_singleton] at member
  rcases member with earlier | rfl
  · rcases ordered.2.2 a earlier last List.mem_cons_self with less | ⟨same, -⟩
    · exact Std.le_of_lt less
    · exact Std.le_of_eq same
  · exact Std.le_refl _

theorem next_id (stem : String) (names : List Name) (highest : Nat)
    (top : Highest stem (fun name => Name.text name ∈ names) highest) :
    nextId (sorted stem names) =
      if highest + 1 < UInt64.size then .ok (UInt64.ofNat (highest + 1))
      else .error (.noNumberAfter (UInt64.ofNat highest)) := by
  unfold nextId
  cases ends : (sorted stem names).getLast? with
  | none =>
      have empty : sorted stem names = [] := List.getLast?_eq_none_iff.mp ends
      have zero : highest = 0 := by
        rcases top.reached with zero | ⟨name, id, present, own, -⟩
        · exact zero
        · have member := (mem_sorted stem names ⟨id, name⟩).mpr ⟨present, own⟩
          rw [empty] at member
          cases member
      rw [zero]
      rfl
  | some last =>
      have inside : last ∈ sorted stem names := List.mem_of_getLast? ends
      obtain ⟨present, own⟩ := (mem_sorted stem names last).mp inside
      have below := top.bound last.name last.id present own
      have same : last.id.toNat = highest := by
        rcases top.reached with zero | ⟨name, id, there, numbered, rfl⟩
        · omega
        · have member := (mem_sorted stem names ⟨id, name⟩).mpr ⟨there, numbered⟩
          have above := UInt64.le_iff_toNat_le.mp (last_highest stem names last ends _ member)
          exact Nat.le_antisymm below above
      simp only [same]
      split
      · next room =>
          congr 1
          apply UInt64.toNat_inj.mp
          rw [UInt64.toNat_add, same, UInt64.toNat_ofNat_of_lt' room]
          exact Nat.mod_eq_of_lt room
      · rw [← same, UInt64.ofNat_toNat]

theorem next_above (stem : String) (names : List Name) (id : UInt64) (next : nextId (sorted stem names) = .ok id) (a : Found)
    (member : a ∈ sorted stem names) : a.id < id := by
  unfold nextId at next
  cases ends : (sorted stem names).getLast? with
  | none =>
      rw [List.getLast?_eq_none_iff.mp ends] at member
      cases member
  | some last =>
      rw [ends] at next
      dsimp only at next
      split at next
      · next room =>
          obtain rfl := Except.ok.inj next
          have below := UInt64.le_iff_toNat_le.mp (last_highest stem names last ends a member)
          have sum : (last.id.toNat + 1) % 2 ^ 64 = last.id.toNat + 1 := Nat.mod_eq_of_lt room
          rw [UInt64.lt_iff_toNat_lt, UInt64.toNat_add, UInt64.toNat_one, sum]
          exact Nat.lt_succ_of_le below
      · cases next

theorem next_refused (stem : String) (names : List Name) (f : Failure) (refused : nextId (sorted stem names) = .error f) :
    f = .noNumberAfter 18446744073709551615 ∧ ∃ a ∈ sorted stem names, a.id = 18446744073709551615 := by
  unfold nextId at refused
  cases ends : (sorted stem names).getLast? with
  | none =>
      rw [ends] at refused
      cases refused
  | some last =>
      rw [ends] at refused
      dsimp only at refused
      split at refused
      · cases refused
      · next full =>
          have top : last.id = 18446744073709551615 := by
            apply UInt64.toNat_inj.mp
            have bound := last.id.toNat_lt
            have size : UInt64.size = 18446744073709551616 := rfl
            have number : (18446744073709551615 : UInt64).toNat = 18446744073709551615 := rfl
            omega
          obtain rfl := Except.error.inj refused
          exact ⟨congrArg Failure.noNumberAfter top, last, List.mem_of_getLast? ends, top⟩

end Overseer.Counter
