import Overseer.Counter.Store
import Overseer.Proofs.Program.History

set_option autoImplicit false

namespace Overseer.Counter

open Program (Runs)

abbrev Exchange : Type := Program.Exchange Host.Answer

theorem next_id_ne_zero (sorted : List Found) (id : UInt64) (next : nextId sorted = .ok id) : id ≠ 0 := by
  unfold nextId at next
  cases highest : sorted.getLast? with
  | none =>
      simp only [highest, Except.ok.injEq] at next
      exact next ▸ by decide
  | some last =>
      by_cases below : last.id.toNat + 1 < UInt64.size
      · simp only [highest, below, if_true, Except.ok.injEq] at next
        intro zero
        have number : (last.id + 1).toNat = last.id.toNat + 1 := by
          rw [UInt64.toNat_add]
          exact Nat.mod_eq_of_lt below
        rw [next, zero] at number
        exact absurd number (by simp)
      · simp [highest, below] at next

inductive Looks (store : Store) : Host.Call → Prop where
  | makePath : Looks store (.makePath store.directory)
  | list : Looks store (.list store.directory)
  | note (record : Diagnostic) : Looks store (.note record)

variable {store : Store}

theorem notes_look (names : List String) (level : Level) (text : String → String) (h : List Exchange) (done : Unit)
    (run : Runs (names.forM fun name => Host.note level (text name)) h done) : ∀ e ∈ h, Looks store e.1 := by
  induction names generalizing h with
  | nil =>
      obtain ⟨rfl, -⟩ := Program.runs_done run
      exact List.forall_mem_nil _
  | cons name rest ih =>
      obtain ⟨told, later, rfl, others⟩ := Program.runs_call_bind run
      exact List.forall_mem_cons.mpr ⟨.note _, ih later others⟩

theorem artifacts_look (h : List Exchange) (r : Except Failure (List Found)) (run : Runs store.artifacts h r) :
    ∀ e ∈ h, Looks store e.1 := by
  obtain ⟨names, rest, rfl, noting⟩ := Program.runs_call_bind run
  cases names with
  | error refusal =>
      obtain ⟨rfl, -⟩ := Program.runs_done noting
      exact List.forall_mem_cons.mpr ⟨.list, List.forall_mem_nil _⟩
  | ok names =>
      obtain ⟨first, done, second, rfl, notes, ending⟩ := Program.runs_bind noting
      obtain ⟨rfl, -⟩ := Program.runs_done ending
      rw [List.append_nil]
      exact List.forall_mem_cons.mpr ⟨.list, notes_look _ _ _ first done notes⟩

theorem allocate_course (h : List Exchange) (r : Except Failure UInt64) (run : Runs store.allocate h r) :
    (∀ e ∈ h, Looks store e.1) ∧ ∀ id, r = .ok id → ∃ sorted, nextId sorted = .ok id := by
  obtain ⟨made, rest, rfl, listing⟩ := Program.runs_call_bind run
  rw [List.forall_mem_cons]
  cases made with
  | error refusal =>
      obtain ⟨rfl, rfl⟩ := Program.runs_done listing
      refine ⟨⟨.makePath, List.forall_mem_nil _⟩, ?_⟩
      rintro id ⟨⟩
  | ok done =>
      obtain ⟨first, found, second, rfl, listed, choosing⟩ := Program.runs_bind listing
      rw [List.forall_mem_append]
      have looked := artifacts_look first found listed
      cases found with
      | error f =>
          obtain ⟨rfl, rfl⟩ := Program.runs_done choosing
          refine ⟨⟨.makePath, looked, List.forall_mem_nil _⟩, ?_⟩
          rintro id ⟨⟩
      | ok sorted =>
          cases next : nextId sorted with
          | error f =>
              simp only [next] at choosing
              obtain ⟨rfl, rfl⟩ := Program.runs_done choosing
              refine ⟨⟨.makePath, looked, List.forall_mem_nil _⟩, ?_⟩
              rintro id ⟨⟩
          | ok chosen =>
              simp only [next] at choosing
              obtain ⟨told, last, rfl, ending⟩ := Program.runs_call_bind choosing
              obtain ⟨rfl, rfl⟩ := Program.runs_done ending
              exact ⟨⟨.makePath, looked, List.forall_mem_cons.mpr ⟨.note _, List.forall_mem_nil _⟩⟩,
                fun id same => ⟨sorted, next.trans same⟩⟩

theorem allocate_ne_zero (h : List Exchange) (id : UInt64) (run : Runs store.allocate h (.ok id)) : id ≠ 0 := by
  obtain ⟨-, chosen⟩ := allocate_course h _ run
  obtain ⟨sorted, next⟩ := chosen id rfl
  exact next_id_ne_zero sorted id next

end Overseer.Counter
