import Overseer.Proofs.Program.History

set_option autoImplicit false

namespace Overseer.Program

variable {C D : Type} {A : C → Type} {B : D → Type} {α β σ : Type}

def Asks (Q : C → Prop) : Program A α → Prop
  | done _ => True
  | ask c next => Q c ∧ ∀ a, (next a).Asks Q

theorem asks_call {Q : C → Prop} {c : C} (own : Q c) : (call c : Program A (A c)).Asks Q := ⟨own, fun _ => trivial⟩

theorem asks_bind {Q : C → Prop} {p : Program A α} {f : α → Program A β} (first : p.Asks Q)
    (later : ∀ a, (f a).Asks Q) : (p.bind f).Asks Q := by
  induction p with
  | done a => exact later a
  | ask c next ih => exact ⟨first.1, fun a => ih a (first.2 a)⟩

def Along (answer : (c : C) → σ → A c × σ) (P : C → σ → Prop) : σ → List (Exchange A) → Prop
  | _, [] => True
  | s, e :: rest => P e.1 s ∧ Along answer P (answer e.1 s).2 rest

section Answered

variable {answer : (c : C) → σ → A c × σ} {P : C → σ → Prop}

theorem along_append (s : σ) (a b : List (Exchange A)) :
    Along answer P s (a ++ b) ↔ Along answer P s a ∧ Along answer P (leave answer s a) b := by
  induction a generalizing s with
  | nil => simp [Along, leave]
  | cons e rest ih => simp only [List.cons_append, Along, leave, ih, and_assoc]

theorem along_bind (p : Program A α) (f : α → Program A β) (s : σ) :
    Along answer P s ((p.bind f).history answer s) ↔ Along answer P s (p.history answer s) ∧
      Along answer P (p.run answer s).2 ((f (p.run answer s).1).history answer (p.run answer s).2) := by
  rw [history_bind, along_append, leave_history]

theorem along_call_bind (c : C) (f : A c → Program A α) (s : σ) :
    Along answer P s (((call c).bind f).history answer s) ↔
      P c s ∧ Along answer P (answer c s).2 ((f (answer c s).1).history answer (answer c s).2) :=
  Iff.rfl

theorem along_mono {R : C → σ → Prop} (weaker : ∀ c s, P c s → R c s) (s : σ) (h : List (Exchange A))
    (along : Along answer P s h) : Along answer R s h := by
  induction h generalizing s with
  | nil => trivial
  | cons e rest ih => exact ⟨weaker _ _ along.1, ih _ along.2⟩

theorem asks_history {Q : C → Prop} (p : Program A α) (asks : p.Asks Q) (s : σ) :
    ∀ e ∈ p.history answer s, Q e.1 := by
  induction p generalizing s with
  | done a => exact List.forall_mem_nil _
  | ask c next ih => exact List.forall_mem_cons.mpr ⟨asks.1, ih _ (asks.2 _) _⟩

theorem run_keeps {Q : C → Prop} (I : σ → Prop)
    (step : ∀ c s, Q c → P c s → I s → I (answer c s).2) (p : Program A α) (asks : p.Asks Q) (s : σ)
    (along : Along answer P s (p.history answer s)) (holds : I s) : I (p.run answer s).2 := by
  induction p generalizing s with
  | done a => exact holds
  | ask c next ih => exact ih _ (asks.2 _) _ along.2 (step c s asks.1 along.1 holds)

theorem along_always (always : ∀ c s, P c s) (s : σ) (h : List (Exchange A)) : Along answer P s h := by
  induction h generalizing s with
  | nil => trivial
  | cons e rest ih => exact ⟨always _ _, ih _⟩

theorem run_simulated {τ : Type} {Q : C → Prop} (other : (c : C) → τ → A c × τ) (Related : σ → τ → Prop)
    (step : ∀ c s t, Q c → Related s t → (answer c s).1 = (other c t).1 ∧ Related (answer c s).2 (other c t).2)
    (p : Program A α) (asks : p.Asks Q) (s : σ) (t : τ) (related : Related s t) :
    (p.run answer s).1 = (p.run other t).1 ∧ Related (p.run answer s).2 (p.run other t).2 := by
  induction p generalizing s t with
  | done a => exact ⟨rfl, related⟩
  | ask c next ih =>
      obtain ⟨same, later⟩ := step c s t asks.1 related
      have rest := ih (answer c s).1 (asks.2 _) _ _ later
      rw [run, run, ← same]
      exact rest

instance Along.decidable [∀ c s, Decidable (P c s)] : (s : σ) → (h : List (Exchange A)) → Decidable (Along answer P s h)
  | _, [] => .isTrue trivial
  | s, e :: rest =>
    have : Decidable (Along answer P (answer e.1 s).2 rest) := Along.decidable _ rest
    inferInstanceAs (Decidable (_ ∧ _))

end Answered

section Through

variable (f : (c : C) → Program B (A c)) (answer : (d : D) → σ → B d × σ)

theorem run_through (p : Program A α) (s : σ) :
    (p.through f).run answer s = p.run (fun c s => (f c).run answer s) s := by
  induction p generalizing s with
  | done a => rfl
  | ask c next ih => rw [through, run_bind, ih, run]

theorem along_through (P : D → σ → Prop) (p : Program A α) (s : σ) :
    Along answer P s ((p.through f).history answer s) ↔
      Along (fun c s => (f c).run answer s) (fun c s => Along answer P s ((f c).history answer s)) s
        (p.history (fun c s => (f c).run answer s) s) := by
  induction p generalizing s with
  | done a => exact Iff.rfl
  | ask c next ih => rw [through, along_bind, ih, history, Along]

-- Behind a call of the run is a run of the program that answers it, whose calls are calls of the whole.
theorem runs_within (p : Program A α) (s : σ) (e : Exchange A)
    (member : e ∈ p.history (fun c s => (f c).run answer s) s) :
    ∃ h, Runs (f e.1) h e.2 ∧ ∀ d ∈ h, d ∈ (p.through f).history answer s := by
  induction p generalizing s with
  | done a => cases member
  | ask c next ih =>
      rw [through, history_bind]
      rcases List.mem_cons.mp member with rfl | later
      · exact ⟨_, runs_history answer (f c) s, fun d => List.mem_append_left _⟩
      · obtain ⟨h, runs, within⟩ := ih _ _ later
        exact ⟨h, runs, fun d inside => List.mem_append_right _ (within d inside)⟩

end Through

end Overseer.Program
