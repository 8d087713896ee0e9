import Overseer.Proofs.Program.History

set_option autoImplicit false

namespace Overseer.Program

variable {C : Type} {A : C → Type} {α σ : Type} (one two : (c : C) → σ → A c × σ)

theorem history_part (before : List (Exchange A)) (p : Program A α) (s : σ) (e : Exchange A)
    (after : List (Exchange A)) (split : p.history one s = before ++ e :: after)
    (alike : ∀ earlier f later, before = earlier ++ f :: later →
      two f.1 (leave one s earlier) = one f.1 (leave one s earlier)) :
    ∃ rest, p.history two s = before ++ ⟨e.1, (two e.1 (leave one s before)).1⟩ :: rest := by
  induction before generalizing p s with
  | nil =>
      cases p with
      | done result => cases split
      | ask c next =>
          obtain ⟨rfl, -⟩ := List.cons_eq_cons.mp split
          exact ⟨_, rfl⟩
  | cons f before ih =>
      cases p with
      | done result => cases split
      | ask c next =>
          obtain ⟨rfl, later⟩ := List.cons_eq_cons.mp split
          have first := alike [] _ before rfl
          obtain ⟨rest, same⟩ := ih (next (one c s).1) (one c s).2 later fun earlier g last eq =>
            alike (⟨c, (one c s).1⟩ :: earlier) g last (congrArg (List.cons _) eq)
          refine ⟨rest, ?_⟩
          change ⟨c, (two c s).1⟩ :: (next (two c s).1).history two (two c s).2 = _
          have now : two c s = one c s := first
          rw [now, same]
          rfl

theorem history_alike (p : Program A α) (s : σ)
    (alike : ∀ before e after, p.history one s = before ++ e :: after →
      two e.1 (leave one s before) = one e.1 (leave one s before)) :
    p.history two s = p.history one s ∧ p.run two s = p.run one s := by
  induction p generalizing s with
  | done result => exact ⟨rfl, rfl⟩
  | ask c next ih =>
      have now : two c s = one c s := alike [] _ _ rfl
      obtain ⟨history, run⟩ := ih (one c s).1 (one c s).2 fun before e after split =>
        alike (⟨c, (one c s).1⟩ :: before) e after (congrArg (List.cons _) split)
      constructor
      · change ⟨c, (two c s).1⟩ :: (next (two c s).1).history two (two c s).2 = _
        rw [now, history]
        rfl
      · change (next (two c s).1).run two (two c s).2 = _
        rw [now, run]
        rfl

theorem history_simulated {τ : Type} (other : (c : C) → τ → A c × τ) (Related : σ → τ → Prop)
    (step : ∀ c s t, Related s t → (one c s).1 = (other c t).1 ∧ Related (one c s).2 (other c t).2)
    (p : Program A α) (s : σ) (t : τ) (related : Related s t) : p.history one s = p.history other t := by
  induction p generalizing s t with
  | done result => rfl
  | ask c next ih =>
      obtain ⟨same, later⟩ := step c s t related
      change ⟨c, (one c s).1⟩ :: (next (one c s).1).history one (one c s).2 = _
      rw [same, ih (other c t).1 _ _ later]
      rfl

end Overseer.Program
