import Overseer.Program
/-!
Histories: what a program asks in one run and what it is answered. The answerer determines the
history of a run, and the history determines its result.
-/
set_option autoImplicit false

namespace Overseer.Program

variable {C : Type} {A : C → Type} {α β σ : Type}

abbrev Exchange (A : C → Type) : Type := Sigma A

def history (answer : (c : C) → σ → A c × σ) : Program A α → σ → List (Exchange A)
  | done _, _ => []
  | ask c next, s => ⟨c, (answer c s).1⟩ :: (next (answer c s).1).history answer (answer c s).2

-- The histories that a program can have, whoever answers it, each with its result.
inductive Runs : Program A α → List (Exchange A) → α → Prop where
  | done (result : α) : Runs (done result) [] result
  | ask {c : C} {next : A c → Program A α} {given : A c} {rest : List (Exchange A)} {result : α}
      (later : Runs (next given) rest result) : Runs (ask c next) (⟨c, given⟩ :: rest) result

def leave (answer : (c : C) → σ → A c × σ) : σ → List (Exchange A) → σ
  | s, [] => s
  | s, e :: rest => leave answer (answer e.1 s).2 rest

def Given (answer : (c : C) → σ → A c × σ) : σ → List (Exchange A) → Prop
  | _, [] => True
  | s, e :: rest => (answer e.1 s).1 = e.2 ∧ Given answer (answer e.1 s).2 rest

section Answered

variable (answer : (c : C) → σ → A c × σ)

theorem runs_history (p : Program A α) (s : σ) :
    Runs p (p.history answer s) (p.run answer s).1 := by
  induction p generalizing s with
  | done result => exact .done result
  | ask c next ih => exact .ask (ih (answer c s).1 (answer c s).2)

theorem history_given (p : Program A α) (s : σ) : Given answer s (p.history answer s) := by
  induction p generalizing s with
  | done result => trivial
  | ask c next ih => exact ⟨rfl, ih (answer c s).1 (answer c s).2⟩

theorem leave_history (p : Program A α) (s : σ) :
    leave answer s (p.history answer s) = (p.run answer s).2 := by
  induction p generalizing s with
  | done result => rfl
  | ask c next ih => exact ih (answer c s).1 (answer c s).2

theorem history_bind (p : Program A α) (f : α → Program A β) (s : σ) :
    (p.bind f).history answer s = p.history answer s ++ (f (p.run answer s).1).history answer (p.run answer s).2 := by
  induction p generalizing s with
  | done result => rfl
  | ask c next ih => exact congrArg (List.cons _) (ih (answer c s).1 (answer c s).2)

theorem run_call (c : C) (s : σ) : (call c).run answer s = answer c s := rfl

theorem leave_append (s : σ) (a b : List (Exchange A)) :
    leave answer s (a ++ b) = leave answer (leave answer s a) b := by
  induction a generalizing s with
  | nil => rfl
  | cons e rest ih => exact ih (answer e.1 s).2

theorem given_append (s : σ) (a b : List (Exchange A)) :
    Given answer s (a ++ b) ↔ Given answer s a ∧ Given answer (leave answer s a) b := by
  induction a generalizing s with
  | nil => simp [Given, leave]
  | cons e rest ih => simp only [List.cons_append, Given, leave, ih, and_assoc]

theorem given_member {c : C} {given : A c} (s : σ) (h : List (Exchange A)) (told : Given answer s h)
    (member : ⟨c, given⟩ ∈ h) : ∃ t, (answer c t).1 = given := by
  induction h generalizing s with
  | nil => cases member
  | cons e rest ih =>
      rcases List.mem_cons.mp member with rfl | later
      · exact ⟨s, told.1⟩
      · exact ih _ told.2 later

end Answered

theorem bind_split {γ : Type} (p : Program A α) {f : α → Program A γ} {g : α → Program A β} {k : β → Program A γ}
    (same : ∀ a, f a = (g a).bind k) : p.bind f = (p.bind g).bind k := by
  rw [bind_assoc, funext same]

theorem bind_congr (p : Program A α) {f g : α → Program A β} (same : ∀ h a, Runs p h a → f a = g a) :
    p.bind f = p.bind g := by
  induction p with
  | done a => exact same [] a (.done a)
  | ask c next ih => exact congrArg (ask c) (funext fun given => ih given fun h a run => same _ a (.ask run))

theorem runs_done {result r : α} {h : List (Exchange A)} (run : Runs (done result) h r) :
    h = [] ∧ r = result := by
  cases run
  exact ⟨rfl, rfl⟩

theorem runs_ask {c : C} {next : A c → Program A α} {h : List (Exchange A)} {r : α}
    (run : Runs (ask c next) h r) : ∃ given rest, h = ⟨c, given⟩ :: rest ∧ Runs (next given) rest r := by
  cases run with
  | ask later => exact ⟨_, _, rfl, later⟩

theorem runs_call {c : C} {h : List (Exchange A)} {r : A c} (run : Runs (call c) h r) : h = [⟨c, r⟩] := by
  obtain ⟨given, rest, rfl, later⟩ := runs_ask run
  obtain ⟨rfl, rfl⟩ := runs_done later
  rfl

theorem runs_bind {p : Program A α} {f : α → Program A β} {h : List (Exchange A)} {r : β}
    (run : Runs (p.bind f) h r) :
    ∃ first middle second, h = first ++ second ∧ Runs p first middle ∧ Runs (f middle) second r := by
  induction p generalizing h with
  | done result => exact ⟨[], result, h, rfl, .done result, run⟩
  | ask c next ih =>
      obtain ⟨given, rest, rfl, later⟩ := runs_ask run
      obtain ⟨first, middle, second, rfl, left, right⟩ := ih given later
      exact ⟨⟨c, given⟩ :: first, middle, second, rfl, .ask left, right⟩

theorem runs_call_bind {c : C} {f : A c → Program A β} {h : List (Exchange A)} {r : β}
    (run : Runs ((call c).bind f) h r) : ∃ given rest, h = ⟨c, given⟩ :: rest ∧ Runs (f given) rest r := by
  obtain ⟨first, given, rest, rfl, asked, later⟩ := runs_bind run
  obtain rfl := runs_call asked
  exact ⟨given, rest, rfl, later⟩

end Overseer.Program
