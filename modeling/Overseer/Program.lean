/-!
Programs: computations that ask calls of a family `C` and go on with the answers, whose types `A`
gives. A program is a tree, so what it asks can be stated apart from who answers.
-/
set_option autoImplicit false

namespace Overseer

inductive Program {C : Type} (A : C → Type) (α : Type) where
  | done (result : α)
  | ask (call : C) (next : A call → Program A α)

namespace Program

variable {C D : Type} {A : C → Type} {B : D → Type} {α β γ σ : Type}

def bind : Program A α → (α → Program A β) → Program A β
  | done a, f => f a
  | ask c next, f => ask c fun answer => (next answer).bind f

instance : Monad (Program A) where
  pure := done
  bind := bind

def call (c : C) : Program A (A c) := ask c done

def run (answer : (c : C) → σ → A c × σ) : Program A α → σ → α × σ
  | done a, s => (a, s)
  | ask c next, s => (next (answer c s).1).run answer (answer c s).2

-- Answers every call by a program over other calls.
def through (answer : (c : C) → Program B (A c)) : Program A α → Program B α
  | done a => done a
  | ask c next => (answer c).bind fun a => (next a).through answer

def within {m : Type → Type} [Monad m] (answer : (c : C) → m (A c)) : Program A α → m α
  | done a => pure a
  | ask c next => do (next (← answer c)).within answer

@[simp] theorem done_bind (a : α) (f : α → Program A β) : (done a : Program A α).bind f = f a := rfl

@[simp] theorem ask_bind (c : C) (next : A c → Program A α) (f : α → Program A β) :
    (ask c next).bind f = ask c fun answer => (next answer).bind f := rfl

@[simp] theorem bind_done (p : Program A α) : p.bind done = p := by
  induction p with
  | done a => rfl
  | ask c next ih => simp [ih]

theorem bind_assoc (p : Program A α) (f : α → Program A β) (g : β → Program A γ) :
    (p.bind f).bind g = p.bind fun a => (f a).bind g := by
  induction p with
  | done a => rfl
  | ask c next ih => simp [ih]

instance : LawfulMonad (Program A) :=
  LawfulMonad.mk' (Program A) (fun p => bind_done p) (fun _ _ => rfl)
    (fun p f g => bind_assoc p f g)

@[simp] theorem pure_eq_done (a : α) : (pure a : Program A α) = done a := rfl

@[simp] theorem bind_eq (p : Program A α) (f : α → Program A β) : p >>= f = p.bind f := rfl

theorem run_bind (answer : (c : C) → σ → A c × σ) (p : Program A α) (f : α → Program A β) (s : σ) :
    (p.bind f).run answer s = (f (p.run answer s).1).run answer (p.run answer s).2 := by
  induction p generalizing s with
  | done a => rfl
  | ask c next ih => simp [run, ih]

end Program

end Overseer
