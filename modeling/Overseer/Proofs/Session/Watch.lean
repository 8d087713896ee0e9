import Overseer.Proofs.Session.Course

set_option autoImplicit false

namespace Overseer.Session

variable {σ : Type}

def asked (h : History) : List Call := h.map Sigma.fst

def lineOf : Exchange → Option String
  | ⟨.log message, .ok ()⟩ => some message
  | _ => none

def lines (h : History) : List String := h.filterMap lineOf

-- Notifications and requests to stop are no faults, whatever they are answered.
def faultOf : Exchange → Option Fault
  | ⟨.allocate, .error f⟩ => some f
  | ⟨.begin _, .error f⟩ => some f
  | ⟨.update _ _, .error f⟩ => some f
  | ⟨.log _, .error f⟩ => some f
  | ⟨.attempt, .error f⟩ => some f
  | _ => none

-- The count that an exchange gives a session's counter: only writes that the store grants do.
def written (id : UInt64) : Exchange → Option UInt32
  | ⟨.begin own, .ok ()⟩ => if own = id then some 0 else none
  | ⟨.update own count, .ok ()⟩ => if own = id then some count else none
  | _ => none

def kept (id : UInt64) (count : Option UInt32) (h : History) : Option UInt32 :=
  h.foldl (fun count e => (written id e).or count) count

structure Watch (σ : Type) where
  answer : (c : Call) → σ → Answer c × σ
  id : UInt64
  count : σ → Option UInt32
  keeps : ∀ c s, count (answer c s).2 = (written id ⟨c, (answer c s).1⟩).or (count s)

-- Any collaborators can be watched: the counter is kept beside their state.
def Watch.beside (answer : (c : Call) → σ → Answer c × σ) (id : UInt64) : Watch (σ × Option UInt32) where
  answer c s := ((answer c s.1).1, (answer c s.1).2, (written id ⟨c, (answer c s.1).1⟩).or s.2)
  id := id
  count s := s.2
  keeps _ _ := rfl

def obliging (script : Nat → Workload.Verdict) : (c : Call) → Nat → Answer c × Nat
  | .allocate, n => (.ok 1, n)
  | .begin _, n => (.ok (), n)
  | .update _ _, n => (.ok (), n)
  | .log _, n => (.ok (), n)
  | .attempt, n => (.ok (script n), n + 1)
  | .notify _ _, n => (.ok (), n)
  | .stopRequested, n => (false, n)
  | .note _, n => ((), n)

def Watch.obliging (script : Nat → Workload.Verdict) : Watch (Nat × Option UInt32) :=
  .beside (Session.obliging script) 1

theorem kept_append (id : UInt64) (count : Option UInt32) (a b : History) :
    kept id count (a ++ b) = kept id (kept id count a) b :=
  List.foldl_append

theorem count_leave (w : Watch σ) (s : σ) (h : History) (given : Program.Given w.answer s h) :
    w.count (Program.leave w.answer s h) = kept w.id (w.count s) h := by
  induction h generalizing s with
  | nil => rfl
  | cons e rest ih =>
      obtain ⟨now, later⟩ := given
      have step := w.keeps e.1 s
      rw [now] at step
      exact (ih (w.answer e.1 s).2 later).trans (by rw [step]; rfl)

theorem count_within (w : Watch σ) (s : σ) (ceiling : UInt32) (before rest : History)
    (split : (supervise ceiling).history w.answer s = before ++ rest) :
    w.count (Program.leave w.answer s before) = kept w.id (w.count s) before := by
  have given := Program.history_given w.answer (supervise ceiling) s
  rw [split, Program.given_append] at given
  exact count_leave w s before given.1

theorem count_after (w : Watch σ) (s : σ) (ceiling : UInt32) :
    w.count ((supervise ceiling).run w.answer s).2 =
      kept w.id (w.count s) ((supervise ceiling).history w.answer s) := by
  rw [← Program.leave_history]
  exact count_within w s ceiling _ [] (List.append_nil _).symm

end Overseer.Session
