import Overseer.Diagnostic
import Overseer.Fault
import Overseer.Program
import Overseer.Session.Basic
import Overseer.Workload.Step
/-!
The supervisor's loop, as a program of calls to its collaborators: the counter store, the process
log, the workload, the notifier and the stop request. A failed attempt is counted in the store
before it is logged, and every run ends in one closing line.
-/
set_option autoImplicit false

namespace Overseer.Session

open Text (Numeral.word64)
open Workload (Verdict)

inductive Call where
  | allocate
  | begin (id : UInt64)
  | update (id : UInt64) (count : UInt32)
  | log (message : String)
  | attempt
  | notify (id : UInt64) (count : UInt32)
  | stopRequested
  | note (record : Diagnostic)
deriving DecidableEq, Repr

abbrev Answer : Call → Type
  | .allocate => Except Fault UInt64
  | .begin _ => Except Fault Unit
  | .update _ _ => Except Fault Unit
  | .log _ => Except Fault Unit
  | .attempt => Except Fault Verdict
  | .notify _ _ => Except Fault Unit
  | .stopRequested => Bool
  | .note _ => Unit

abbrev Course := ExceptT Fault (Program Answer)

def ask (c : Call) : Program Answer (Answer c) := Program.call c

def note (level : Level) (text : String) : Program Answer Unit := ask (.note ⟨level, text⟩)

def log (message : String) : Course Unit := ExceptT.mk (ask (.log message))

def attempt : Course Verdict := ExceptT.mk (ask .attempt)

def stopRequested : Course Bool := ExceptT.lift (ask .stopRequested)

def transition (id : UInt64) (a b : Phase) : Course Unit :=
  ExceptT.lift (note .debug ("Session " ++ Numeral.word64 id ++ ": " ++ a.label ++ " -> " ++ b.label))

-- Counts the failure, and then logs it.
def record (s : Session) : Course Unit := do
  ExceptT.mk (ask (.update s.id s.failures))
  log (incrementMessage s.failures)
  log restartMessage

-- Notifies once. That it could not be delivered is logged and ends nothing.
def escalate (s : Session) : Course Unit := do
  log (escalationMessage s.failures)
  match ← ExceptT.lift (ask (.notify s.id s.failures)) with
  | .ok () => return
  | .error f =>
    ExceptT.lift (note .warn
      ("Escalation for session " ++ Numeral.word64 s.id ++ " failed: " ++ f.message))
    log (undeliveredMessage f.message)

def failed (s : Session) : Session := { s with failures := s.failures + 1 }

def HasRoom (s : Session) : Prop := s.failures = 0 ∨ s.canRetry = true

theorem failures_failed {s : Session} (room : s.HasRoom) :
    s.failed.failures.toNat = s.failures.toNat + 1 := by
  have word : s.failures.toNat < 4294967296 := s.failures.toNat_lt
  have limit : s.ceiling.toNat < 4294967296 := s.ceiling.toNat_lt
  have sum : s.failed.failures.toNat = (s.failures.toNat + 1) % 4294967296 := by
    simp [failed, UInt32.toNat_add]
  rcases room with zero | more
  · rw [sum, zero]; rfl
  · have below : s.failures.toNat < s.ceiling.toNat := by
      simpa [canRetry, UInt32.lt_iff_toNat_lt] using more
    omega

def attempts (s : Session) (_room : s.HasRoom) : Course Report := do
  if ← stopRequested then return ⟨s, .cancelled⟩
  match ← attempt with
  | .success =>
    transition s.id .running .succeeded
    return ⟨s, .succeeded⟩
  | .failure =>
    transition s.id .running .retrying
    record s.failed
    if again : s.failed.canRetry = true then
      transition s.id .retrying .running
      attempts s.failed (.inr again)
    else
      transition s.id .retrying .exhausted
      escalate s.failed
      return ⟨s.failed, .exhausted⟩
termination_by s.ceiling.toNat - s.failures.toNat
decreasing_by
  have grows := failures_failed _room
  have below : s.failed.failures.toNat < s.failed.ceiling.toNat := by
    simpa [canRetry, UInt32.lt_iff_toNat_lt] using again
  have same : s.failed.ceiling = s.ceiling := rfl
  rw [same] at below ⊢
  omega

def drive (id : UInt64) (ceiling : UInt32) : Course Report := do
  ExceptT.mk (ask (.begin id))
  log startMessage
  transition id .init .running
  attempts ⟨id, 0, ceiling⟩ (.inl rfl)

-- The closing line of a run that a fault ended; whether it can be logged changes nothing.
def abort (id : UInt64) (f : Fault) : Program Answer (Except Fault Report) := do
  let line := abortMessage id f.message
  match ← ask (.log line) with
  | .ok () => note .error line
  | .error g =>
    note .error ("Failed to record abort: " ++ g.message)
    note .error line
  return .error f

def close (r : Report) : Program Answer (Except Fault Report) := do
  match ← ask (.log r.summary) with
  | .error f => return .error f
  | .ok () =>
    note .info r.summary
    return .ok r

def supervise (ceiling : UInt32) : Program Answer (Except Fault Report) := do
  match ← ask .allocate with
  | .error f => abort (fresh ceiling).id f
  | .ok id =>
    match ← (drive id ceiling).run with
    | .error f => abort id f
    | .ok report => close report

end Overseer.Session
