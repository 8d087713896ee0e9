import Overseer.Proofs.Session.Retry
/-!
The supervisor's loop as a machine of phases. A turn of the machine is made in one phase, and it goes on to
another one or ends the run. The supervisor is this machine with as many turns as it can ever need.
-/
set_option autoImplicit false

namespace Overseer.Session

open Program (Runs)
open Text (Numeral.word64)

abbrev Move : Type := Phase × Phase

def sentence (id : UInt64) (m : Move) : String :=
  "Session " ++ Numeral.word64 id ++ ": " ++ m.1.label ++ " -> " ++ m.2.label

inductive Turn where
  | next (phase : Phase)
  | last (outcome : Except Fault Outcome)

def guarded {α : Type} (s : Session) (p : Course α) (after : α → Turn) : Program Answer (Session × Turn) :=
  p.run.bind fun
    | .error f => .done (s, .last (.error f))
    | .ok a => .done (s, after a)

def start (id : UInt64) : Course Unit := do
  ExceptT.mk (ask (.begin id))
  log startMessage

def turn (s : Session) : Phase → Program Answer (Session × Turn)
  | .init => (ask .allocate).bind fun
    | .error f => .done (s, .last (.error f))
    | .ok id => guarded { s with id } (start id) fun _ => .next .running
  | .running => (ask .stopRequested).bind fun
    | true => .done (s, .last (.ok .cancelled))
    | false => guarded s attempt fun
      | .success => .next .succeeded
      | .failure => .next .retrying
  | .retrying => guarded s.failed (record s.failed) fun _ =>
    .next (if s.failed.canRetry = true then .running else .exhausted)
  | .succeeded => .done (s, .last (.ok .succeeded))
  | .exhausted => guarded s (escalate s) fun _ => .last (.ok .exhausted)

-- So many turns, or fewer where the run ends before; a move is recorded after its turn.
def loop : Nat → Session → Phase → Program Answer (Session × Turn)
  | 0, s, p => .done (s, .next p)
  | turns + 1, s, p => (turn s p).bind fun
    | (s', .last outcome) => .done (s', .last outcome)
    | (s', .next p') => (note .debug (sentence s'.id (p, p'))).bind fun _ => loop turns s' p'

-- The closing line of a run that has ended; what else is done with one that has not is left open.
def settle (unended : Program Answer (Except Fault Report)) : Session × Turn → Program Answer (Except Fault Report)
  | (_, .next _) => unended
  | (s, .last (.error f)) => abort s.id f
  | (s, .last (.ok outcome)) => close ⟨s, outcome⟩

def conclude (id : UInt64) : Except Fault Report → Program Answer (Except Fault Report)
  | .error f => abort id f
  | .ok report => close report

section Parts

variable {α β γ : Type}

theorem course_bind (p : Course α) (f : α → Course β) (k : Except Fault β → Program Answer γ) :
    (p >>= f).run.bind k = p.run.bind fun
      | .error g => k (.error g)
      | .ok a => (f a).run.bind k := by
  change (Program.bind p.run _).bind k = _
  refine Program.bind_assoc p.run _ k |>.trans (congrArg (Program.bind p.run) (funext fun result => ?_))
  cases result with
  | error g => rfl
  | ok a => rfl

theorem guarded_bind (s : Session) (p : Course α) (after : α → Turn) (k : Session × Turn → Program Answer γ) :
    (guarded s p after).bind k = p.run.bind fun
      | .error f => k (s, .last (.error f))
      | .ok a => k (s, after a) := by
  refine (Program.bind_assoc p.run _ k).trans (congrArg (Program.bind p.run) (funext fun result => ?_))
  cases result with
  | error g => rfl
  | ok a => rfl

end Parts

theorem escalate_turn (s : Session) (unended : Program Answer (Except Fault Report)) (turns : Nat) :
    (escalate s >>= fun _ => pure ⟨s, .exhausted⟩ : Course Report).run.bind (conclude s.id) =
      (loop (turns + 1) s .exhausted).bind (settle unended) := by
  change _ = ((guarded s (escalate s) _).bind _).bind _
  rw [course_bind, Program.bind_assoc, guarded_bind]
  refine congrArg (Program.bind (escalate s).run) (funext fun escalated => ?_)
  cases escalated with
  | error f => rfl
  | ok done => rfl

-- From a first look at the stop request, every failed attempt costs two turns, and the end at most three.
theorem attempts_turns (s : Session) (room : s.HasRoom) (unended : Program Answer (Except Fault Report))
    (turns : Nat) (enough : 2 * (limit s.ceiling - s.failures.toNat) + 1 ≤ turns) :
    (attempts s room).run.bind (conclude s.id) = (loop turns s .running).bind (settle unended) := by
  have below := room_below_limit s room
  have grows := failures_failed room
  obtain ⟨rest, rfl⟩ : ∃ rest, turns = rest + 3 := ⟨turns - 3, by omega⟩
  rw [attempts, stopRequested, course_bind]
  refine congrArg (Program.ask Call.stopRequested) (funext fun stopping => ?_)
  cases stopping with
  | true => rfl
  | false =>
      refine congrArg (Program.ask Call.attempt) (funext fun verdict => ?_)
      cases verdict with
      | error f => rfl
      | ok verdict =>
          cases verdict with
          | success => rfl
          | failure =>
              refine congrArg (Program.ask (Call.note _)) (funext fun _ => ?_)
              change Program.bind (record s.failed >>= _).run _ = ((guarded s.failed (record s.failed) _).bind _).bind _
              rw [course_bind, Program.bind_assoc, guarded_bind]
              refine congrArg (Program.bind (record s.failed).run) (funext fun recorded => ?_)
              cases recorded with
              | error f => rfl
              | ok done =>
                  by_cases more : s.failed.canRetry = true
                  · simp only [dif_pos more, if_pos more]
                    refine congrArg (Program.ask (Call.note _)) (funext fun _ => ?_)
                    refine attempts_turns s.failed (.inr more) unended (rest + 1) ?_
                    change 2 * (limit s.ceiling - _) + 1 ≤ _
                    omega
                  · simp only [dif_neg more, if_neg more]
                    exact congrArg (Program.ask (Call.note _)) (funext fun _ => escalate_turn s.failed unended rest)
termination_by s.ceiling.toNat - s.failures.toNat
decreasing_by
  have below : s.failed.failures.toNat < s.ceiling.toNat := (can_retry_iff s.failed).mp more
  change s.ceiling.toNat - _ < _
  omega

theorem supervise_turns (ceiling : UInt32) (unended : Program Answer (Except Fault Report)) :
    supervise ceiling = (loop (2 * limit ceiling + 2) (fresh ceiling) .init).bind (settle unended) := by
  refine congrArg (Program.ask Call.allocate) (funext fun allocated => ?_)
  cases allocated with
  | error f => rfl
  | ok id =>
      change (drive id ceiling).run.bind (conclude id) = ((guarded ⟨id, 0, ceiling⟩ (start id) _).bind _).bind _
      have same : drive id ceiling =
          start id >>= fun _ => transition id .init .running >>= fun _ => attempts ⟨id, 0, ceiling⟩ (.inl rfl) := by
        rw [drive, start, bind_assoc]
      rw [same, course_bind, Program.bind_assoc, guarded_bind]
      refine congrArg (Program.bind (start id).run) (funext fun started => ?_)
      cases started with
      | error f => rfl
      | ok done =>
          refine congrArg (Program.ask (Call.note _)) (funext fun _ => ?_)
          exact attempts_turns ⟨id, 0, ceiling⟩ (.inl rfl) unended _ (Nat.le_refl _)

inductive Turned (s : Session) : Phase → Session → Turn → Prop where
  | unallocated (f : Fault) : Turned s .init s (.last (.error f))
  | unstarted (id : UInt64) (f : Fault) : Turned s .init { s with id } (.last (.error f))
  | started (id : UInt64) : Turned s .init { s with id } (.next .running)
  | stopped : Turned s .running s (.last (.ok .cancelled))
  | broken (f : Fault) : Turned s .running s (.last (.error f))
  | passed : Turned s .running s (.next .succeeded)
  | failed : Turned s .running s (.next .retrying)
  | unrecorded (f : Fault) : Turned s .retrying s.failed (.last (.error f))
  | again (more : s.failed.canRetry = true) : Turned s .retrying s.failed (.next .running)
  | full (full : ¬s.failed.canRetry = true) : Turned s .retrying s.failed (.next .exhausted)
  | succeeded : Turned s .succeeded s (.last (.ok .succeeded))
  | unescalated (f : Fault) : Turned s .exhausted s (.last (.error f))
  | escalated : Turned s .exhausted s (.last (.ok .exhausted))

def transitionOf : Exchange → Option String
  | ⟨.note record, _⟩ => if record.level = .debug then some record.text else none
  | _ => none

def transitions (h : History) : List String := h.filterMap transitionOf

theorem transitions_append (a b : History) : transitions (a ++ b) = transitions a ++ transitions b :=
  List.filterMap_append

theorem runs_turn {s s' : Session} {t t' : Turn} {h : History} (run : Runs (.done (s, t)) h (s', t')) :
    h = [] ∧ s' = s ∧ t' = t := by
  obtain ⟨silent, same⟩ := Program.runs_done run
  obtain ⟨session, turn⟩ := Prod.mk.inj same
  exact ⟨silent, session, turn⟩

theorem guarded_course {α : Type} {s s' : Session} {p : Course α} {after : α → Turn} {h : History} {t : Turn}
    (run : Runs (guarded s p after) h (s', t)) :
    s' = s ∧ ((∃ f, Runs p.run h (.error f) ∧ t = .last (.error f)) ∨ ∃ a, Runs p.run h (.ok a) ∧ t = after a) := by
  obtain ⟨first, result, second, rfl, inside, ending⟩ := Program.runs_bind run
  cases result with
  | error f =>
      obtain ⟨rfl, rfl, rfl⟩ := runs_turn ending
      rw [List.append_nil]
      exact ⟨rfl, .inl ⟨f, inside, rfl⟩⟩
  | ok a =>
      obtain ⟨rfl, rfl, rfl⟩ := runs_turn ending
      rw [List.append_nil]
      exact ⟨rfl, .inr ⟨a, inside, rfl⟩⟩

theorem start_silent {id : UInt64} {h : History} {r : Except Fault Unit} (run : Runs (start id).run h r) :
    transitions h = [] := by
  rcases part_course run with ⟨f, call, rfl⟩ | ⟨first, a, rest, rfl, call, logging⟩
  · obtain rfl := Program.runs_call call
    rfl
  · obtain rfl := Program.runs_call call
    obtain rfl := Program.runs_call logging
    rfl

theorem recorded_unmoved {s : Session} {h : History} {r : Except Fault Unit} (run : Recorded s h r) :
    transitions h = [] := by
  cases run <;> rfl

theorem escalated_unmoved {s : Session} {h : History} {r : Except Fault Unit} (run : Escalated s h r) :
    transitions h = [] := by
  cases run <;> rfl

theorem turn_course {s s' : Session} {p : Phase} {h : History} {t : Turn} (run : Runs (turn s p) h (s', t)) :
    Turned s p s' t ∧ transitions h = [] := by
  cases p with
  | init =>
      obtain ⟨allocated, rest, rfl, starting⟩ := Program.runs_call_bind run
      cases allocated with
      | error f =>
          obtain ⟨rfl, rfl, rfl⟩ := runs_turn starting
          exact ⟨.unallocated f, rfl⟩
      | ok id =>
          rcases guarded_course starting with ⟨rfl, ⟨f, inside, rfl⟩ | ⟨a, inside, rfl⟩⟩
          · have silent : transitions rest = [] := start_silent inside
            exact ⟨.unstarted id f, silent⟩
          · have silent : transitions rest = [] := start_silent inside
            exact ⟨.started id, silent⟩
  | running =>
      obtain ⟨stopping, rest, rfl, trying⟩ := Program.runs_call_bind run
      cases stopping with
      | true =>
          obtain ⟨rfl, rfl, rfl⟩ := runs_turn trying
          exact ⟨.stopped, rfl⟩
      | false =>
          rcases guarded_course trying with ⟨rfl, ⟨f, inside, rfl⟩ | ⟨verdict, inside, rfl⟩⟩
          · obtain rfl := Program.runs_call inside
            exact ⟨.broken f, rfl⟩
          · obtain rfl := Program.runs_call inside
            cases verdict with
            | success => exact ⟨.passed, rfl⟩
            | failure => exact ⟨.failed, rfl⟩
  | retrying =>
      rcases guarded_course run with ⟨rfl, ⟨f, inside, rfl⟩ | ⟨a, inside, rfl⟩⟩
      · exact ⟨.unrecorded f, recorded_unmoved (recorded_course inside)⟩
      · refine ⟨?_, recorded_unmoved (recorded_course inside)⟩
        by_cases more : s.failed.canRetry = true
        · rw [if_pos more]
          exact .again more
        · rw [if_neg more]
          exact .full more
  | succeeded =>
      obtain ⟨rfl, rfl, rfl⟩ := runs_turn run
      exact ⟨.succeeded, rfl⟩
  | exhausted =>
      rcases guarded_course run with ⟨rfl, ⟨f, inside, rfl⟩ | ⟨a, inside, rfl⟩⟩
      · exact ⟨.unescalated f, escalated_unmoved (escalated_course inside)⟩
      · exact ⟨.escalated, escalated_unmoved (escalated_course inside)⟩

end Overseer.Session
