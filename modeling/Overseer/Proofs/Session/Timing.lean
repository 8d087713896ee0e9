import Overseer.Proofs.Session.Origin
import Overseer.Proofs.Session.Stopping
import Overseer.Proofs.Workload.Deadline

set_option autoImplicit false

namespace Overseer.Session

open Workload (Clocked started)

variable {σ : Type}

def CountedFrom (id : UInt64) : Nat → History → Prop
  | _, [] => True
  | n, e :: rest =>
    (isFailure e = true → ∃ count told later,
      rest = moved id .running .retrying :: ⟨.update id count, told⟩ :: later ∧ count.toNat = n + 1) ∧
    CountedFrom id (n + (isFailure e).toNat) rest

def Unfailing (h : History) : Prop := ∀ e ∈ h, isFailure e = false

theorem counted_unfailing (id : UInt64) (n : Nat) (a b : History) (unfailing : Unfailing a)
    (counted : CountedFrom id n b) : CountedFrom id n (a ++ b) := by
  induction a with
  | nil => exact counted
  | cons e rest ih =>
      obtain ⟨calm, others⟩ := List.forall_mem_cons.mp unfailing
      refine ⟨fun failure => absurd failure (by rw [calm]; nofun), ?_⟩
      rw [calm]
      exact ih others

theorem counted_none (id : UInt64) (n : Nat) (h : History) (unfailing : Unfailing h) : CountedFrom id n h := by
  have counted := counted_unfailing id n h [] unfailing trivial
  rwa [List.append_nil] at counted

theorem counted_failing (s : Session) (room : s.HasRoom) (told : Except Fault Unit) (rest : History)
    (later : CountedFrom s.id s.failed.failures.toNat rest) :
    CountedFrom s.id s.failures.toNat (failing s ++ ⟨.update s.failed.id s.failed.failures, told⟩ :: rest) := by
  have grows := failures_failed room
  rw [grows] at later
  refine ⟨nofun, fun _ => ⟨s.failed.failures, told, rest, rfl, grows⟩, nofun, nofun, later⟩

theorem recorded_unfailing (s : Session) (h : History) (r : Except Fault Unit) (run : Recorded s h r) :
    ∃ told rest, h = ⟨.update s.id s.failures, told⟩ :: rest ∧ Unfailing rest := by
  cases run with
  | unsaved f => exact ⟨.error f, [], rfl, List.forall_mem_nil _⟩
  | uncounted f => exact ⟨.ok (), _, rfl, by simp [Unfailing, lost, isFailure]⟩
  | unfinished f => exact ⟨.ok (), _, rfl, by simp [Unfailing, logged, lost, isFailure]⟩
  | whole => exact ⟨.ok (), _, rfl, by simp [Unfailing, logged, isFailure]⟩

theorem escalated_unfailing (s : Session) (h : History) (r : Except Fault Unit) (run : Escalated s h r) :
    Unfailing h := by
  cases run <;> simp [Unfailing, logged, lost, noted, isFailure]

theorem unfailing_append (a b : History) (first : Unfailing a) (second : Unfailing b) : Unfailing (a ++ b) :=
  List.forall_mem_append.mpr ⟨first, second⟩

theorem counted_again (s : Session) (room : s.HasRoom) (a b : Phase) (h : History)
    (later : CountedFrom s.id s.failed.failures.toNat h) :
    CountedFrom s.id s.failures.toNat (failing s ++ recorded s.failed ++ moved s.id a b :: h) := by
  rw [List.append_assoc]
  refine counted_failing s room (.ok ()) _ ?_
  exact counted_unfailing s.id _ [_, _, _] h (by simp [Unfailing, logged, moved, noted, isFailure]) later

theorem attempted_counted (s : Session) (room : s.HasRoom) (h : History) (r : Except Fault Report)
    (run : Attempted s h r) (closing : History) (unfailing : Unfailing closing) :
    CountedFrom s.id s.failures.toNat (h ++ closing) ∧
      ∀ report, r = .ok report → report.session.failures.toNat = s.failures.toNat + failureCount h := by
  induction run with
  | stopped s =>
      refine ⟨counted_none _ _ _ (unfailing_append _ _ (by simp [Unfailing, isFailure]) unfailing), ?_⟩
      rintro report ⟨rfl⟩
      rfl
  | broken s f => exact ⟨counted_none _ _ _ (unfailing_append _ _ (by simp [Unfailing, isFailure]) unfailing), nofun⟩
  | passed s =>
      refine ⟨counted_none _ _ _ (unfailing_append _ _ (by simp [Unfailing, moved, noted, isFailure]) unfailing), ?_⟩
      rintro report ⟨rfl⟩
      rfl
  | unrecorded s f h record =>
      obtain ⟨told, rest, rfl, calm⟩ := recorded_unfailing s.failed h _ record
      refine ⟨?_, nofun⟩
      rw [List.append_assoc]
      exact counted_failing s room told _ (counted_none _ _ _ (unfailing_append _ _ calm unfailing))
  | again s h r more later ih =>
      obtain ⟨counted, total⟩ := ih (.inr more)
      refine ⟨?_, fun report same => ?_⟩
      · rw [List.append_assoc]
        exact counted_again s room _ _ _ counted
      · rw [total report same, List.append_cons, failure_count_append, failure_count_failing, failures_failed room,
          Nat.add_assoc]
  | exhausted s h told full escalation =>
      have calm := escalated_unfailing s.failed h told escalation
      refine ⟨?_, fun report same => ?_⟩
      · rw [List.append_assoc]
        exact counted_again s room _ _ _ (counted_none _ _ _ (unfailing_append _ _ calm unfailing))
      · have none : failureCount h = 0 := List.countP_eq_zero.mpr fun e member => by simp [calm e member]
        cases told with
        | error f => cases same
        | ok done =>
            obtain rfl := Except.ok.inj same
            rw [List.append_cons, failure_count_append, failure_count_failing, none]
            exact failures_failed room

theorem driven_counted (id : UInt64) (ceiling : UInt32) (h : History) (r : Except Fault Report)
    (run : Driven id ceiling h r) (closing : History) (unfailing : Unfailing closing) :
    CountedFrom id 0 (h ++ closing) ∧
      ∀ report, r = .ok report → report.session.failures.toNat = failureCount h := by
  cases run with
  | unbegun f => exact ⟨counted_none _ _ _ (unfailing_append _ _ (by simp [Unfailing, isFailure]) unfailing), nofun⟩
  | unstarted f =>
      exact ⟨counted_none _ _ _ (unfailing_append _ _ (by simp [Unfailing, lost, isFailure]) unfailing), nofun⟩
  | started h r attempts =>
      obtain ⟨counted, total⟩ := attempted_counted _ (.inl rfl) h r attempts closing unfailing
      refine ⟨?_, fun report same => ?_⟩
      · rw [List.append_assoc]
        exact counted_unfailing id 0 (opening id) _ (by simp [Unfailing, opening, logged, moved, noted, isFailure]) counted
      · have none : failureCount (opening id) = 0 := rfl
        rw [total report same, failure_count_append, none]
        rfl

theorem counted_at (id : UInt64) (n : Nat) (before after : History)
    (counted : CountedFrom id n (before ++ ⟨.attempt, .ok .failure⟩ :: after)) :
    ∃ count told later, after = moved id .running .retrying :: ⟨.update id count, told⟩ :: later ∧
      count.toNat = n + failureCount before + 1 := by
  induction before generalizing n with
  | nil => exact counted.1 rfl
  | cons e rest ih =>
      obtain ⟨count, told, later, shape, number⟩ := ih _ counted.2
      refine ⟨count, told, later, shape, ?_⟩
      have one : failureCount [e] = (isFailure e).toNat := by cases same : isFailure e <;> simp [failureCount, same]
      rw [number, ← List.singleton_append, failure_count_append, one, ← Nat.add_assoc]

-- What becomes of the failed attempts of a run: each is counted at once, and the report tells how many there were.
structure Counts (h : History) (r : Except Fault Report) : Prop where
  once : ∀ before after, h = before ++ ⟨.attempt, .ok .failure⟩ :: after → ∃ id count told later,
    ⟨.allocate, .ok id⟩ ∈ before ∧ after = moved id .running .retrying :: ⟨.update id count, told⟩ :: later ∧
      count.toNat = failureCount before + 1
  total : ∀ report, r = .ok report → report.session.failures.toNat = failureCount h

theorem allocated_counts (id : UInt64) (h : History) (r : Except Fault Report) (counted : CountedFrom id 0 h)
    (total : ∀ report, r = .ok report → report.session.failures.toNat = failureCount h) :
    Counts (⟨.allocate, .ok id⟩ :: h) r := by
  refine ⟨fun before after split => ?_, total⟩
  cases before with
  | nil => cases split
  | cons e rest =>
      obtain ⟨rfl, rfl⟩ := List.cons_eq_cons.mp split
      obtain ⟨count, told, later, shape, number⟩ := counted_at id 0 rest after counted
      refine ⟨id, count, told, later, List.mem_cons_self, shape, ?_⟩
      rw [number, Nat.zero_add]
      rfl

theorem supervised_counts (ceiling : UInt32) (answer : (c : Call) → σ → Answer c × σ) (s : σ) :
    Counts ((supervise ceiling).history answer s) ((supervise ceiling).run answer s).1 := by
  obtain ⟨body, line, told, notes, shape, quiet, supervised⟩ := supervised_history ceiling answer s
  have calm : Unfailing (⟨.log line, told⟩ :: notes) := by
    refine List.forall_mem_cons.mpr ⟨rfl, fun e member => ?_⟩
    obtain ⟨c, given⟩ := e
    obtain ⟨record, rfl⟩ : ∃ record, c = .note record := quiet _ member
    rfl
  have none : failureCount (⟨.log line, told⟩ :: notes) = 0 := List.countP_eq_zero.mpr fun e member => by simp [calm e member]
  rw [shape]
  generalize ((supervise ceiling).run answer s).1 = r at supervised
  cases supervised with
  | unallocated f =>
      refine ⟨fun before after split => ?_, nofun⟩
      have all := unfailing_append [⟨.allocate, .error f⟩] _ (List.forall_mem_singleton.mpr rfl) calm
      exact absurd (all ⟨.attempt, .ok .failure⟩ (by rw [split]; simp)) nofun
  | faulted id f body told notes driven =>
      obtain ⟨counted, -⟩ := driven_counted id ceiling body _ (driven_course driven) _ calm
      exact allocated_counts id _ _ counted nofun
  | finished id report body told notes driven =>
      obtain ⟨counted, total⟩ := driven_counted id ceiling body _ (driven_course driven) _ calm
      refine allocated_counts id _ _ counted fun own same => ?_
      have whole : failureCount (body ++ ⟨.log report.summary, told⟩ :: notes) = failureCount body := by
        rw [failure_count_append, none, Nat.add_zero]
      refine Eq.trans ?_ whole.symm
      cases told with
      | error f => cases same
      | ok done =>
          obtain rfl := Except.ok.inj same
          exact total report rfl

section Limit

variable (e : Clocked σ) (directory : Option String) (steps : List Workload.Step) (limit : Nat)

-- An attempt under a limit beside the one without.
structure Limits (s : σ) : Prop where
  early : e.finish directory steps s < e.time s + limit →
    (⟨steps, some limit, directory⟩ : Workload).attempt.run e.answer s =
        (⟨steps, none, directory⟩ : Workload).attempt.run e.answer s ∧
      ((⟨steps, some limit, directory⟩ : Workload).attempt.history e.answer s).map Workload.unlimited =
        (⟨steps, none, directory⟩ : Workload).attempt.history e.answer s
  late : e.time s + limit < e.finish directory steps s →
    ((⟨steps, some limit, directory⟩ : Workload).attempt.run e.answer s).1 = .ok .failure ∧
      started ((⟨steps, some limit, directory⟩ : Workload).attempt.history e.answer s) =
        ((e.freely directory steps s).filter fun leg => leg.start < e.time s + limit).map Workload.Leg.call ∧
      started ((⟨steps, some limit, directory⟩ : Workload).attempt.history e.answer s) <+:
        started ((⟨steps, none, directory⟩ : Workload).attempt.history e.answer s)

structure Tells (s : σ) (given : Answer .attempt) : Prop where
  early : e.finish directory steps s < e.time s + limit →
    given = ((⟨steps, none, directory⟩ : Workload).attempt.run e.answer s).1.mapError Workload.Unstartable.fault
  late : e.time s + limit < e.finish directory steps s → given = .ok .failure

theorem limits_only_fail_slow_attempts :
    (∀ s, e.Apart directory steps s (e.time s + limit) → Limits e directory steps limit s) ∧
    ∀ (sup : Supervisor) (s : σ), sup.workload = ⟨steps, some limit, directory⟩ →
      (∀ before given after,
        (supervise sup.ceiling).history (sup.served e.answer) s = before ++ ⟨.attempt, given⟩ :: after →
        (sup.served e.answer .attempt (Program.leave (sup.served e.answer) s before)).1 = given) ∧
      (∀ t, e.Apart directory steps t (e.time t + limit) →
        Tells e directory steps limit t (sup.served e.answer .attempt t).1) ∧
      Counts ((supervise sup.ceiling).history (sup.served e.answer) s) (sup.run.run e.answer s).1 := by
  refine ⟨fun s apart => ⟨e.attempt_early directory steps s limit, e.attempt_late directory steps s limit apart⟩, ?_⟩
  intro sup s workload
  refine ⟨fun before given after split => ?_, fun t apart => ?_, ?_⟩
  · have told := Program.history_given (sup.served e.answer) (supervise sup.ceiling) s
    rw [split, Program.given_append] at told
    exact told.2.1
  · have served : (sup.served e.answer .attempt t).1 =
        ((⟨steps, some limit, directory⟩ : Workload).attempt.run e.answer t).1.mapError Workload.Unstartable.fault := by
      rw [← workload]
      exact congrArg Prod.fst (Program.run_bind _ _ _ _)
    refine ⟨fun early => ?_, fun late => ?_⟩
    · rw [served, (e.attempt_early directory steps t limit early).1]
    · rw [served, (e.attempt_late directory steps t limit apart late).1]
      rfl
  · have run : sup.run.run e.answer s = (supervise sup.ceiling).run (sup.served e.answer) s :=
      Program.run_through sup.answer e.answer _ s
    rw [run]
    exact supervised_counts sup.ceiling (sup.served e.answer) s

end Limit

def bare : Clocked Host.Machine :=
  .ofMachine Host.Machine.noPrograms (fun _ _ => nofun) fun _ =>
    { forward := fun _ => Nat.le_refl _
      lasting := fun _ _ => nofun
      same := fun _ _ _ => rfl
      cut := fun _ _ late => absurd late (Nat.not_lt.mpr (Nat.le_add_right _ _)) }

-- Attempts that take two seconds before they are found impossible, and are given one.
def hasty : Supervisor where
  store := ⟨"counters", "run"⟩
  sink := ⟨"log", false⟩
  workload := ⟨[.sleep 2, .command "none" []], some 1000000, none⟩
  notifier := .log
  ceiling := 1

theorem impossible_attempt_cut_short :
    ((⟨[.sleep 2, .command "none" []], none, none⟩ : Workload).attempt.run bare.answer .fresh).1 =
        .error ⟨"none", .unstarted .missing⟩ ∧
      (hasty.workload.attempt.run bare.answer .fresh).1 = .ok .failure ∧
      started (hasty.workload.attempt.history bare.answer .fresh) = [.pause 2000000 none] ∧
      (hasty.served bare.answer .attempt .fresh).1 = .ok .failure ∧
      Counts ((supervise 1).history (hasty.served bare.answer) .fresh) (hasty.run.run bare.answer .fresh).1 := by
  have apart : bare.Apart none [.sleep 2, .command "none" []] .fresh 1000000 := by
    unfold Clocked.Apart
    decide +kernel
  have late : 1000000 < bare.finish none [.sleep 2, .command "none" []] .fresh := by decide +kernel
  obtain ⟨limits, sessions⟩ := limits_only_fail_slow_attempts bare none [.sleep 2, .command "none" []] 1000000
  obtain ⟨failed, cut, -⟩ := (limits .fresh apart).late late
  obtain ⟨-, tells, counts⟩ := sessions hasty .fresh rfl
  exact ⟨rfl, failed, cut.trans rfl, (tells .fresh apart).late late, counts⟩

end Overseer.Session
