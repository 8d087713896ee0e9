import Overseer.CommandLine.Run
import Overseer.Proofs.Session.Stored

set_option autoImplicit false

namespace Overseer.Session

open CommandLine (Outcome.ofSession)
open Program (Runs)
open Text (Numeral.word64)

variable {σ : Type}

inductive Ended (ceiling : UInt32) : History → String → Prop where
  | unallocated (f : Fault) :
      Ended ceiling [⟨.allocate, .error f⟩] ("Supervisor aborted before session allocation: " ++ f.message)
  | aborted (id : UInt64) (f : Fault) (rest : History) (allocated : 1 ≤ id)
      (driven : Runs (drive id ceiling).run rest (.error f)) :
      Ended ceiling (⟨.allocate, .ok id⟩ :: rest) ("Session " ++ Numeral.word64 id ++ " aborted: " ++ f.message)
  | reported (report : Report) (rest : History) (allocated : 1 ≤ report.session.id)
      (driven : Runs (drive report.session.id ceiling).run rest (.ok report)) :
      Ended ceiling (⟨.allocate, .ok report.session.id⟩ :: rest) report.summary

-- No log call of the history is a closing one, whether or not the log takes the line.
def Open (h : History) : Prop := ∀ message told, ⟨.log message, told⟩ ∈ h → ¬IsClosing message

theorem within_open (id : UInt64) (h : History) (within : AllWithin id h) : Open h := by
  intro message told member
  have call : Within id (.log message) := within _ member
  cases call with
  | counting count => exact increment_not_closing count
  | restarting => exact restart_not_closing
  | escalating count => exact escalation_not_closing count
  | regretting reason => exact undelivered_not_closing reason

theorem open_cons (e : Exchange) (h : History) (first : ∀ message, e.1 = .log message → ¬IsClosing message)
    (others : Open h) : Open (e :: h) := by
  intro message told member
  rcases List.mem_cons.mp member with rfl | later
  · exact first message rfl
  · exact others message told later

theorem driven_open (id : UInt64) (ceiling : UInt32) (h : History) (r : Except Fault Report)
    (driven : Driven id ceiling h r) : Open h := by
  have starting (told : Except Fault Unit) : ∀ message,
      (⟨.log startMessage, told⟩ : Exchange).1 = .log message → ¬IsClosing message := by
    rintro message ⟨⟩
    exact start_not_closing
  have nothing : Open [] := by simp [Open]
  cases driven with
  | unbegun f => exact open_cons _ _ (by simp) nothing
  | unstarted f => exact open_cons _ _ (by simp) (open_cons _ _ (starting _) nothing)
  | started h r attempted =>
      apply open_cons _ _ (by simp)
      apply open_cons _ _ (starting _)
      exact open_cons _ _ (by simp [moved, noted]) (within_open id h (attempted_within attempted))

theorem kept_recorded (s : Session) (count : Option UInt32) :
    kept s.id count (recorded s) = some s.failures := by
  simp [kept, recorded, saved, logged, written]

theorem kept_failing (s : Session) (id : UInt64) (count : Option UInt32) : kept id count (failing s) = count := by
  simp [kept, failing, moved, noted, written]

theorem kept_escalated (s : Session) (id : UInt64) (count : Option UInt32) (h : History) (r : Except Fault Unit)
    (run : Escalated s h r) : kept id count h = count := by
  cases run <;> simp [kept, logged, lost, noted, written]

theorem kept_closing (id : UInt64) (count : Option UInt32) (line : String) (told : Except Fault Unit) (notes : History)
    (quiet : ∀ e ∈ notes, IsNote e) : kept id count (⟨.log line, told⟩ :: notes) = count := by
  change kept id count notes = count
  induction notes with
  | nil => rfl
  | cons e rest ih =>
      obtain ⟨⟨diagnostic, note⟩, others⟩ := List.forall_mem_cons.mp quiet
      obtain ⟨c, x⟩ := e
      obtain rfl : c = .note diagnostic := note
      exact ih others

theorem attempted_kept (s : Session) (h : History) (r : Except Fault Report) (report : Report)
    (run : Attempted s h r) (result : r = .ok report) :
    report.session.id = s.id ∧ kept s.id (some s.failures) h = some report.session.failures := by
  induction run with
  | stopped s =>
      cases result
      exact ⟨rfl, rfl⟩
  | broken s f => cases result
  | passed s =>
      cases result
      exact ⟨rfl, rfl⟩
  | unrecorded s f h record => cases result
  | again s h r more later ih =>
      obtain ⟨same, count⟩ := ih result
      refine ⟨same, ?_⟩
      rw [kept_append, kept_append, kept_failing]
      have step := kept_recorded s.failed (some s.failures)
      exact (congrArg (fun count => kept s.id count (moved s.id .retrying .running :: h)) step).trans count
  | exhausted s h told full escalation =>
      cases told with
      | error f => cases result
      | ok done =>
          cases result
          refine ⟨rfl, ?_⟩
          rw [kept_append, kept_append, kept_failing]
          have step := kept_recorded s.failed (some s.failures)
          have rest := kept_escalated s.failed s.id (some s.failed.failures) h _ escalation
          exact (congrArg (fun count => kept s.id count (moved s.id .retrying .exhausted :: h)) step).trans rest

theorem driven_kept (id : UInt64) (ceiling : UInt32) (count : Option UInt32) (h : History) (report : Report)
    (run : Driven id ceiling h (.ok report)) :
    report.session.id = id ∧ kept id count h = some report.session.failures := by
  generalize result : Except.ok report = r at run
  cases run with
  | unbegun f => cases result
  | unstarted f => cases result
  | started h r attempted =>
      obtain ⟨same, last⟩ := attempted_kept _ h r report attempted result.symm
      refine ⟨same, ?_⟩
      rw [kept_append]
      simpa [kept, opening, logged, moved, noted, written] using last

theorem supervised_kept (ceiling : UInt32) (count : Option UInt32) (body : History) (line : String)
    (told : Except Fault Unit) (notes : History) (r : Except Fault Report) (report : Report)
    (run : Supervised ceiling body line told notes r) (quiet : ∀ e ∈ notes, IsNote e) (result : r = .ok report) :
    kept report.session.id count (body ++ ⟨.log line, told⟩ :: notes) = some report.session.failures := by
  rw [kept_append, kept_closing _ _ line told notes quiet]
  cases run with
  | unallocated f => cases result
  | faulted id f => cases result
  | finished id own body told notes driven =>
      cases told with
      | error g => cases result
      | ok done =>
          cases result
          obtain ⟨rfl, last⟩ := driven_kept id ceiling count body own (driven_course driven)
          exact last

theorem one_le_of_ne_zero (id : UInt64) (allocated : id ≠ 0) : 1 ≤ id := by
  rw [UInt64.le_iff_toNat_le]
  have positive : id.toNat ≠ 0 := fun zero => allocated (UInt64.toNat_inj.mp zero)
  exact Nat.one_le_iff_ne_zero.mpr positive

theorem supervised_ended (ceiling : UInt32) (body : History) (line : String) (told : Except Fault Unit)
    (notes : History) (r : Except Fault Report) (run : Supervised ceiling body line told notes r)
    (positive : ∀ id rest, body = ⟨.allocate, .ok id⟩ :: rest → id ≠ 0) : Ended ceiling body line := by
  cases run with
  | unallocated f => exact .unallocated f
  | faulted id f body told notes driven =>
      have allocated := positive id body rfl
      rw [abort_allocated id f.message allocated]
      exact .aborted id f body (one_le_of_ne_zero id allocated) driven
  | finished id report body told notes driven =>
      obtain ⟨rfl, -⟩ := driven_kept id ceiling none body report (driven_course driven)
      exact .reported report body (one_le_of_ne_zero _ (positive _ body rfl)) driven

theorem supervised_open (ceiling : UInt32) (body : History) (line : String) (told : Except Fault Unit)
    (notes : History) (r : Except Fault Report) (run : Supervised ceiling body line told notes r) : Open body := by
  have nothing : Open [] := by simp [Open]
  cases run with
  | unallocated f => exact open_cons _ _ (by simp) nothing
  | faulted id f body told notes driven =>
      exact open_cons _ _ (by simp) (driven_open id ceiling body _ (driven_course driven))
  | finished id report body told notes driven =>
      exact open_cons _ _ (by simp) (driven_open id ceiling body _ (driven_course driven))

theorem exit_code_inj (a b : Outcome) : a.exitCode = b.exitCode ↔ a = b := by
  cases a <;> cases b <;> decide

theorem exit_code_ne_two (a : Outcome) : a.exitCode ≠ 2 := by
  cases a <;> decide

-- What the closing line and its fate say about the result of the run and about the program's code.
structure Agrees (body : History) (line : String) (told : Except Fault Unit) (r : Except Fault Report) : Prop where
  reported : (∃ report, r = .ok report) ↔ told = .ok () ∧ ∃ report : Report, line = report.summary
  summary : ∀ report, r = .ok report → line = report.summary
  code : ∀ outcome : Outcome, (CommandLine.Outcome.ofSession r).code = outcome.exitCode ↔
    told = .ok () ∧ ∃ session : Session, ⟨.allocate, .ok session.id⟩ ∈ body ∧
      line = (⟨session, outcome⟩ : Report).summary
  fatal : (CommandLine.Outcome.ofSession r).code = 2 ↔ ∃ f, r = .error f

theorem agrees_fault (body : History) (line : String) (told : Except Fault Unit) (f : Fault)
    (unreported : ¬(told = .ok () ∧ ∃ report : Report, line = report.summary)) :
    Agrees body line told (.error f) where
  reported := by
    constructor
    · rintro ⟨report, ⟨⟩⟩
    · exact fun reported => absurd reported unreported
  summary := by
    rintro report ⟨⟩
  code := by
    intro outcome
    constructor
    · exact fun code => absurd code.symm (exit_code_ne_two outcome)
    · rintro ⟨taken, session, -, same⟩
      exact absurd ⟨taken, _, same⟩ unreported
  fatal := ⟨fun _ => ⟨f, rfl⟩, fun _ => rfl⟩

theorem agrees_report (body : History) (report : Report) (allocated : ⟨.allocate, .ok report.session.id⟩ ∈ body) :
    Agrees body report.summary (.ok ()) (.ok report) where
  reported := ⟨fun _ => ⟨rfl, report, rfl⟩, fun _ => ⟨report, rfl⟩⟩
  summary := by
    rintro _ ⟨⟩
    rfl
  code := by
    intro outcome
    constructor
    · intro code
      obtain rfl := (exit_code_inj report.outcome outcome).mp code
      exact ⟨rfl, report.session, allocated, rfl⟩
    · rintro ⟨-, session, -, same⟩
      exact (exit_code_inj report.outcome outcome).mpr (summary_injective _ _ same).1
  fatal := by
    constructor
    · exact fun code => absurd code (exit_code_ne_two report.outcome)
    · rintro ⟨f, ⟨⟩⟩

theorem supervised_agrees (ceiling : UInt32) (body : History) (line : String) (told : Except Fault Unit)
    (notes : History) (r : Except Fault Report) (run : Supervised ceiling body line told notes r) :
    Agrees body line told r := by
  cases run with
  | unallocated f =>
      apply agrees_fault
      rintro ⟨-, report, same⟩
      exact summary_ne_abort report 0 f.message same.symm
  | faulted id f =>
      apply agrees_fault
      rintro ⟨-, report, same⟩
      exact summary_ne_abort report id f.message same.symm
  | finished id report body told notes driven =>
      obtain ⟨rfl, -⟩ := driven_kept id ceiling none body report (driven_course driven)
      cases told with
      | error g =>
          apply agrees_fault
          rintro ⟨⟨⟩, -⟩
      | ok done => exact agrees_report _ report List.mem_cons_self

theorem allocated_ne_zero (ceiling : UInt32) (store : Counter.Store) (answer : (c : Call) → σ → Answer c × σ) (s : σ)
    (allocating : ∃ calls found, Runs store.allocate calls found ∧
      (answer .allocate s).1 = found.mapError Counter.Failure.fault) (id : UInt64) (rest : History)
    (split : (supervise ceiling).history answer s = ⟨.allocate, .ok id⟩ :: rest) : id ≠ 0 := by
  have given := Program.history_given answer (supervise ceiling) s
  rw [split] at given
  obtain ⟨calls, found, run, answered⟩ := allocating
  rw [given.1] at answered
  cases found with
  | error f => cases answered
  | ok chosen =>
      cases answered
      exact Counter.allocate_ne_zero calls id run

theorem closing_line_agrees (ceiling : UInt32) (store : Counter.Store) (w : Watch σ) (s : σ)
    (allocating : ∃ calls found, Runs store.allocate calls found ∧
      (w.answer .allocate s).1 = found.mapError Counter.Failure.fault) :
    ∃ body line told notes,
      (supervise ceiling).history w.answer s = body ++ ⟨.log line, told⟩ :: notes ∧
      (∀ e ∈ notes, IsNote e) ∧ IsClosing line ∧ Open body ∧ Ended ceiling body line ∧
      Agrees body line told ((supervise ceiling).run w.answer s).1 ∧
      ∀ report, ((supervise ceiling).run w.answer s).1 = .ok report → report.session.id = w.id →
        w.count ((supervise ceiling).run w.answer s).2 = some report.session.failures := by
  obtain ⟨body, line, told, notes, split, quiet, supervised⟩ := supervised_history ceiling w.answer s
  refine ⟨body, line, told, notes, split, quiet, supervised_line _ _ _ _ _ _ supervised,
    supervised_open _ _ _ _ _ _ supervised, ?_, supervised_agrees _ _ _ _ _ _ supervised, ?_⟩
  · apply supervised_ended _ _ _ _ _ _ supervised
    rintro id rest rfl
    exact allocated_ne_zero ceiling store w.answer s allocating id _ split
  · intro report result own
    rw [count_after, split, ← own]
    exact supervised_kept ceiling _ body line told notes _ report supervised quiet result

theorem closing_line_agrees_stored :
    ∃ s : { s // stubborn.disk.Sound s }, s.1 = (Host.Machine.fresh, 0) ∧
      ∃ body line told notes,
        (supervise 1).history stubborn.watch.answer s = body ++ ⟨.log line, told⟩ :: notes ∧
        (∀ e ∈ notes, IsNote e) ∧ IsClosing line ∧ Open body ∧ Ended 1 body line ∧
        Agrees body line told ((supervise 1).run stubborn.watch.answer s).1 ∧
        ∀ report, ((supervise 1).run stubborn.watch.answer s).1 = .ok report → report.session.id = 1 →
          stubborn.watch.count ((supervise 1).run stubborn.watch.answer s).2 = some report.session.failures := by
  let s : { s // stubborn.disk.Sound s } := ⟨(Host.Machine.fresh, 0), Counter.housed_absent Counter.counters_absent.1⟩
  exact ⟨s, rfl, closing_line_agrees 1 _ stubborn.watch s (stubborn.allocating s)⟩

end Overseer.Session
