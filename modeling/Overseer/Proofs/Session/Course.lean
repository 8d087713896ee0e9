import Overseer.Proofs.Program.History
import Overseer.Proofs.Session.Messages
import Overseer.Session.Supervisor
/-!
The courses that a run can take. What the supervisor's loop asks and is answered is listed once, case
by case; every other fact about runs is read off these lists.
-/
set_option autoImplicit false

namespace Overseer.Session

open Program (Runs)
open Text (Numeral.word64)

abbrev Exchange : Type := Program.Exchange Answer

abbrev History : Type := List Exchange

def noted (level : Level) (text : String) : Exchange := ⟨.note ⟨level, text⟩, ()⟩

def moved (id : UInt64) (a b : Phase) : Exchange :=
  noted .debug ("Session " ++ Numeral.word64 id ++ ": " ++ a.label ++ " -> " ++ b.label)

def logged (message : String) : Exchange := ⟨.log message, .ok ()⟩

def lost (message : String) (f : Fault) : Exchange := ⟨.log message, .error f⟩

def saved (s : Session) : Exchange := ⟨.update s.id s.failures, .ok ()⟩

def failing (s : Session) : History :=
  [⟨.stopRequested, false⟩, ⟨.attempt, .ok .failure⟩, moved s.id .running .retrying]

def recorded (s : Session) : History :=
  [saved s, logged (incrementMessage s.failures), logged restartMessage]

def opening (id : UInt64) : History :=
  [⟨.begin id, .ok ()⟩, logged startMessage, moved id .init .running]

inductive Recorded (s : Session) : History → Except Fault Unit → Prop where
  | unsaved (f : Fault) : Recorded s [⟨.update s.id s.failures, .error f⟩] (.error f)
  | uncounted (f : Fault) : Recorded s [saved s, lost (incrementMessage s.failures) f] (.error f)
  | unfinished (f : Fault) :
      Recorded s [saved s, logged (incrementMessage s.failures), lost restartMessage f] (.error f)
  | whole : Recorded s (recorded s) (.ok ())

inductive Escalated (s : Session) : History → Except Fault Unit → Prop where
  | unannounced (f : Fault) : Escalated s [lost (escalationMessage s.failures) f] (.error f)
  | delivered : Escalated s
      [logged (escalationMessage s.failures), ⟨.notify s.id s.failures, .ok ()⟩] (.ok ())
  | undelivered (f : Fault) (told : Except Fault Unit) : Escalated s
      [logged (escalationMessage s.failures), ⟨.notify s.id s.failures, .error f⟩,
        noted .warn ("Escalation for session " ++ Numeral.word64 s.id ++ " failed: " ++ f.message),
        ⟨.log (undeliveredMessage f.message), told⟩] told

inductive Attempted : Session → History → Except Fault Report → Prop where
  | stopped (s : Session) : Attempted s [⟨.stopRequested, true⟩] (.ok ⟨s, .cancelled⟩)
  | broken (s : Session) (f : Fault) :
      Attempted s [⟨.stopRequested, false⟩, ⟨.attempt, .error f⟩] (.error f)
  | passed (s : Session) :
      Attempted s [⟨.stopRequested, false⟩, ⟨.attempt, .ok .success⟩, moved s.id .running .succeeded]
        (.ok ⟨s, .succeeded⟩)
  | unrecorded (s : Session) (f : Fault) (h : History) (record : Recorded s.failed h (.error f)) :
      Attempted s (failing s ++ h) (.error f)
  | again (s : Session) (h : History) (r : Except Fault Report) (more : s.failed.canRetry = true)
      (later : Attempted s.failed h r) :
      Attempted s (failing s ++ recorded s.failed ++ moved s.id .retrying .running :: h) r
  | exhausted (s : Session) (h : History) (told : Except Fault Unit) (full : ¬s.failed.canRetry = true)
      (escalation : Escalated s.failed h told) :
      Attempted s (failing s ++ recorded s.failed ++ moved s.id .retrying .exhausted :: h)
        (told.map fun _ => ⟨s.failed, .exhausted⟩)

inductive Driven (id : UInt64) (ceiling : UInt32) : History → Except Fault Report → Prop where
  | unbegun (f : Fault) : Driven id ceiling [⟨.begin id, .error f⟩] (.error f)
  | unstarted (f : Fault) : Driven id ceiling [⟨.begin id, .ok ()⟩, lost startMessage f] (.error f)
  | started (h : History) (r : Except Fault Report) (attempts : Attempted ⟨id, 0, ceiling⟩ h r) :
      Driven id ceiling (opening id ++ h) r

def IsNote (e : Exchange) : Prop := ∃ diagnostic, e.1 = .note diagnostic

-- What a run does before its closing line, the line and what the log says to it, the notes after it,
-- and the result.
inductive Supervised (ceiling : UInt32) :
    History → String → Except Fault Unit → History → Except Fault Report → Prop where
  | unallocated (f : Fault) (told : Except Fault Unit) (notes : History) :
      Supervised ceiling [⟨.allocate, .error f⟩] (abortMessage 0 f.message) told notes (.error f)
  | faulted (id : UInt64) (f : Fault) (body : History) (told : Except Fault Unit) (notes : History)
      (driven : Runs (drive id ceiling).run body (.error f)) :
      Supervised ceiling (⟨.allocate, .ok id⟩ :: body) (abortMessage id f.message) told notes (.error f)
  | finished (id : UInt64) (report : Report) (body : History) (told : Except Fault Unit) (notes : History)
      (driven : Runs (drive id ceiling).run body (.ok report)) (silent : ∀ g, told = .error g → notes = []) :
      Supervised ceiling (⟨.allocate, .ok id⟩ :: body) report.summary told notes (told.map fun _ => report)

section Parts

variable {α β : Type} {h : History} {r : Except Fault β}

theorem pure_course {a : β} (run : Runs (pure a : Course β).run h r) : h = [] ∧ r = .ok a :=
  Program.runs_done run

theorem lift_course {c : Call} {f : Answer c → Course β}
    (run : Runs (ExceptT.lift (ask c) >>= f).run h r) :
    ∃ x rest, h = ⟨c, x⟩ :: rest ∧ Runs (f x).run rest r := by
  obtain ⟨first, middle, rest, rfl, asked, later⟩ := Program.runs_bind run
  obtain ⟨x, lifted, rfl, lifting⟩ := Program.runs_call_bind asked
  obtain ⟨rfl, rfl⟩ := Program.runs_done lifting
  exact ⟨x, rest, rfl, later⟩

theorem note_course {level : Level} {text : String} {f : Unit → Course β}
    (run : Runs (ExceptT.lift (note level text) >>= f).run h r) :
    ∃ rest, h = noted level text :: rest ∧ Runs (f ()).run rest r := by
  obtain ⟨x, rest, rfl, later⟩ := lift_course run
  exact ⟨rest, rfl, later⟩

theorem part_course {p : Program Answer (Except Fault α)} {f : α → Course β}
    (run : Runs (ExceptT.mk p >>= f).run h r) :
    (∃ g, Runs p h (.error g) ∧ r = .error g) ∨
      ∃ first a rest, h = first ++ rest ∧ Runs p first (.ok a) ∧ Runs (f a).run rest r := by
  obtain ⟨first, middle, rest, rfl, asked, later⟩ := Program.runs_bind run
  cases middle with
  | error g =>
      obtain ⟨rfl, rfl⟩ := Program.runs_done later
      rw [List.append_nil]
      exact .inl ⟨g, asked, rfl⟩
  | ok a => exact .inr ⟨first, a, rest, rfl, asked, later⟩

theorem log_course {message : String} {f : Unit → Course β}
    (run : Runs (log message >>= f).run h r) :
    (∃ g, h = [lost message g] ∧ r = .error g) ∨
      ∃ rest, h = logged message :: rest ∧ Runs (f ()).run rest r := by
  rcases part_course run with ⟨g, call, rfl⟩ | ⟨first, a, rest, rfl, call, later⟩
  · exact .inl ⟨g, Program.runs_call call, rfl⟩
  · obtain rfl := Program.runs_call call
    exact .inr ⟨rest, rfl, later⟩

end Parts

variable {h : History}

theorem recorded_course {s : Session} {r : Except Fault Unit} (run : Runs (record s).run h r) :
    Recorded s h r := by
  rcases part_course run with ⟨f, update, rfl⟩ | ⟨first, a, rest, rfl, update, counting⟩
  · obtain rfl := Program.runs_call update
    exact .unsaved f
  · obtain rfl := Program.runs_call update
    rcases log_course counting with ⟨f, rfl, rfl⟩ | ⟨last, rfl, restarting⟩
    · exact .uncounted f
    · obtain rfl := Program.runs_call restarting
      cases r with
      | error f => exact .unfinished f
      | ok done => exact .whole

theorem escalated_course {s : Session} {r : Except Fault Unit} (run : Runs (escalate s).run h r) :
    Escalated s h r := by
  rcases log_course run with ⟨f, rfl, rfl⟩ | ⟨rest, rfl, notifying⟩
  · exact .unannounced f
  · obtain ⟨sent, last, rfl, telling⟩ := lift_course notifying
    cases sent with
    | ok delivered =>
        obtain ⟨rfl, rfl⟩ := pure_course telling
        exact .delivered
    | error f =>
        obtain ⟨told, rfl, logging⟩ := note_course telling
        obtain rfl := Program.runs_call logging
        exact .undelivered f r

theorem attempted_course (s : Session) (room : s.HasRoom) (h : History) (r : Except Fault Report)
    (run : Runs (attempts s room).run h r) : Attempted s h r := by
  rw [attempts] at run
  obtain ⟨stopping, rest, rfl, trying⟩ := lift_course run
  cases stopping with
  | true =>
      obtain ⟨rfl, rfl⟩ := pure_course trying
      exact .stopped s
  | false =>
      rcases part_course trying with ⟨f, call, rfl⟩ | ⟨first, verdict, rest, rfl, call, judging⟩
      · obtain rfl := Program.runs_call call
        exact .broken s f
      · obtain rfl := Program.runs_call call
        cases verdict with
        | success =>
            obtain ⟨last, rfl, ending⟩ := note_course judging
            obtain ⟨rfl, rfl⟩ := pure_course ending
            exact .passed s
        | failure =>
            obtain ⟨last, rfl, recording⟩ := note_course judging
            rcases part_course recording with ⟨f, part, rfl⟩ | ⟨second, a, last, rfl, part, deciding⟩
            · exact .unrecorded s f _ (recorded_course part)
            · cases recorded_course part
              by_cases more : s.failed.canRetry = true
              · rw [dif_pos more] at deciding
                obtain ⟨later, rfl, again⟩ := note_course deciding
                exact .again s later r more (attempted_course s.failed (.inr more) later r again)
              · rw [dif_neg more] at deciding
                obtain ⟨later, rfl, escalating⟩ := note_course deciding
                rcases part_course escalating with ⟨f, part, rfl⟩ | ⟨third, b, last, rfl, part, ending⟩
                · exact .exhausted s later (.error f) more (escalated_course part)
                · obtain ⟨rfl, rfl⟩ := pure_course ending
                  rw [List.append_nil]
                  exact .exhausted s third (.ok b) more (escalated_course part)
termination_by s.ceiling.toNat - s.failures.toNat
decreasing_by
  have grows := failures_failed room
  have below : s.failed.failures.toNat < s.failed.ceiling.toNat := by
    simpa [canRetry, UInt32.lt_iff_toNat_lt] using more
  have same : s.failed.ceiling = s.ceiling := rfl
  rw [same] at below ⊢
  omega

theorem driven_course {id : UInt64} {ceiling : UInt32} {r : Except Fault Report}
    (run : Runs (drive id ceiling).run h r) : Driven id ceiling h r := by
  rcases part_course run with ⟨f, call, rfl⟩ | ⟨first, a, rest, rfl, call, starting⟩
  · obtain rfl := Program.runs_call call
    exact .unbegun f
  · obtain rfl := Program.runs_call call
    rcases log_course starting with ⟨f, rfl, rfl⟩ | ⟨last, rfl, moving⟩
    · exact .unstarted f
    · obtain ⟨later, rfl, attempting⟩ := note_course moving
      exact .started later r (attempted_course _ _ later r attempting)

theorem abort_course {id : UInt64} {f : Fault} {r : Except Fault Report} (run : Runs (abort id f) h r) :
    r = .error f ∧ ∃ told notes, h = ⟨.log (abortMessage id f.message), told⟩ :: notes ∧ ∀ e ∈ notes, IsNote e := by
  obtain ⟨told, rest, rfl, noting⟩ := Program.runs_call_bind run
  cases told with
  | ok done =>
      obtain ⟨a, last, rfl, ending⟩ := Program.runs_call_bind noting
      obtain ⟨rfl, rfl⟩ := Program.runs_done ending
      exact ⟨rfl, .ok (), _, rfl, by simp [IsNote]⟩
  | error g =>
      obtain ⟨a, more, rfl, regretting⟩ := Program.runs_call_bind noting
      obtain ⟨b, last, rfl, ending⟩ := Program.runs_call_bind regretting
      obtain ⟨rfl, rfl⟩ := Program.runs_done ending
      exact ⟨rfl, .error g, _, rfl, by simp [IsNote]⟩

theorem close_course {report : Report} {r : Except Fault Report} (run : Runs (close report) h r) :
    ∃ told notes, h = ⟨.log report.summary, told⟩ :: notes ∧ (∀ e ∈ notes, IsNote e) ∧
      r = told.map (fun _ => report) ∧ ∀ g, told = .error g → notes = [] := by
  obtain ⟨told, rest, rfl, noting⟩ := Program.runs_call_bind run
  cases told with
  | ok done =>
      obtain ⟨a, last, rfl, ending⟩ := Program.runs_call_bind noting
      obtain ⟨rfl, rfl⟩ := Program.runs_done ending
      exact ⟨.ok (), _, rfl, by simp [IsNote], rfl, by rintro g ⟨⟩⟩
  | error g =>
      obtain ⟨rfl, rfl⟩ := Program.runs_done noting
      exact ⟨.error g, [], rfl, by simp, rfl, fun _ _ => rfl⟩

theorem supervised_course {ceiling : UInt32} {r : Except Fault Report} (run : Runs (supervise ceiling) h r) :
    ∃ body line told notes, h = body ++ ⟨.log line, told⟩ :: notes ∧ (∀ e ∈ notes, IsNote e) ∧
      Supervised ceiling body line told notes r := by
  obtain ⟨allocated, rest, rfl, driving⟩ := Program.runs_call_bind run
  cases allocated with
  | error f =>
      obtain ⟨rfl, told, notes, rfl, quiet⟩ := abort_course driving
      exact ⟨[⟨.allocate, .error f⟩], _, told, notes, rfl, quiet, .unallocated f told notes⟩
  | ok id =>
      obtain ⟨body, ended, closing, rfl, drive, ending⟩ := Program.runs_bind driving
      cases ended with
      | error f =>
          obtain ⟨rfl, told, notes, rfl, quiet⟩ := abort_course ending
          exact ⟨⟨.allocate, .ok id⟩ :: body, _, told, notes, rfl, quiet, .faulted id f body told notes drive⟩
      | ok report =>
          obtain ⟨told, notes, rfl, quiet, rfl, silent⟩ := close_course ending
          have finished := Supervised.finished id report body told notes drive silent
          exact ⟨⟨.allocate, .ok id⟩ :: body, _, told, notes, rfl, quiet, finished⟩

theorem supervised_line (ceiling : UInt32) (body : History) (line : String) (told : Except Fault Unit)
    (notes : History) (r : Except Fault Report) (run : Supervised ceiling body line told notes r) : IsClosing line := by
  cases run with
  | unallocated f => exact abort_closing 0 f.message
  | faulted id f => exact abort_closing id f.message
  | finished id report => exact summary_closing report

theorem supervised_history {σ : Type} (ceiling : UInt32) (answer : (c : Call) → σ → Answer c × σ) (s : σ) :
    ∃ body line told notes, (supervise ceiling).history answer s = body ++ ⟨.log line, told⟩ :: notes ∧
      (∀ e ∈ notes, IsNote e) ∧ Supervised ceiling body line told notes ((supervise ceiling).run answer s).1 :=
  supervised_course (Program.runs_history answer (supervise ceiling) s)

-- The calls of a session once it has started: its own counter, its own notification, and four kinds of
-- lines.
inductive Within (id : UInt64) : Call → Prop where
  | stopRequested : Within id .stopRequested
  | attempt : Within id .attempt
  | note (record : Diagnostic) : Within id (.note record)
  | update (count : UInt32) : Within id (.update id count)
  | counting (count : UInt32) : Within id (.log (incrementMessage count))
  | restarting : Within id (.log restartMessage)
  | escalating (count : UInt32) : Within id (.log (escalationMessage count))
  | notify (count : UInt32) : Within id (.notify id count)
  | regretting (reason : String) : Within id (.log (undeliveredMessage reason))

def AllWithin (id : UInt64) (h : History) : Prop := ∀ e ∈ h, Within id e.1

theorem within_append (id : UInt64) (a b : History) (first : AllWithin id a) (second : AllWithin id b) :
    AllWithin id (a ++ b) :=
  List.forall_mem_append.mpr ⟨first, second⟩

theorem within_cons (id : UInt64) (e : Exchange) (h : History) (first : Within id e.1) (others : AllWithin id h) :
    AllWithin id (e :: h) :=
  List.forall_mem_cons.mpr ⟨first, others⟩

theorem within_nil (id : UInt64) : AllWithin id [] := List.forall_mem_nil _

theorem failing_within (s : Session) : AllWithin s.id (failing s) := by
  apply within_cons _ _ _ .stopRequested
  apply within_cons _ _ _ .attempt
  exact within_cons _ _ _ (.note _) (within_nil _)

theorem recorded_within (s : Session) {r : Except Fault Unit} (recorded : Recorded s h r) : AllWithin s.id h := by
  have saving : Within s.id (saved s).1 := .update s.failures
  have counting (told : Except Fault Unit) : Within s.id (⟨.log (incrementMessage s.failures), told⟩ : Exchange).1 :=
    .counting s.failures
  cases recorded with
  | unsaved f => exact within_cons _ _ _ saving (within_nil _)
  | uncounted f => exact within_cons _ _ _ saving (within_cons _ _ _ (counting _) (within_nil _))
  | unfinished f =>
      exact within_cons _ _ _ saving (within_cons _ _ _ (counting _) (within_cons _ _ _ .restarting (within_nil _)))
  | whole =>
      exact within_cons _ _ _ saving (within_cons _ _ _ (counting _) (within_cons _ _ _ .restarting (within_nil _)))

theorem escalated_within (s : Session) {r : Except Fault Unit} (escalated : Escalated s h r) : AllWithin s.id h := by
  cases escalated with
  | unannounced f => exact within_cons _ _ _ (.escalating _) (within_nil _)
  | delivered => exact within_cons _ _ _ (.escalating _) (within_cons _ _ _ (.notify _) (within_nil _))
  | undelivered f =>
      apply within_cons _ _ _ (.escalating _)
      apply within_cons _ _ _ (.notify _)
      apply within_cons _ _ _ (.note _)
      exact within_cons _ _ _ (.regretting _) (within_nil _)

theorem attempted_within {s : Session} {r : Except Fault Report} (attempted : Attempted s h r) :
    AllWithin s.id h := by
  induction attempted with
  | stopped s => exact within_cons _ _ _ .stopRequested (within_nil _)
  | broken s f => exact within_cons _ _ _ .stopRequested (within_cons _ _ _ .attempt (within_nil _))
  | passed s =>
      apply within_cons _ _ _ .stopRequested
      apply within_cons _ _ _ .attempt
      exact within_cons _ _ _ (.note _) (within_nil _)
  | unrecorded s f h record => exact within_append _ _ _ (failing_within s) (recorded_within s.failed record)
  | again s h r more later ih =>
      apply within_append _ _ _ (within_append _ _ _ (failing_within s) (recorded_within s.failed .whole))
      exact within_cons _ _ _ (.note _) ih
  | exhausted s h told full escalation =>
      apply within_append _ _ _ (within_append _ _ _ (failing_within s) (recorded_within s.failed .whole))
      exact within_cons _ _ _ (.note _) (escalated_within s.failed escalation)

end Overseer.Session
