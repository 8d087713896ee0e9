import Overseer.Proofs.Program.Parting
import Overseer.Proofs.Session.Escalating
import Overseer.Proofs.Session.Stored

set_option autoImplicit false

namespace Overseer.Session

open Program (Given leave)
open Text (Numeral.word64)

variable {σ δ : Type}

-- All collaborators but the notifier. The log takes every line, and neither lines nor notes change what
-- the store's directory holds.
structure Crew (σ δ : Type) where
  answer : (c : Call) → σ → Answer c × σ
  directory : σ → δ
  heard : ∀ message s, (answer (.log message) s).1 = .ok ()
  lines : ∀ message s, directory (answer (.log message) s).2 = directory s
  notes : ∀ record s, directory (answer (.note record) s).2 = directory s

structure Courier (directory : σ → δ) where
  send : UInt64 → UInt32 → σ → Except Fault Unit × σ
  aside : ∀ id count s, directory (send id count s).2 = directory s

def Crew.served (crew : Crew σ δ) (courier : Courier crew.directory) : (c : Call) → σ → Answer c × σ
  | .notify id count, s => courier.send id count s
  | c, s => crew.answer c s

def isErrand : Call → Bool
  | .allocate => true
  | .begin _ => true
  | .update _ _ => true
  | .attempt => true
  | .notify _ _ => true
  | _ => false

def errands (h : History) : List Call := (asked h).filter isErrand

def regretOf : Exchange → Option String
  | ⟨.notify _ _, .error f⟩ => some (undeliveredMessage f.message)
  | _ => none

def regrets (h : History) : List String := h.filterMap regretOf

section Served

variable (crew : Crew σ δ) (courier other : Courier crew.directory)

theorem served_unlost (s : σ) (h : History) (given : Given (crew.served courier) s h) (message : String) (f : Fault) :
    lost message f ∉ h := by
  induction h generalizing s with
  | nil => exact List.not_mem_nil
  | cons e rest ih =>
      obtain ⟨now, later⟩ := given
      intro member
      rcases List.mem_cons.mp member with rfl | after
      · have taken : (crew.answer (.log message) s).1 = .error f := now
        rw [crew.heard] at taken
        cases taken
      · exact ih _ later after

theorem served_alike (c : Call) (silent : isNotify c = false) (s : σ) :
    crew.served other c s = crew.served courier c s := by
  cases c with
  | notify id count => cases silent
  | _ => rfl

theorem leave_silent (s : σ) (h : History) (silent : Silent h) :
    leave (crew.served other) s h = leave (crew.served courier) s h := by
  induction h generalizing s with
  | nil => rfl
  | cons e rest ih =>
      obtain ⟨first, others⟩ := (silent_cons e rest).mp silent
      rw [leave, served_alike crew courier other e.1 first s]
      exact ih _ others

-- From a notification on nothing happens to the directory.
theorem directory_leave (s : σ) (h : History)
    (after : ∀ e ∈ h, (∃ message, e.1 = .log message) ∨ IsNote e ∨ isNotify e.1 = true) :
    crew.directory (leave (crew.served courier) s h) = crew.directory s := by
  induction h generalizing s with
  | nil => rfl
  | cons e rest ih =>
      obtain ⟨first, others⟩ := List.forall_mem_cons.mp after
      obtain ⟨c, x⟩ := e
      refine (ih _ others).trans ?_
      rcases first with ⟨message, rfl⟩ | ⟨record, rfl⟩ | notifying
      · exact crew.lines message s
      · exact crew.notes record s
      · cases c with
        | notify id count => exact courier.aside id count s
        | _ => cases notifying

end Served

def regretting (id : UInt64) : Except Fault Unit → History
  | .ok () => []
  | .error f =>
    [noted .warn ("Escalation for session " ++ Numeral.word64 id ++ " failed: " ++ f.message),
      logged (undeliveredMessage f.message)]

theorem escalated_regretting (s : Session) (count : UInt32) (sent told : Except Fault Unit) (rest : History)
    (run : Escalated s (logged (escalationMessage count) :: ⟨.notify s.id count, sent⟩ :: rest) told)
    (unlost : ∀ message f, lost message f ∉ rest) : rest = regretting s.id sent ∧ told = .ok () := by
  generalize whole : logged (escalationMessage count) :: ⟨.notify s.id count, sent⟩ :: rest = h at run
  cases run with
  | unannounced f => simp at whole
  | delivered =>
      obtain ⟨-, ⟨-, rfl⟩, rfl⟩ : _ ∧ (_ ∧ sent = .ok ()) ∧ rest = [] := by simpa using whole
      exact ⟨rfl, rfl⟩
  | undelivered f =>
      obtain ⟨-, ⟨-, rfl⟩, rfl⟩ : _ ∧ (_ ∧ sent = .error f) ∧ rest = _ := by simpa using whole
      cases told with
      | error g => exact absurd (by simp [lost]) (unlost (undeliveredMessage f.message) g)
      | ok done => exact ⟨rfl, rfl⟩

structure Notified (ceiling : UInt32) (h : History) (r : Except Fault Report) (before : History) (id : UInt64)
    (n : UInt32) (sent : Except Fault Unit) (notes : History) : Prop where
  split : h = before ++ ⟨.notify id n, sent⟩ ::
    (regretting id sent ++ logged (⟨⟨id, n, ceiling⟩, .exhausted⟩ : Report).summary :: notes)
  silent : Silent before
  quiet : ∀ e ∈ notes, IsNote e
  result : r = .ok ⟨⟨id, n, ceiling⟩, .exhausted⟩

theorem supervised_notified (ceiling : UInt32) (body : History) (line : String) (told : Except Fault Unit)
    (notes : History) (r : Except Fault Report) (run : Supervised ceiling body line told notes r)
    (quiet : ∀ e ∈ notes, IsNote e) (unlost : ∀ message f, lost message f ∉ body ++ ⟨.log line, told⟩ :: notes) :
    told = .ok () ∧ (Silent (body ++ ⟨.log line, told⟩ :: notes) ∨
      ∃ before id n sent, Notified ceiling (body ++ ⟨.log line, told⟩ :: notes) r before id n sent notes) := by
  obtain rfl : told = .ok () := by
    cases told with
    | ok done => rfl
    | error f => exact absurd (by simp [lost]) (unlost line f)
  have closing := after_silent _ (closing_after line (.ok ()) notes quiet)
  refine ⟨rfl, ?_⟩
  -- In front of the closing line a run has the calls of its session, which notify at most once.
  have driven (id : UInt64) (rest : History) (ended : Except Fault Report) (inner : Driven id ceiling rest ended)
      (whole : body = ⟨.allocate, .ok id⟩ :: rest) : Silent (body ++ logged line :: notes) ∨
        ∃ before n sent, body = before ++ ⟨.notify id n, sent⟩ :: regretting id sent ∧ Silent before ∧
          ended = .ok ⟨⟨id, n, ceiling⟩, .exhausted⟩ := by
    subst whole
    rcases driven_notifies id ceiling rest ended inner with
      silent | ⟨n, before, sent, rest, told, -, rfl, leading, escalated, result⟩
    · exact .inl ((silent_append _ _).mpr ⟨(silent_cons _ _).mpr ⟨rfl, silent⟩, closing⟩)
    · obtain ⟨rfl, rfl⟩ := escalated_regretting ⟨id, n, ceiling⟩ n sent told rest escalated fun message f member =>
        unlost message f (by simp [member])
      exact .inr ⟨_, n, sent, rfl, (silent_cons _ _).mpr ⟨rfl, leading.silent⟩, result⟩
  cases run with
  | unallocated f => exact .inl ((silent_append _ _).mpr ⟨by simp [Silent, isNotify], closing⟩)
  | faulted id f rest told notes inner =>
      rcases driven id rest _ (driven_course inner) rfl with silent | ⟨before, n, sent, -, -, impossible⟩
      · exact .inl silent
      · cases impossible
  | finished id report rest told notes inner =>
      rcases driven id rest _ (driven_course inner) rfl with silent | ⟨before, n, sent, whole, silent, result⟩
      · exact .inl silent
      · obtain rfl := Except.ok.inj result
        refine .inr ⟨before, id, n, sent, ?_, silent, quiet, rfl⟩
        rw [whole, List.append_assoc, List.cons_append]
        rfl

theorem regrets_silent (h : History) (silent : Silent h) : regrets h = [] := by
  rw [regrets, List.filterMap_eq_nil_iff]
  rintro ⟨c, x⟩ member
  cases c with
  | notify id count => cases silent _ member
  | _ => rfl

theorem errands_notes (notes : History) (quiet : ∀ e ∈ notes, IsNote e) : errands notes = [] := by
  rw [errands, List.filter_eq_nil_iff]
  intro c member
  obtain ⟨e, inside, rfl⟩ := List.mem_map.mp member
  obtain ⟨record, note⟩ := quiet e inside
  rw [note]
  exact Bool.false_ne_true

theorem regretting_after (id : UInt64) (sent : Except Fault Unit) (line : String) (notes : History)
    (quiet : ∀ e ∈ notes, IsNote e) :
    ∀ e ∈ regretting id sent ++ logged line :: notes, (∃ message, e.1 = .log message) ∨ IsNote e := by
  refine List.forall_mem_append.mpr ⟨?_, closing_after line (.ok ()) notes quiet⟩
  cases sent <;> simp [regretting, noted, logged, IsNote]

theorem notified_after (ceiling : UInt32) (h : History) (r : Except Fault Report) (before : History) (id : UInt64)
    (n : UInt32) (sent : Except Fault Unit) (notes : History)
    (notified : Notified ceiling h r before id n sent notes) :
    Silent (regretting id sent ++ logged (⟨⟨id, n, ceiling⟩, .exhausted⟩ : Report).summary :: notes) :=
  after_silent _ (regretting_after id sent _ notes notified.quiet)

structure Telling (before : History) (id : UInt64) (n : UInt32) (sent : Except Fault Unit) (closing : String)
    (h : History) : Prop where
  lines : lines h = lines before ++ (undelivered sent ++ [closing])
  regrets : regrets h = undelivered sent
  errands : errands h = errands before ++ [.notify id n]

theorem notified_tells (ceiling : UInt32) (h : History) (r : Except Fault Report) (before : History) (id : UInt64)
    (n : UInt32) (sent : Except Fault Unit) (notes : History)
    (notified : Notified ceiling h r before id n sent notes) :
    Telling before id n sent (⟨⟨id, n, ceiling⟩, .exhausted⟩ : Report).summary h := by
  obtain ⟨rfl, silent, quiet, -⟩ := notified
  have noLines := lines_notes notes quiet
  have noRegrets : notes.filterMap regretOf = [] := by
    apply regrets_silent
    exact after_silent notes fun e member => .inr (quiet e member)
  have noErrands := errands_notes notes quiet
  refine ⟨?_, ?_, ?_⟩
  · rw [lines_append]
    cases sent with
    | ok done =>
        change _ ++ (_ :: Session.lines notes) = _
        rw [noLines]
        rfl
    | error f =>
        change _ ++ (_ :: _ :: Session.lines notes) = _
        rw [noLines]
        rfl
  · rw [Session.regrets, List.filterMap_append]
    change Session.regrets before ++ _ = _
    rw [regrets_silent before silent]
    cases sent with
    | ok done => exact noRegrets
    | error f => exact congrArg (_ :: ·) noRegrets
  · rw [Session.errands, asked_append, List.filter_append]
    cases sent with
    | ok done => exact congrArg (fun rest => Session.errands before ++ _ :: rest) noErrands
    | error f => exact congrArg (fun rest => Session.errands before ++ _ :: rest) noErrands

-- The lines of a run. Those up to the closing one are common to several runs, but for the line of a
-- notification that failed, which stands directly before the closing summary.
structure Told (common : List String) (closing : String) (h : History) (r : Except Fault Report) : Prop where
  lines : lines h = common ++ (regrets h ++ [closing])
  failed : ∀ id n f, ⟨.notify id n, .error f⟩ ∈ h →
    regrets h = [undeliveredMessage f.message] ∧ ∃ report, r = .ok report ∧ closing = report.summary
  delivered : (∀ id n f, ⟨.notify id n, .error f⟩ ∉ h) → regrets h = []

theorem told_silent (body : History) (line : String) (notes : History) (r : Except Fault Report)
    (quiet : ∀ e ∈ notes, IsNote e) (silent : Silent (body ++ logged line :: notes)) :
    Told (lines body) line (body ++ logged line :: notes) r where
  lines := by
    rw [regrets_silent _ silent, lines_append]
    change _ ++ line :: Session.lines notes = _
    rw [lines_notes notes quiet]
    rfl
  failed := by
    intro id n f member
    cases silent _ member
  delivered _ := regrets_silent _ silent

theorem told_notified (ceiling : UInt32) (h : History) (r : Except Fault Report) (before : History) (id : UInt64)
    (n : UInt32) (sent : Except Fault Unit) (notes : History)
    (notified : Notified ceiling h r before id n sent notes) :
    Told (lines before) (⟨⟨id, n, ceiling⟩, .exhausted⟩ : Report).summary h r := by
  obtain ⟨told, regretted, -⟩ := notified_tells ceiling h r before id n sent notes notified
  have tail := notified_after ceiling h r before id n sent notes notified
  obtain ⟨split, silent, -, result⟩ := notified
  refine ⟨by rw [told, regretted], ?_, ?_⟩
  · intro own count f member
    rw [split] at member
    rcases List.mem_append.mp member with first | last
    · cases silent _ first
    · rcases List.mem_cons.mp last with same | after
      · cases same
        exact ⟨regretted, _, result, rfl⟩
      · cases tail _ after
  · intro none
    cases sent with
    | ok done => exact regretted
    | error f => exact absurd (by simp [split]) (none id n f)

theorem served_history (ceiling : UInt32) (crew : Crew σ δ) (courier : Courier crew.directory) (s : σ) :
    (∃ body line notes, (supervise ceiling).history (crew.served courier) s = body ++ logged line :: notes ∧
      IsClosing line ∧ (∀ e ∈ notes, IsNote e) ∧ Silent ((supervise ceiling).history (crew.served courier) s)) ∨
    ∃ before id n sent notes, Notified ceiling ((supervise ceiling).history (crew.served courier) s)
      ((supervise ceiling).run (crew.served courier) s).1 before id n sent notes := by
  obtain ⟨body, line, told, notes, split, quiet, supervised⟩ :=
    supervised_history ceiling (crew.served courier) s
  have unlost := served_unlost crew courier s _ (Program.history_given _ (supervise ceiling) s)
  rw [split] at unlost ⊢
  obtain ⟨rfl, silent | ⟨before, id, n, sent, notified⟩⟩ :=
    supervised_notified ceiling body line told notes _ supervised quiet unlost
  · exact .inl ⟨body, line, notes, rfl, supervised_line _ _ _ _ _ _ supervised, quiet, silent⟩
  · exact .inr ⟨before, id, n, sent, notes, notified⟩

theorem directory_notified (ceiling : UInt32) (crew : Crew σ δ) (courier : Courier crew.directory) (s : σ)
    (before : History) (id : UInt64) (n : UInt32) (sent : Except Fault Unit) (notes : History) (r : Except Fault Report)
    (notified : Notified ceiling ((supervise ceiling).history (crew.served courier) s) r before id n sent notes) :
    crew.directory ((supervise ceiling).run (crew.served courier) s).2 =
      crew.directory (leave (crew.served courier) s before) := by
  obtain ⟨split, -, quiet, -⟩ := notified
  rw [← Program.leave_history, split, Program.leave_append]
  apply directory_leave
  refine List.forall_mem_cons.mpr ⟨.inr (.inr rfl), fun e member => ?_⟩
  exact (regretting_after id sent _ notes quiet e member).imp_right .inl

theorem delivery_changes_one_line (ceiling : UInt32) (crew : Crew σ δ) (one two : Courier crew.directory) (s : σ) :
    ((supervise ceiling).run (crew.served two) s).1 = ((supervise ceiling).run (crew.served one) s).1 ∧
    (CommandLine.Outcome.ofSession ((supervise ceiling).run (crew.served two) s).1).code =
      (CommandLine.Outcome.ofSession ((supervise ceiling).run (crew.served one) s).1).code ∧
    crew.directory ((supervise ceiling).run (crew.served two) s).2 =
      crew.directory ((supervise ceiling).run (crew.served one) s).2 ∧
    errands ((supervise ceiling).history (crew.served two) s) =
      errands ((supervise ceiling).history (crew.served one) s) ∧
    ∃ common closing, IsClosing closing ∧
      Told common closing ((supervise ceiling).history (crew.served one) s)
        ((supervise ceiling).run (crew.served one) s).1 ∧
      Told common closing ((supervise ceiling).history (crew.served two) s)
        ((supervise ceiling).run (crew.served two) s).1 := by
  rcases served_history ceiling crew one s with
    ⟨body, line, notes, split, closing, quiet, silent⟩ | ⟨before, id, n, sent, notes, notified⟩
  · -- No notification: the two runs are one.
    obtain ⟨history, run⟩ := Program.history_alike (crew.served one) (crew.served two) (supervise ceiling) s
      fun earlier e after whole => served_alike crew one two e.1 (silent e (by simp [whole])) _
    have told := told_silent body line notes ((supervise ceiling).run (crew.served one) s).1 quiet (split ▸ silent)
    rw [← split] at told
    rw [history, run]
    exact ⟨rfl, rfl, rfl, rfl, lines body, line, closing, told, told⟩
  · obtain ⟨rest, part⟩ := Program.history_part (crew.served one) (crew.served two) before (supervise ceiling) s _ _
      notified.split fun earlier e later whole =>
        served_alike crew one two e.1 (notified.silent e (by simp [whole])) _
    rcases served_history ceiling crew two s with
      ⟨-, -, -, -, -, -, silent⟩ | ⟨before', id', n', sent', notes', notified'⟩
    · rw [part] at silent
      cases ((silent_cons _ _).mp ((silent_append _ _).mp silent).2).1
    · have tail := notified_after ceiling _ _ _ _ _ _ _ notified'
      obtain ⟨rfl, same, -⟩ := notification_unique before' _ before rest _ _ notified'.silent tail rfl
        (notified'.split.symm.trans part)
      cases same
      have first := notified_tells ceiling _ _ _ _ _ _ _ notified
      have second := notified_tells ceiling _ _ _ _ _ _ _ notified'
      have result := notified'.result.trans notified.result.symm
      have told := told_notified ceiling _ _ _ _ _ _ _ notified
      have told' := told_notified ceiling _ _ _ _ _ _ _ notified'
      refine ⟨result, by rw [result], ?_, ?_, lines before', _, summary_closing _, told, told'⟩
      · rw [directory_notified ceiling crew two s _ _ _ _ _ _ notified',
          directory_notified ceiling crew one s _ _ _ _ _ _ notified, leave_silent crew one two s _ notified.silent]
      · rw [second.errands, first.errands]

def Crew.stubborn : Crew (Host.Machine × Nat) (Option ByteArray) where
  answer := Session.stubborn.answer
  directory := Session.stubborn.disk.artifact
  heard _ _ := rfl
  lines _ _ := rfl
  notes _ _ := rfl

def Courier.always (directory : σ → δ) (sent : Except Fault Unit) : Courier directory where
  send _ _ s := (sent, s)
  aside _ _ _ := rfl

-- A fault that ends a run when the store answers it is passed over when a notifier does.
example (s : Host.Machine × Nat) :
    let served := Crew.stubborn.served (.always _ (.error ⟨.storage, "down"⟩))
    lines ((escalate ⟨1, 3, 3⟩).run.history served s) =
        [escalationMessage 3, "Notification failed: Storage error: down"] ∧
      ((escalate ⟨1, 3, 3⟩).run.run served s).1 = .ok () :=
  ⟨by rfl, by rfl⟩

end Overseer.Session
