import Overseer.Proofs.Session.Retry
import Mathlib.Data.List.Basic

set_option autoImplicit false

namespace Overseer.Session

open Program (Runs leave)

variable {σ : Type}

def Silent (h : History) : Prop := ∀ e ∈ h, isNotify e.1 = false

def isStore : Call → Bool
  | .allocate => true
  | .begin _ => true
  | .update _ _ => true
  | _ => false

def StoreGranted (h : History) : Prop := ∀ e ∈ h, isStore e.1 = true → faultOf e = none

-- The log refuses no line up to the escalation line.
def Heard (h : History) : Prop :=
  ∀ before message f rest, h = before ++ lost message f :: rest →
    ∃ count, .log (escalationMessage count) ∈ asked before

-- What leads up to a notification from some attempt on: the attempts that the session has left fail,
-- and the last failure is counted, logged and announced.
structure Escalating (s : Session) (last : UInt32) (h : History) : Prop where
  silent : Silent h
  judged : verdicts h = List.replicate (limit s.ceiling - s.failures.toNat) (.ok .failure)
  order : ∃ first, steps h = first ++
    [.update s.id last, .log (incrementMessage last), .log restartMessage, .log (escalationMessage last)]
  told : ∃ first, lines h =
    first ++ [incrementMessage last, restartMessage, escalationMessage last]
  persisted : ∀ count, kept s.id count h = some last

theorem lines_append (a b : History) : lines (a ++ b) = lines a ++ lines b := List.filterMap_append

theorem lines_notes (notes : History) (quiet : ∀ e ∈ notes, IsNote e) : lines notes = [] := by
  rw [lines, List.filterMap_eq_nil_iff]
  rintro ⟨c, x⟩ member
  obtain ⟨record, rfl⟩ : ∃ record, c = .note record := quiet _ member
  rfl

theorem asked_append (a b : History) : asked (a ++ b) = asked a ++ asked b := List.map_append

theorem silent_append (a b : History) : Silent (a ++ b) ↔ Silent a ∧ Silent b := List.forall_mem_append

theorem silent_cons (e : Exchange) (h : History) :
    Silent (e :: h) ↔ isNotify e.1 = false ∧ Silent h := List.forall_mem_cons

theorem silent_asked (h : History) (silent : Silent h) : (asked h).filter isNotify = [] := by
  rw [List.filter_eq_nil_iff]
  intro c member
  obtain ⟨e, inside, rfl⟩ := List.mem_map.mp member
  simp [silent e inside]

theorem recorded_silent (s : Session) (h : History) (r : Except Fault Unit) (run : Recorded s h r) :
    Silent h := by
  cases run <;> simp [Silent, recorded, saved, logged, lost, isNotify]

theorem failing_silent (s : Session) : Silent (failing s) := by
  simp [Silent, failing, moved, noted, isNotify]

theorem failed_silent (s : Session) (a b : Phase) :
    Silent (failing s ++ recorded s.failed ++ [moved s.id a b]) := by
  refine (silent_append _ _).mpr ⟨(silent_append _ _).mpr ⟨failing_silent s, ?_⟩, by simp [Silent, moved, noted, isNotify]⟩
  exact recorded_silent s.failed _ _ .whole

theorem escalating_after (s t : Session) (last : UInt32) (k : Nat) (a h : History) (same : t.id = s.id)
    (left : limit s.ceiling - s.failures.toNat = k + (limit t.ceiling - t.failures.toNat))
    (silent : Silent a) (judged : verdicts a = List.replicate k (.ok .failure)) (later : Escalating t last h) :
    Escalating s last (a ++ h) where
  silent := (silent_append a h).mpr ⟨silent, later.silent⟩
  judged := by rw [verdicts_append, judged, later.judged, left, List.replicate_add]
  order := by
    obtain ⟨first, order⟩ := later.order
    refine ⟨steps a ++ first, ?_⟩
    rw [steps_append, order, List.append_assoc, same]
  told := by
    obtain ⟨first, told⟩ := later.told
    refine ⟨lines a ++ first, ?_⟩
    rw [lines_append, told, List.append_assoc]
  persisted := by
    intro count
    rw [kept_append, ← same]
    exact later.persisted _

theorem escalating_again (s : Session) (room : s.HasRoom) (last : UInt32) (a b : Phase) (h : History)
    (later : Escalating s.failed last h) :
    Escalating s last (failing s ++ recorded s.failed ++ moved s.id a b :: h) := by
  have grows := failures_failed room
  have below := room_below_limit s room
  have left : limit s.ceiling - s.failures.toNat = 1 + (limit s.ceiling - s.failed.failures.toNat) := by omega
  rw [List.append_cons]
  exact escalating_after s s.failed last 1 _ h rfl left (failed_silent s a b) rfl later

theorem escalating_last (s : Session) (room : s.HasRoom) (full : ¬s.failed.canRetry = true) :
    Escalating s s.failed.failures
      (failing s ++ recorded s.failed ++
        [moved s.id .retrying .exhausted, logged (escalationMessage s.failed.failures)]) where
  silent := by
    rw [List.append_cons]
    exact (silent_append _ _).mpr ⟨failed_silent s _ _, by simp [Silent, logged, isNotify]⟩
  judged := by
    have reached := full_at_limit s room full
    have one : limit s.ceiling - s.failures.toNat = 1 := by omega
    rw [one]
    rfl
  order := ⟨[.attempt], rfl⟩
  told := ⟨[], rfl⟩
  persisted := by
    intro count
    rw [kept_append, kept_append, kept_failing]
    have step := kept_recorded s.failed count
    change kept s.id count (recorded s.failed) = _ at step
    rw [step]
    simp [kept, moved, noted, logged, written]

theorem attempted_notifies (s : Session) (room : s.HasRoom) (h : History) (r : Except Fault Report)
    (run : Attempted s h r) :
    Silent h ∨ ∃ last before sent rest told, last.toNat = limit s.ceiling ∧
      h = before ++ ⟨.notify s.id last, sent⟩ :: rest ∧ Escalating s last before ∧
      Escalated ⟨s.id, last, s.ceiling⟩
        (logged (escalationMessage last) :: ⟨.notify s.id last, sent⟩ :: rest) told ∧
      r = told.map fun _ => ⟨⟨s.id, last, s.ceiling⟩, .exhausted⟩ := by
  induction run with
  | stopped s => exact .inl (by simp [Silent, isNotify])
  | broken s f => exact .inl (by simp [Silent, isNotify])
  | passed s => exact .inl (by simp [Silent, moved, noted, isNotify])
  | unrecorded s f h record =>
      exact .inl ((silent_append _ _).mpr ⟨failing_silent s, recorded_silent s.failed h _ record⟩)
  | again s h r more later ih =>
      rcases ih (.inr more) with silent | ⟨last, before, sent, rest, told, number, rfl, leading, escalated, result⟩
      · rw [List.append_cons]
        exact .inl ((silent_append _ _).mpr ⟨failed_silent s _ _, silent⟩)
      · refine .inr ⟨last, _, sent, rest, told, number, ?_, escalating_again s room last .retrying .running before leading,
          escalated, result⟩
        simp [Session.failed]
  | exhausted s h told full escalation =>
      have reached : s.failed.failures.toNat = limit s.ceiling :=
        (failures_failed room).trans (full_at_limit s room full)
      have leading := escalating_last s room full
      cases escalation with
      | unannounced f =>
          rw [List.append_cons]
          exact .inl ((silent_append _ _).mpr ⟨failed_silent s _ _, by simp [Silent, lost, isNotify]⟩)
      | delivered =>
          refine .inr ⟨s.failed.failures, _, .ok (), [], .ok (), reached, ?_, leading, .delivered, rfl⟩
          simp [Session.failed]
      | undelivered f =>
          refine .inr ⟨s.failed.failures, _, .error f, _, told, reached, ?_, leading, .undelivered f told, rfl⟩
          simp [Session.failed]

theorem escalated_rest (s : Session) (count : UInt32) (sent told : Except Fault Unit) (rest : History)
    (run : Escalated s (logged (escalationMessage count) :: ⟨.notify s.id count, sent⟩ :: rest) told) :
    Runs (escalate s).run (logged (escalationMessage count) :: ⟨.notify s.id count, sent⟩ :: rest) told ∧
      ∀ e ∈ rest, (∃ message, e.1 = .log message) ∨ IsNote e := by
  generalize whole : logged (escalationMessage count) :: ⟨.notify s.id count, sent⟩ :: rest = h at run
  cases run with
  | unannounced f => simp at whole
  | delivered =>
      obtain ⟨-, -, rfl⟩ : _ ∧ _ ∧ rest = [] := by simpa using whole
      exact ⟨.ask (.ask (.done _)), by simp⟩
  | undelivered f =>
      obtain ⟨-, -, rfl⟩ : _ ∧ _ ∧ rest = _ := by simpa using whole
      exact ⟨.ask (.ask (.ask (.ask (.done _)))), by simp [noted, IsNote]⟩

theorem notification_unique (a b c d : History) (e f : Exchange) (before : Silent a) (after : Silent b)
    (second : isNotify f.1 = true) (same : a ++ e :: b = c ++ f :: d) :
    a = c ∧ e = f ∧ b = d := by
  have absent (h : History) (silent : Silent h) : f ∉ h := by
    intro member
    rw [silent f member] at second
    cases second
  obtain ⟨rfl, rfl, rfl⟩ :=
    (List.append_cons_inj_of_notMem (absent a before) (absent b after)).mp same
  exact ⟨rfl, rfl, rfl⟩

theorem opening_silent (id : UInt64) : Silent (opening id) := by
  simp [Silent, opening, logged, moved, noted, isNotify]

theorem driven_notifies (id : UInt64) (ceiling : UInt32) (h : History) (r : Except Fault Report)
    (run : Driven id ceiling h r) :
    Silent h ∨ ∃ last before sent rest told, last.toNat = limit ceiling ∧
      h = ⟨.begin id, .ok ()⟩ :: before ++ ⟨.notify id last, sent⟩ :: rest ∧
      Escalating ⟨id, 0, ceiling⟩ last (⟨.begin id, .ok ()⟩ :: before) ∧
      Escalated ⟨id, last, ceiling⟩ (logged (escalationMessage last) :: ⟨.notify id last, sent⟩ :: rest) told ∧
      r = told.map fun _ => ⟨⟨id, last, ceiling⟩, .exhausted⟩ := by
  cases run with
  | unbegun f => exact .inl (by simp [Silent, isNotify])
  | unstarted f => exact .inl (by simp [Silent, lost, isNotify])
  | started h r attempted =>
      rcases attempted_notifies ⟨id, 0, ceiling⟩ (.inl rfl) h r attempted with
        silent | ⟨last, before, sent, rest, told, number, rfl, leading, escalated, result⟩
      · exact .inl ((silent_append _ _).mpr ⟨opening_silent id, silent⟩)
      · refine .inr ⟨last, logged startMessage :: moved id .init .running :: before, sent, rest, told, number,
          rfl, ?_, escalated, result⟩
        exact escalating_after _ _ last 0 (opening id) before rfl (Nat.zero_add _).symm (opening_silent id) rfl leading

-- The moment of a notification: what has happened before it, and what is left to happen.
structure AtExhaustion (ceiling : UInt32) (r : Except Fault Report) (id : UInt64) (n : UInt32)
    (sent : Except Fault Unit) (before rest : History) : Prop where
  number : n.toNat = limit ceiling
  begun : ∃ between, before = ⟨.allocate, .ok id⟩ :: ⟨.begin id, .ok ()⟩ :: between
  judged : verdicts before = List.replicate n.toNat (.ok .failure)
  order : ∃ first, steps before = first ++
    [.update id n, .log (incrementMessage n), .log restartMessage, .log (escalationMessage n)]
  told : ∃ first, lines before = first ++ [incrementMessage n, restartMessage, escalationMessage n]
  -- The notification is one of a session in memory that has the same count.
  escalating : ∃ tail closing told, rest = tail ++ closing ∧
    Runs (escalate ⟨id, n, ceiling⟩).run
      (logged (escalationMessage n) :: ⟨.notify id n, sent⟩ :: tail) told
  after : ∀ e ∈ rest, (∃ message, e.1 = .log message) ∨ IsNote e
  result : ∀ report, r = .ok report → report = ⟨⟨id, n, ceiling⟩, .exhausted⟩

theorem closing_after (line : String) (told : Except Fault Unit) (notes : History)
    (quiet : ∀ e ∈ notes, IsNote e) :
    ∀ e ∈ (⟨.log line, told⟩ :: notes : History), (∃ message, e.1 = .log message) ∨ IsNote e :=
  List.forall_mem_cons.mpr ⟨.inl ⟨line, rfl⟩, fun e member => .inr (quiet e member)⟩

theorem after_silent (rest : History) (after : ∀ e ∈ rest, (∃ message, e.1 = .log message) ∨ IsNote e) :
    Silent rest := by
  intro e member
  rcases after e member with ⟨message, log⟩ | ⟨diagnostic, note⟩
  · rw [log]
    rfl
  · rw [note]
    rfl

theorem driven_exhausted (id : UInt64) (ceiling : UInt32) (body closing : History) (ended r : Except Fault Report)
    (run : Driven id ceiling body ended) (quiet : ∀ e ∈ closing, (∃ message, e.1 = .log message) ∨ IsNote e)
    (result : ∀ report, r = .ok report → ended = .ok report) :
    Silent (⟨.allocate, .ok id⟩ :: body ++ closing) ∨ ∃ n before sent rest,
      ⟨.allocate, .ok id⟩ :: body ++ closing = before ++ ⟨.notify id n, sent⟩ :: rest ∧ Silent before ∧
      AtExhaustion ceiling r id n sent before rest ∧ ∀ count, kept id count before = some n := by
  rcases driven_notifies id ceiling body ended run with
    silent | ⟨last, between, sent, rest, told, number, rfl, leading, escalated, ending⟩
  · exact .inl ((silent_append _ _).mpr ⟨(silent_cons _ _).mpr ⟨rfl, silent⟩, after_silent closing quiet⟩)
  · obtain ⟨escalating, after⟩ := escalated_rest ⟨id, last, ceiling⟩ last sent told rest escalated
    have whole := escalating_after ⟨id, 0, ceiling⟩ _ last 0 [⟨.allocate, .ok id⟩] _ rfl (Nat.zero_add _).symm
      (by simp [Silent, isNotify]) rfl leading
    refine .inr ⟨last, _, sent, rest ++ closing, ?_, whole.silent, ?_, whole.persisted⟩
    · simp
    · refine ⟨number, ⟨between, rfl⟩, ?_, whole.order, whole.told, ⟨rest, closing, told, rfl, escalating⟩,
        List.forall_mem_append.mpr ⟨after, quiet⟩, ?_⟩
      · rw [whole.judged, number]
        rfl
      · intro report ok
        have same := (result report ok).symm.trans ending
        cases told with
        | error f => cases same
        | ok done => exact Except.ok.inj same

theorem supervised_exhausted (ceiling : UInt32) (body : History) (line : String) (told : Except Fault Unit)
    (notes : History) (r : Except Fault Report) (run : Supervised ceiling body line told notes r)
    (quiet : ∀ e ∈ notes, IsNote e) :
    Silent (body ++ ⟨.log line, told⟩ :: notes) ∨ ∃ id n before sent rest,
      body ++ ⟨.log line, told⟩ :: notes = before ++ ⟨.notify id n, sent⟩ :: rest ∧ Silent before ∧
      AtExhaustion ceiling r id n sent before rest ∧ ∀ count, kept id count before = some n := by
  have closing := closing_after line told notes quiet
  cases run with
  | unallocated f =>
      exact .inl ((silent_append _ _).mpr ⟨by simp [Silent, isNotify], after_silent _ closing⟩)
  | faulted id f body told notes driven =>
      have exhausted := driven_exhausted id ceiling body _ _ (.error f) (driven_course driven) closing (by simp)
      exact exhausted.imp_right fun found => ⟨id, found⟩
  | finished id report body told notes driven silent =>
      refine (driven_exhausted id ceiling body _ _ _ (driven_course driven) closing ?_).imp_right fun found => ⟨id, found⟩
      intro own result
      cases told with
      | error g => cases result
      | ok done =>
          cases result
          rfl

def failedAttempts (h : History) : Nat := (verdicts h).count (.ok .failure)

def Unannounced (h : History) : Prop := ∀ count, .log (escalationMessage count) ∉ asked h

theorem unannounced_append (a b : History) (first : Unannounced a) (second : Unannounced b) :
    Unannounced (a ++ b) := by
  intro count member
  rw [asked_append] at member
  exact (List.mem_append.mp member).elim (first count) (second count)

theorem increment_ne_escalation (m n : UInt32) : escalationMessage n ≠ incrementMessage m := by
  intro same
  have counted := escalation_not_increment n
  rw [same, increment_is_increment] at counted
  cases counted

theorem restart_ne_escalation (n : UInt32) : escalationMessage n ≠ restartMessage := by
  intro same
  have letters := first_letters_escalation n
  rw [same, first_letters_restart] at letters
  simp at letters

theorem start_ne_escalation (n : UInt32) : escalationMessage n ≠ startMessage := by
  intro same
  have letters := first_letters_escalation n
  rw [same, first_letters_start] at letters
  simp at letters

theorem failing_unannounced (s : Session) : Unannounced (failing s) := by
  simp [Unannounced, asked, failing, moved, noted]

theorem recorded_unannounced (s : Session) : Unannounced (recorded s) := by
  simp [Unannounced, asked, recorded, saved, logged, increment_ne_escalation, restart_ne_escalation]

theorem moved_unannounced (id : UInt64) (a b : Phase) : Unannounced [moved id a b] := by
  simp [Unannounced, asked, moved, noted]

theorem failed_unannounced (s : Session) (a b : Phase) :
    Unannounced (failing s ++ recorded s.failed ++ [moved s.id a b]) :=
  unannounced_append _ _ (unannounced_append _ _ (failing_unannounced s) (recorded_unannounced s.failed))
    (moved_unannounced s.id a b)

theorem opening_unannounced (id : UInt64) : Unannounced (opening id) := by
  simp [Unannounced, asked, opening, logged, moved, noted, start_ne_escalation]

theorem heard_after (a h : History) (plain : Unannounced a) (heard : Heard (a ++ h)) : Heard h := by
  rintro before message f rest rfl
  obtain ⟨count, member⟩ := heard (a ++ before) message f rest (List.append_assoc _ _ _).symm
  rw [asked_append] at member
  exact ⟨count, (List.mem_append.mp member).resolve_left (plain count)⟩

theorem heard_before (h closing : History) (heard : Heard (h ++ closing)) : Heard h := by
  rintro before message f rest rfl
  exact heard before message f (rest ++ closing) (List.append_assoc _ _ _)

theorem heard_fails (a rest : History) (message : String) (f : Fault) (plain : Unannounced a)
    (heard : Heard (a ++ lost message f :: rest)) : False := by
  obtain ⟨count, member⟩ := heard a message f rest rfl
  exact plain count member

theorem granted_after (a h : History) (granted : StoreGranted (a ++ h)) : StoreGranted h :=
  (List.forall_mem_append.mp granted).2

theorem store_fails (a : History) (e : Exchange) (f : Fault) (store : isStore e.1 = true) (fault : faultOf e = some f)
    (granted : StoreGranted (a ++ [e])) : False := by
  have none := granted e (by simp) store
  rw [fault] at none
  cases none

theorem recorded_granted (s : Session) (a h : History) (f : Fault) (plain : Unannounced a)
    (run : Recorded s h (.error f)) (granted : StoreGranted (a ++ h)) (heard : Heard (a ++ h)) : False := by
  have counting : Unannounced [saved s] := by simp [Unannounced, asked, saved]
  have restarting : Unannounced [saved s, logged (incrementMessage s.failures)] := by
    simp [Unannounced, asked, saved, logged, increment_ne_escalation]
  cases run with
  | unsaved f => exact store_fails a _ f rfl rfl granted
  | uncounted f => exact heard_fails _ [] _ f counting (heard_after a _ plain heard)
  | unfinished f => exact heard_fails _ [] _ f restarting (heard_after a _ plain heard)

theorem failed_attempts_failed (s : Session) (a b : Phase) (h : History) :
    failedAttempts (failing s ++ recorded s.failed ++ moved s.id a b :: h) = failedAttempts h + 1 := by
  rw [failedAttempts, verdicts_failed, List.count_cons_self]
  rfl

theorem attempted_must_notify (s : Session) (room : s.HasRoom) (h : History) (r : Except Fault Report)
    (run : Attempted s h r) (enough : limit s.ceiling ≤ s.failures.toNat + failedAttempts h)
    (granted : StoreGranted h) (heard : Heard h) : ∃ n, .notify s.id n ∈ asked h := by
  induction run with
  | stopped s => exact absurd enough (Nat.not_le.mpr (room_below_limit s room))
  | broken s f => exact absurd enough (Nat.not_le.mpr (room_below_limit s room))
  | passed s => exact absurd enough (Nat.not_le.mpr (room_below_limit s room))
  | unrecorded s f h record =>
      exact (recorded_granted s.failed _ h f (failing_unannounced s) record granted heard).elim
  | again s h r more later ih =>
      have grows := failures_failed room
      rw [failed_attempts_failed] at enough
      rw [List.append_cons] at granted heard
      have left : limit s.failed.ceiling ≤ s.failed.failures.toNat + failedAttempts h := by
        change limit s.ceiling ≤ _
        omega
      obtain ⟨n, member⟩ := ih (.inr more) left (granted_after _ h granted)
        (heard_after _ h (failed_unannounced s _ _) heard)
      refine ⟨n, ?_⟩
      rw [List.append_cons, asked_append]
      exact List.mem_append_right _ member
  | exhausted s h told full escalation =>
      rw [List.append_cons] at heard
      have line := heard_after _ h (failed_unannounced s _ _) heard
      change ∃ n, Call.notify s.failed.id n ∈ _
      refine ⟨s.failed.failures, ?_⟩
      rw [asked_append]
      apply List.mem_append_right
      cases escalation with
      | unannounced f => exact (heard_fails [] [] _ f (by simp [Unannounced, asked]) line).elim
      | delivered => simp [asked]
      | undelivered f => simp [asked]

theorem driven_must_notify (id : UInt64) (ceiling : UInt32) (h : History) (r : Except Fault Report)
    (run : Driven id ceiling h r) (enough : limit ceiling ≤ failedAttempts h) (granted : StoreGranted h)
    (heard : Heard h) : ∃ n, .notify id n ∈ asked h := by
  cases run with
  | unbegun f => exact (store_fails [] _ f rfl rfl granted).elim
  | unstarted f =>
      exact (heard_fails [⟨.begin id, .ok ()⟩] [] _ f (by simp [Unannounced, asked]) heard).elim
  | started h r attempted =>
      obtain ⟨n, member⟩ := attempted_must_notify ⟨id, 0, ceiling⟩ (.inl rfl) h r attempted
        (Nat.le_trans enough (Nat.le_add_left _ _)) (granted_after _ h granted) (heard_after _ h (opening_unannounced id) heard)
      refine ⟨n, ?_⟩
      rw [asked_append]
      exact List.mem_append_right _ member

theorem supervised_must_notify (ceiling : UInt32) (body : History) (line : String) (told : Except Fault Unit)
    (notes : History) (r : Except Fault Report) (run : Supervised ceiling body line told notes r)
    (quiet : ∀ e ∈ notes, IsNote e) (enough : limit ceiling ≤ failedAttempts (body ++ ⟨.log line, told⟩ :: notes))
    (granted : StoreGranted (body ++ ⟨.log line, told⟩ :: notes))
    (heard : Heard (body ++ ⟨.log line, told⟩ :: notes)) :
    ∃ id n, .notify id n ∈ asked (body ++ ⟨.log line, told⟩ :: notes) := by
  have closing : failedAttempts (body ++ ⟨.log line, told⟩ :: notes) = failedAttempts body := by
    have silent : verdicts (⟨.log line, told⟩ :: notes) = [] := (notes_silent notes quiet).2
    rw [failedAttempts, verdicts_append, silent, List.append_nil]
    rfl
  rw [closing] at enough
  have inside := (List.forall_mem_append.mp granted).1
  have audible := heard_before _ _ heard
  have driven (id : UInt64) (rest : History) (ended : Except Fault Report) (inner : Driven id ceiling rest ended)
      (whole : body = ⟨.allocate, .ok id⟩ :: rest) :
      ∃ id n, .notify id n ∈ asked (body ++ ⟨.log line, told⟩ :: notes) := by
    subst whole
    obtain ⟨n, member⟩ := driven_must_notify id ceiling rest ended inner enough
      (granted_after [⟨.allocate, .ok id⟩] rest inside)
      (heard_after [⟨.allocate, .ok id⟩] rest (by simp [Unannounced, asked]) audible)
    refine ⟨id, n, ?_⟩
    rw [asked_append]
    exact List.mem_append_left _ (List.mem_cons_of_mem _ member)
  cases run with
  | unallocated f => exact (store_fails [] _ f rfl rfl inside).elim
  | faulted id f rest told notes inner => exact driven id rest _ (driven_course inner) rfl
  | finished id report rest told notes inner => exact driven id rest _ (driven_course inner) rfl

theorem notifies_only_at_exhaustion (ceiling : UInt32) (w : Watch σ) (s : σ) :
    ((asked ((supervise ceiling).history w.answer s)).filter isNotify).length ≤ 1 ∧
    (∀ before id n sent rest,
      (supervise ceiling).history w.answer s = before ++ ⟨.notify id n, sent⟩ :: rest →
        AtExhaustion ceiling ((supervise ceiling).run w.answer s).1 id n sent before rest ∧
        (id = w.id → w.count (leave w.answer s before) = some n)) ∧
    (limit ceiling ≤ failedAttempts ((supervise ceiling).history w.answer s) →
      StoreGranted ((supervise ceiling).history w.answer s) →
      Heard ((supervise ceiling).history w.answer s) →
        ∃ id n, .notify id n ∈ asked ((supervise ceiling).history w.answer s)) ∧
    ∀ report, ((supervise ceiling).run w.answer s).1 = .ok report → report.outcome ≠ .exhausted →
      ∀ id n, .notify id n ∉ asked ((supervise ceiling).history w.answer s) := by
  obtain ⟨body, line, told, notes, split, quiet, supervised⟩ := supervised_history ceiling w.answer s
  have exhausted := supervised_exhausted ceiling body line told notes _ supervised quiet
  have must := supervised_must_notify ceiling body line told notes _ supervised quiet
  rw [← split] at exhausted must
  have moment : ∀ before id n sent rest,
      (supervise ceiling).history w.answer s = before ++ ⟨.notify id n, sent⟩ :: rest →
        AtExhaustion ceiling ((supervise ceiling).run w.answer s).1 id n sent before rest ∧
        (id = w.id → w.count (leave w.answer s before) = some n) := by
    intro before id n sent rest here
    rcases exhausted with silent | ⟨own, m, first, given, last, whole, silent, found, persisted⟩
    · have none := silent ⟨.notify id n, sent⟩ (by simp [here])
      cases none
    · obtain ⟨rfl, same, rfl⟩ := notification_unique first last before rest _ _ silent
        (after_silent last found.after) rfl (whole.symm.trans here)
      cases same
      refine ⟨found, ?_⟩
      rintro rfl
      rw [count_within w s ceiling first _ here]
      exact persisted _
  refine ⟨?_, moment, must, ?_⟩
  · rcases exhausted with silent | ⟨id, n, before, sent, rest, whole, silent, found, -⟩
    · rw [silent_asked _ silent]
      exact Nat.zero_le 1
    · rw [whole, asked_append, List.filter_append, silent_asked before silent]
      change ([] ++ Call.notify id n :: (asked rest).filter isNotify).length ≤ 1
      rw [silent_asked rest (after_silent rest found.after)]
      exact Nat.le_refl 1
  · intro report result other id n member
    obtain ⟨e, inside, call⟩ := List.mem_map.mp member
    obtain ⟨before, rest, here⟩ := List.append_of_mem inside
    obtain ⟨c, sent⟩ := e
    obtain rfl : c = .notify id n := call
    have found := (moment before id n sent rest here).1
    exact other (congrArg Report.outcome (found.result report result))

def unreachable : (c : Call) → Nat → Answer c × Nat
  | .notify _ _, n => (.error ⟨.notification, "down"⟩, n)
  | c, n => obliging (fun _ => .failure) c n

theorem unreachable_given (s : Nat × Option UInt32) (h : History)
    (given : Program.Given (Watch.beside unreachable 1).answer s h) :
    Clean h ∧ ⟨.stopRequested, true⟩ ∉ h ∧ .ok .success ∉ verdicts h := by
  induction h generalizing s with
  | nil => simp [Clean, verdicts]
  | cons e rest ih =>
      obtain ⟨c, x⟩ := e
      obtain ⟨now, later⟩ := given
      obtain ⟨clean, unstopped, failed⟩ := ih _ later
      obtain rfl : ((Watch.beside unreachable 1).answer c s).1 = x := now
      refine ⟨List.forall_mem_cons.mpr ⟨by cases c <;> rfl, clean⟩, ?_, ?_⟩
      · intro member
        rcases List.mem_cons.mp member with first | last
        · cases c <;> cases first
        · exact unstopped last
      · cases c with
        | attempt =>
            intro member
            rcases List.mem_cons.mp member with first | last
            · cases first
            · exact failed last
        | _ => exact failed

-- A ceiling of 0 still allows one attempt, and its failure is told although nobody listens.
theorem notifies_only_at_exhaustion_unheard :
    ∃ before sent rest,
      (supervise 0).history (Watch.beside unreachable 1).answer (0, none) =
        before ++ ⟨.notify 1 1, sent⟩ :: rest ∧
      AtExhaustion 0 ((supervise 0).run (Watch.beside unreachable 1).answer (0, none)).1 1 1 sent before rest ∧
      (Watch.beside unreachable 1).count
        (leave (Watch.beside unreachable 1).answer (0, none) before) = some 1 := by
  obtain ⟨clean, unstopped, failed⟩ := unreachable_given (0, none) _ (Program.history_given _ (supervise 0) _)
  obtain ⟨-, moment, must, -⟩ := notifies_only_at_exhaustion 0 (Watch.beside unreachable 1) (0, none)
  have enough : limit 0 ≤ failedAttempts ((supervise 0).history (Watch.beside unreachable 1).answer (0, none)) := by
    obtain ⟨body, line, told, notes, split, quiet, supervised⟩ :=
      supervised_history 0 (Watch.beside unreachable 1).answer (0, none)
    rw [split] at clean unstopped failed ⊢
    obtain ⟨id, report, attempts, -, -, retried, judged, -⟩ := supervised_retried 0 body line told notes _ supervised
      quiet clean fun member => unstopped (List.mem_append_left _ member)
    rw [judged] at failed
    rw [failedAttempts, judged]
    cases retried with
    | passed more below result own => simp [own] at failed
    | exhausted more sent reached result own =>
        rw [own, List.count_replicate_self, ← reached]
        exact Nat.le_of_eq (Nat.zero_add more)
  have heard : Heard ((supervise 0).history (Watch.beside unreachable 1).answer (0, none)) := by
    intro before message f rest here
    have none := clean (lost message f) (by simp [here])
    cases none
  obtain ⟨id, n, member⟩ := must enough (fun e inside _ => clean e inside) heard
  obtain ⟨⟨c, sent⟩, inside, call⟩ := List.mem_map.mp member
  obtain rfl : c = .notify id n := call
  obtain ⟨before, rest, here⟩ := List.append_of_mem inside
  obtain ⟨found, persisted⟩ := moment before id n sent rest here
  obtain rfl : n = 1 := UInt32.toNat_inj.mp found.number
  obtain ⟨between, begun⟩ := found.begun
  have first : ((supervise 0).history (Watch.beside unreachable 1).answer (0, none)).head? =
      some ⟨.allocate, .ok 1⟩ := rfl
  obtain rfl : id = 1 := by simpa [here, begun] using first
  exact ⟨before, sent, rest, here, found, persisted rfl⟩

end Overseer.Session
