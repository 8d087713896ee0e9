import Overseer.Proofs.Session.Watch

set_option autoImplicit false

namespace Overseer.Session

variable {σ : Type}

def Clean (h : History) : Prop := ∀ e ∈ h, faultOf e = none

def FailsAtEnd (f : Fault) (h : History) : Prop :=
  ∃ before e, h = before ++ [e] ∧ Clean before ∧ faultOf e = some f

def Ends {α : Type} : Except Fault α → History → Prop
  | .ok _, h => Clean h
  | .error f, h => FailsAtEnd f h

theorem clean_searched {h : History} (none : h.findSome? faultOf = none) : Clean h := List.findSome?_eq_none_iff.mp none

theorem clean_append (a b : History) (first : Clean a) (second : Clean b) : Clean (a ++ b) :=
  List.forall_mem_append.mpr ⟨first, second⟩

theorem fails_after_clean (f : Fault) (a b : History) (first : Clean a) (second : FailsAtEnd f b) :
    FailsAtEnd f (a ++ b) := by
  obtain ⟨before, e, rfl, clean, fault⟩ := second
  exact ⟨a ++ before, e, (List.append_assoc a before [e]).symm, clean_append a before first clean, fault⟩

theorem ends_after_clean {α : Type} (r : Except Fault α) (a b : History) (first : Clean a) (second : Ends r b) :
    Ends r (a ++ b) := by
  cases r with
  | ok result => exact clean_append a b first second
  | error f => exact fails_after_clean f a b first second

theorem fails_at_once (f : Fault) (e : Exchange) (fault : faultOf e = some f) : FailsAtEnd f [e] :=
  ⟨[], e, rfl, clean_searched rfl, fault⟩

theorem fails_first (f : Fault) (h : History) (fails : FailsAtEnd f h) : h.findSome? faultOf = some f := by
  obtain ⟨before, e, rfl, clean, fault⟩ := fails
  rw [List.findSome?_append, List.findSome?_eq_none_iff.mpr clean]
  simp [fault]

theorem failing_clean (s : Session) : Clean (failing s) := clean_searched rfl

theorem recorded_clean (s : Session) : Clean (recorded s) := clean_searched rfl

theorem moved_clean (id : UInt64) (a b : Phase) : Clean [moved id a b] := clean_searched rfl

theorem recorded_ends (s : Session) (h : History) (r : Except Fault Unit) (run : Recorded s h r) : Ends r h := by
  have saving : Clean [saved s] := clean_searched rfl
  have counting : Clean [saved s, logged (incrementMessage s.failures)] := clean_searched rfl
  cases run with
  | unsaved f => exact fails_at_once f _ rfl
  | uncounted f => exact fails_after_clean f _ _ saving (fails_at_once f _ rfl)
  | unfinished f => exact fails_after_clean f _ _ counting (fails_at_once f _ rfl)
  | whole => exact recorded_clean s

theorem escalated_ends (s : Session) (h : History) (r : Except Fault Unit) (run : Escalated s h r) : Ends r h := by
  cases run with
  | unannounced f => exact fails_at_once f _ rfl
  | delivered => exact clean_searched rfl
  | undelivered f =>
      have before : Clean [logged (escalationMessage s.failures), ⟨.notify s.id s.failures, .error f⟩,
          noted .warn ("Escalation for session " ++ Text.Numeral.word64 s.id ++ " failed: " ++ f.message)] :=
        clean_searched rfl
      cases r with
      | ok done => exact clean_append _ _ before (clean_searched rfl)
      | error g => exact fails_after_clean g _ _ before (fails_at_once g _ rfl)

theorem attempted_ends (s : Session) (h : History) (r : Except Fault Report) (run : Attempted s h r) : Ends r h := by
  induction run with
  | stopped s => exact clean_searched rfl
  | broken s f => exact fails_after_clean f [⟨.stopRequested, false⟩] _ (clean_searched rfl) (fails_at_once f _ rfl)
  | passed s => exact clean_searched rfl
  | unrecorded s f h record =>
      exact fails_after_clean f _ _ (failing_clean s) (recorded_ends s.failed h _ record)
  | again s h r more later ih =>
      rw [List.append_cons]
      apply ends_after_clean r _ _ _ ih
      exact clean_append _ _ (clean_append _ _ (failing_clean s) (recorded_clean s.failed)) (moved_clean _ _ _)
  | exhausted s h told full escalation =>
      rw [List.append_cons]
      have before := clean_append _ _ (clean_append _ _ (failing_clean s) (recorded_clean s.failed))
        (moved_clean s.id .retrying .exhausted)
      have ends := ends_after_clean told _ _ before (escalated_ends s.failed h told escalation)
      cases told with
      | ok done => exact ends
      | error f => exact ends

theorem driven_ends (id : UInt64) (ceiling : UInt32) (h : History) (r : Except Fault Report)
    (run : Driven id ceiling h r) : Ends r h := by
  cases run with
  | unbegun f => exact fails_at_once f _ rfl
  | unstarted f => exact fails_after_clean f [⟨.begin id, .ok ()⟩] _ (clean_searched rfl) (fails_at_once f _ rfl)
  | started h r attempted =>
      exact ends_after_clean r _ _ (clean_searched rfl) (attempted_ends _ h r attempted)

-- What comes before the closing line either fails at its end, and the run returns that fault, or has no
-- fault, and the run returns what became of the closing line.
theorem supervised_ends (ceiling : UInt32) (body : History) (line : String) (told : Except Fault Unit)
    (notes : History) (r : Except Fault Report) (run : Supervised ceiling body line told notes r) :
    (∃ f, FailsAtEnd f body ∧ (∃ id, line = abortMessage id f.message) ∧ r = .error f) ∨
      ∃ report, Clean body ∧ line = report.summary ∧ r = told.map (fun _ => report) ∧
        ∀ g, told = .error g → notes = [] := by
  have allocated (id : UInt64) : Clean [⟨.allocate, .ok id⟩] := clean_searched rfl
  cases run with
  | unallocated f => exact .inl ⟨f, fails_at_once f _ rfl, ⟨0, rfl⟩, rfl⟩
  | faulted id f body told notes driven =>
      have ends := fails_after_clean f _ _ (allocated id) (driven_ends id ceiling body _ (driven_course driven))
      exact .inl ⟨f, ends, ⟨id, rfl⟩, rfl⟩
  | finished id report body told notes driven silent =>
      have clean := clean_append _ _ (allocated id) (driven_ends id ceiling body _ (driven_course driven))
      exact .inr ⟨report, clean, rfl, rfl, silent⟩

theorem kept_last (id : UInt64) (count : Option UInt32) (h : History) :
    kept id count h = ((h.filterMap (written id)).getLast?).or count := by
  induction h generalizing count with
  | nil => rfl
  | cons e rest ih =>
      have step := ih ((written id e).or count)
      cases write : written id e with
      | none => simpa [kept, write] using step
      | some n =>
          rw [write] at step
          cases last : (rest.filterMap (written id)).getLast? with
          | none => simpa [kept, write, last, List.getLast?_cons] using step
          | some m => simpa [kept, write, last, List.getLast?_cons] using step

theorem first_fault_ends_run (ceiling : UInt32) (w : Watch σ) (s : σ) :
    ∃ body line told notes,
      (supervise ceiling).history w.answer s = body ++ ⟨.log line, told⟩ :: notes ∧
      (∀ e ∈ notes, IsNote e) ∧
      (∀ f, body.findSome? faultOf = some f →
        ((supervise ceiling).run w.answer s).1 = .error f ∧ (∃ id, line = abortMessage id f.message) ∧
          ∃ before e, body = before ++ [e] ∧ Clean before ∧ faultOf e = some f) ∧
      (body.findSome? faultOf = none → ∃ report, line = report.summary ∧
        ((supervise ceiling).run w.answer s).1 = told.map (fun _ => report) ∧
          ∀ g, told = .error g → notes = []) ∧
      (∀ f, ((supervise ceiling).run w.answer s).1 = .error f →
        ∃ e ∈ (supervise ceiling).history w.answer s, faultOf e = some f) ∧
      w.count ((supervise ceiling).run w.answer s).2 =
        ((((supervise ceiling).history w.answer s).filterMap (written w.id)).getLast?).or (w.count s) := by
  have count : w.count ((supervise ceiling).run w.answer s).2 =
      ((((supervise ceiling).history w.answer s).filterMap (written w.id)).getLast?).or (w.count s) := by
    rw [← kept_last]
    exact count_after w s ceiling
  obtain ⟨body, line, told, notes, split, quiet, supervised⟩ := supervised_history ceiling w.answer s
  have ended := supervised_ends ceiling body line told notes _ supervised
  generalize ((supervise ceiling).run w.answer s).1 = r at ended ⊢
  refine ⟨body, line, told, notes, split, quiet, ?_, ?_, ?_, count⟩
  · intro f first
    rcases ended with ⟨g, ends, abort, rfl⟩ | ⟨report, clean, -⟩
    · obtain rfl : g = f := Option.some.inj ((fails_first g body ends).symm.trans first)
      exact ⟨rfl, abort, ends⟩
    · rw [List.findSome?_eq_none_iff.mpr clean] at first
      cases first
  · intro none
    rcases ended with ⟨g, ends, -⟩ | ⟨report, -, summary⟩
    · rw [fails_first g body ends] at none
      cases none
    · exact ⟨report, summary⟩
  · rintro f rfl
    rw [split]
    rcases ended with ⟨g, ⟨before, e, rfl, -, fault⟩, -, same⟩ | ⟨report, -, -, result, -⟩
    · cases same
      exact ⟨e, by simp, fault⟩
    · cases told with
      | ok done => cases result
      | error g =>
          cases result
          exact ⟨⟨.log line, .error f⟩, by simp, rfl⟩

end Overseer.Session
