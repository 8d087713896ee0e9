import Overseer.Proofs.Session.Transcript

set_option autoImplicit false

namespace Overseer.Session

open Text (Numeral.text Numeral.word32 Numeral.word64)

variable {σ : Type}

inductive Subject where
  | started
  | restarted
  | counted (count : UInt32)
  | escalated (count : UInt32)
  | undelivered (reason : String)
  -- The number is 0 where none was allocated.
  | aborted (id : UInt64) (reason : String)
  | ended (outcome : Outcome) (id : UInt64) (failures : UInt32)
deriving DecidableEq, Repr

-- All that a report says but the ceiling.
def Report.subject (r : Report) : Subject := .ended r.outcome r.session.id r.session.failures

def Subject.sentence : Subject → String
  | started => startMessage
  | restarted => restartMessage
  | counted count => incrementMessage count
  | escalated count => escalationMessage count
  | undelivered reason => undeliveredMessage reason
  | aborted id reason => abortMessage id reason
  | ended outcome id failures => Report.summary ⟨⟨id, failures, 0⟩, outcome⟩

theorem subject_sentence (r : Report) : r.subject.sentence = r.summary := by
  obtain ⟨session, outcome⟩ := r
  cases outcome <;> rfl

-- The kinds of sentences by their first letters, few enough to be read off and many enough to tell.
inductive Stem where
  | start
  | restart
  | increment
  | escalation
  | notification
  | supervisor
  | session

def Stem.letters : Stem → List Char
  | start => ['S', 't']
  | restart => ['R']
  | increment => ['P', 'r', 'o', 'c', 'e', 's', 's', ' ', 'e']
  | escalation => ['P', 'r', 'o', 'c', 'e', 's', 's', ' ', 'h']
  | notification => ['N']
  | supervisor => ['S', 'u']
  | session => ['S', 'e']

def Subject.stem : Subject → Stem
  | started => .start
  | restarted => .restart
  | counted _ => .increment
  | escalated _ => .escalation
  | undelivered _ => .notification
  | aborted id _ => if id = 0 then .supervisor else .session
  | ended _ _ _ => .session

theorem letters_apart (a b : Stem) (begins : a.letters <+: b.letters) : a = b := by
  cases a <;> cases b <;> first | rfl | exact absurd begins (by decide)

theorem stem_letters (subject : Subject) : subject.stem.letters <+: firstLetters subject.sentence := by
  cases subject with
  | started =>
      change ['S', 't'] <+: firstLetters startMessage
      rw [first_letters_start]
      decide
  | restarted =>
      change ['R'] <+: firstLetters restartMessage
      rw [first_letters_restart]
      decide
  | counted count =>
      rw [Subject.sentence, first_letters_increment _ (increment_is_increment count)]
      exact List.prefix_rfl
  | escalated count =>
      rw [Subject.sentence, first_letters_escalation]
      exact List.prefix_rfl
  | undelivered reason =>
      change ['N'] <+: firstLetters (undeliveredMessage reason)
      rw [first_letters_undelivered]
      decide
  | aborted id reason =>
      have letters : (Subject.aborted id reason).stem.letters = (firstLetters (abortMessage id reason)).take 2 := by
        rw [first_letters_abort, Subject.stem]
        split <;> rfl
      exact letters ▸ List.take_prefix 2 _
  | ended outcome id failures =>
      change ['S', 'e'] <+: firstLetters (Report.summary ⟨⟨id, failures, 0⟩, outcome⟩)
      exact first_letters_summary ⟨⟨id, failures, 0⟩, outcome⟩ ▸ List.take_prefix 2 _

theorem stem_unique (a b : Subject) (same : a.sentence = b.sentence) : a.stem = b.stem := by
  rcases List.prefix_or_prefix_of_prefix (stem_letters a) (same ▸ stem_letters b) with first | second
  · exact letters_apart _ _ first
  · exact (letters_apart _ _ second).symm

theorem text_injective (m n : Nat) (same : Numeral.text m = Numeral.text n) : m = n :=
  (numeral_before_blank m n [] [] (by rw [same])).1

theorem word32_injective (a b : UInt32) (same : Numeral.word32 a = Numeral.word32 b) : a = b :=
  UInt32.toNat_inj.mp (text_injective _ _ same)

theorem increment_injective (a b : UInt32) (same : incrementMessage a = incrementMessage b) : a = b :=
  word32_injective a b (String.append_right_inj _ |>.mp (String.append_left_inj _ |>.mp same))

theorem escalation_injective (a b : UInt32) (same : escalationMessage a = escalationMessage b) : a = b :=
  word32_injective a b (String.append_right_inj _ |>.mp (String.append_left_inj _ |>.mp same))

theorem undelivered_injective (a b : String) (same : undeliveredMessage a = undeliveredMessage b) : a = b :=
  String.append_right_inj _ |>.mp same

theorem abort_injective (a b : UInt64) (x y : String) (same : abortMessage a x = abortMessage b y) : a = b ∧ x = y := by
  have stems := stem_unique (.aborted a x) (.aborted b y) same
  by_cases unallocated : a = 0
  · by_cases other : b = 0
    · rw [abortMessage, abortMessage, if_pos unallocated, if_pos other] at same
      exact ⟨unallocated.trans other.symm, String.append_right_inj _ |>.mp same⟩
    · simp [Subject.stem, unallocated, other] at stems
  · by_cases other : b = 0
    · simp [Subject.stem, unallocated, other] at stems
    · have text := congrArg String.toList same
      rw [abort_text a x unallocated, abort_text b y other, List.append_assoc, List.append_assoc] at text
      obtain ⟨id, tails⟩ := numeral_before_blank _ _ _ _ (List.append_cancel_left text)
      exact ⟨UInt64.toNat_inj.mp id, String.toList_inj.mp (List.append_cancel_left tails)⟩

theorem sentence_determines (a b : Subject) (same : a.sentence = b.sentence) : a = b := by
  have stems := stem_unique a b same
  -- Their first letters leave the two kinds that begin with the session, and subjects of one kind.
  cases a <;> cases b <;>
    simp only [Subject.stem, reduceCtorEq, ite_eq_iff, eq_ite_iff, and_false, or_false] at stems ⊢
  case counted.counted count other => rw [increment_injective count other same]
  case escalated.escalated count other => rw [escalation_injective count other same]
  case undelivered.undelivered reason other => rw [undelivered_injective reason other same]
  case aborted.aborted id reason other otherReason =>
    obtain ⟨rfl, rfl⟩ := abort_injective id other reason otherReason same
    rfl
  case aborted.ended id reason outcome other failures => exact summary_ne_abort _ id reason same.symm
  case ended.aborted outcome id failures other reason => exact summary_ne_abort _ other reason same
  case ended.ended outcome id failures other otherId otherFailures =>
    obtain ⟨outcomes, ids, counts⟩ := summary_injective _ _ same
    exact congr (congrArg₂ Subject.ended outcomes ids) counts

theorem within_told (id : UInt64) (message : String) (within : Within id (.log message)) :
    ∃ subject : Subject, message = subject.sentence := by
  cases within with
  | counting count => exact ⟨.counted count, rfl⟩
  | restarting => exact ⟨.restarted, rfl⟩
  | escalating count => exact ⟨.escalated count, rfl⟩
  | regretting reason => exact ⟨.undelivered reason, rfl⟩

theorem driven_told (id : UInt64) (ceiling : UInt32) (h : History) (r : Except Fault Report) (run : Driven id ceiling h r)
    (message : String) (member : logged message ∈ h) : ∃ subject : Subject, message = subject.sentence := by
  cases run with
  | unbegun f => simp [logged] at member
  | unstarted f => simp [logged, lost] at member
  | started h r attempted =>
      rcases List.mem_append.mp member with opened | later
      · obtain rfl : message = startMessage := by simpa [opening, logged, moved, noted] using opened
        exact ⟨.started, rfl⟩
      · exact within_told id message (attempted_within attempted _ later)

theorem supervised_reported (ceiling : UInt32) (body : History) (line : String) (told : Except Fault Unit)
    (notes : History) (report : Report) (run : Supervised ceiling body line told notes (.ok report)) :
    line = report.summary ∧ told = .ok () ∧
      ∃ id rest, body = ⟨.allocate, .ok id⟩ :: rest ∧ Driven id ceiling rest (.ok report) := by
  generalize ended : Except.ok report = r at run
  cases run with
  | unallocated f => cases ended
  | faulted id f => cases ended
  | finished id own rest told notes driven =>
      cases told with
      | error g => cases ended
      | ok done =>
          obtain rfl := Except.ok.inj ended
          exact ⟨rfl, rfl, id, rest, rfl, driven_course driven⟩

-- The lines of a run that ends in a report are its summary and, before it, sentences of other subjects.
theorem reported_lines (ceiling : UInt32) (answer : (c : Call) → σ → Answer c × σ) (s : σ) (report : Report)
    (result : ((supervise ceiling).run answer s).1 = .ok report) :
    ∃ earlier, lines ((supervise ceiling).history answer s) = earlier ++ [report.summary] ∧
      ∀ message ∈ earlier, (∃ subject : Subject, message = subject.sentence) ∧ ¬IsClosing message := by
  obtain ⟨body, line, told, notes, split, quiet, supervised⟩ := supervised_history ceiling answer s
  rw [result] at supervised
  have opened := supervised_open ceiling body line told notes _ supervised
  obtain ⟨rfl, rfl, id, rest, rfl, driven⟩ := supervised_reported ceiling body line told notes report supervised
  refine ⟨lines rest, ?_, fun message member => ?_⟩
  · rw [split, lines_append, lines_cons ⟨.log report.summary, .ok ()⟩, lines_notes notes quiet]
    rfl
  · have call := (mem_lines rest message).mp member
    exact ⟨driven_told id ceiling rest _ driven message call, opened message _ (List.mem_cons_of_mem _ call)⟩

theorem lines_tell_subjects :
    (∀ a b : Subject, a.sentence = b.sentence → a = b) ∧
    (∀ report : Report, report.summary = report.subject.sentence) ∧
    ∀ (σ : Type) (ceiling : UInt32) (answer : (c : Call) → σ → Answer c × σ) (s : σ) (report : Report),
      ((supervise ceiling).run answer s).1 = .ok report →
        (∃ earlier, lines ((supervise ceiling).history answer s) = earlier ++ [report.summary] ∧
          ∀ message ∈ earlier, (∃ subject : Subject, message = subject.sentence) ∧ ¬IsClosing message) ∧
        ∀ (τ : Type) (ceiling' : UInt32) (answer' : (c : Call) → τ → Answer c × τ) (s' : τ) (report' : Report),
          ((supervise ceiling').run answer' s').1 = .ok report' →
          (lines ((supervise ceiling').history answer' s')).getLast? = (lines ((supervise ceiling).history answer s)).getLast? →
            report'.outcome = report.outcome ∧ report'.session.id = report.session.id ∧
              report'.session.failures = report.session.failures := by
  refine ⟨sentence_determines, fun report => (subject_sentence report).symm, ?_⟩
  intro σ ceiling answer s report result
  have told := reported_lines ceiling answer s report result
  refine ⟨told, fun τ ceiling' answer' s' report' result' same => ?_⟩
  obtain ⟨earlier, lines, -⟩ := told
  obtain ⟨earlier', lines', -⟩ := reported_lines ceiling' answer' s' report' result'
  rw [lines, lines', List.getLast?_concat, List.getLast?_concat] at same
  exact summary_injective report' report (Option.some.inj same)

theorem lines_tell_subjects_recovered :
    (∃ earlier, lines ((supervise 2).history (obliging fun k => if k = 0 then .failure else .success) 0) =
        earlier ++ [Report.summary ⟨⟨1, 1, 2⟩, .succeeded⟩] ∧
      ∀ message ∈ earlier, (∃ subject : Subject, message = subject.sentence) ∧ ¬IsClosing message) ∧
    (lines ((supervise 2).history (obliging fun _ => .success) 0)).getLast? ≠
      (lines ((supervise 2).history (obliging fun k => if k = 0 then .failure else .success) 0)).getLast? := by
  have recovered : ((supervise 2).run (obliging fun k => if k = 0 then .failure else .success) 0).1 =
      .ok ⟨⟨1, 1, 2⟩, .succeeded⟩ := by with_unfolding_all rfl
  have straight : ((supervise 2).run (obliging fun _ => .success) 0).1 = .ok ⟨⟨1, 0, 2⟩, .succeeded⟩ := by with_unfolding_all rfl
  obtain ⟨told, unique⟩ := lines_tell_subjects.2.2 _ 2 _ _ _ recovered
  refine ⟨told, fun same => ?_⟩
  obtain ⟨-, -, failures⟩ := unique _ 2 _ _ _ straight same
  exact absurd failures (by decide)

end Overseer.Session
