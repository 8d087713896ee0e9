import Overseer.Proofs.Journal.Appending
import Overseer.Proofs.Session.Escalating

set_option autoImplicit false

namespace Overseer.Session

open Journal (Entry Paper Sheet Sink parted textLines transcript)
open Program (Given leave)
open Text (Numeral.word32 Numeral.word64)

variable {σ : Type}

def Broken (message : String) : Prop := '\n' ∈ message.toList

theorem broken_append (a b : String) : Broken (a ++ b) ↔ Broken a ∨ Broken b := by
  rw [Broken, String.toList_append, List.mem_append]
  rfl

theorem word32_unbroken (n : UInt32) : ¬Broken (Numeral.word32 n) := Text.text_free '\n' rfl n.toNat

theorem word64_unbroken (n : UInt64) : ¬Broken (Numeral.word64 n) := Text.text_free '\n' rfl n.toNat

theorem stem_unbroken : ¬Broken incrementStem := by
  unfold incrementStem
  simp [Broken]

theorem increment_unbroken (count : UInt32) : ¬Broken (incrementMessage count) := by
  unfold incrementMessage
  rw [broken_append, broken_append, broken_append]
  rintro (((stem | blank) | number) | dots)
  · exact stem_unbroken stem
  · simp [Broken] at blank
  · exact word32_unbroken count number
  · simp [Broken] at dots

theorem escalation_unbroken (count : UInt32) : ¬Broken (escalationMessage count) := by
  unfold escalationMessage
  rw [broken_append, broken_append]
  rintro ((front | number) | back)
  · simp [Broken] at front
  · exact word32_unbroken count number
  · simp [Broken] at back

theorem start_unbroken : ¬Broken startMessage := by
  simp [Broken, startMessage]

theorem restart_unbroken : ¬Broken restartMessage := by
  simp [Broken, restartMessage]

theorem summary_unbroken (report : Report) : ¬Broken report.summary := by
  obtain ⟨session, outcome⟩ := report
  unfold Report.summary
  cases outcome with
  | _ =>
    simp only [broken_append, word32_unbroken, word64_unbroken, or_false]
    simp [Broken]

theorem abort_broken (id : UInt64) (reason : String) : Broken (abortMessage id reason) ↔ Broken reason := by
  unfold abortMessage
  split
  · rw [broken_append, or_iff_right (by simp [Broken])]
  · rw [broken_append, or_iff_right]
    rw [broken_append, broken_append]
    rintro ((front | number) | middle)
    · simp [Broken] at front
    · exact word64_unbroken id number
    · simp [Broken] at middle

theorem undelivered_broken (reason : String) : Broken (undeliveredMessage reason) ↔ Broken reason := by
  unfold undeliveredMessage
  rw [broken_append, or_iff_right (by simp [Broken])]

theorem fault_broken (f : Fault) : Broken f.message ↔ Broken f.detail := by
  obtain ⟨kind, detail⟩ := f
  cases kind <;> simp [Broken, Fault.message, Fault.Kind.label]

def answered : Exchange → Option Fault
  | ⟨.notify _ _, .error f⟩ => some f
  | e => faultOf e

theorem answered_of_fault (e : Exchange) (f : Fault) (fault : faultOf e = some f) : answered e = some f := by
  obtain ⟨c, x⟩ := e
  cases c with
  | notify id count => cases fault
  | _ => exact fault

-- What a run says is unbroken, or repeats a fault that it was answered.
inductive Said (h : History) (message : String) : Prop where
  | plain (unbroken : ¬Broken message) : Said h message
  | undelivered (e : Exchange) (f : Fault) (member : e ∈ h) (fault : answered e = some f)
      (own : message = undeliveredMessage f.message) : Said h message
  | aborted (e : Exchange) (f : Fault) (id : UInt64) (member : e ∈ h) (fault : answered e = some f)
      (own : message = abortMessage id f.message) : Said h message

def Speaks (h : History) : Prop := ∀ e ∈ h, ∀ message, e.1 = .log message → Said h message

theorem said_mono (h k : History) (message : String) (within : ∀ e ∈ h, e ∈ k) (said : Said h message) :
    Said k message := by
  cases said with
  | plain unbroken => exact .plain unbroken
  | undelivered e f member fault own => exact .undelivered e f (within e member) fault own
  | aborted e f id member fault own => exact .aborted e f id (within e member) fault own

theorem speaks_append (a b : History) (first : Speaks a) (second : Speaks b) : Speaks (a ++ b) := by
  intro e member message call
  rcases List.mem_append.mp member with early | late
  · exact said_mono a _ message (fun e => List.mem_append_left b) (first e early message call)
  · exact said_mono b _ message (fun e => List.mem_append_right a) (second e late message call)

theorem speaks_plain (h : History) (plain : ∀ e ∈ h, ∀ message, e.1 = .log message → ¬Broken message) : Speaks h :=
  fun e member message call => .plain (plain e member message call)

theorem recorded_speaks (s : Session) (h : History) (r : Except Fault Unit) (run : Recorded s h r) : Speaks h := by
  apply speaks_plain
  have counting := increment_unbroken s.failures
  cases run <;> simp [recorded, saved, logged, lost, counting, restart_unbroken]

theorem failing_speaks (s : Session) : Speaks (failing s) := by
  apply speaks_plain
  simp [failing, moved, noted]

theorem moved_speaks (id : UInt64) (a b : Phase) : Speaks [moved id a b] := by
  apply speaks_plain
  simp [moved, noted]

theorem escalated_speaks (s : Session) (h : History) (r : Except Fault Unit) (run : Escalated s h r) : Speaks h := by
  have announcing := escalation_unbroken s.failures
  cases run with
  | unannounced f => exact speaks_plain _ (by simp [lost, announcing])
  | delivered => exact speaks_plain _ (by simp [logged, announcing])
  | undelivered f =>
      intro e member message call
      by_cases own : message = undeliveredMessage f.message
      · exact .undelivered ⟨.notify s.id s.failures, .error f⟩ f (by simp) rfl own
      · apply Said.plain
        simp only [List.mem_cons, List.not_mem_nil, or_false] at member
        rcases member with rfl | rfl | rfl | rfl
        · cases call
          exact announcing
        · cases call
        · cases call
        · cases call
          exact absurd rfl own

theorem attempted_speaks (s : Session) (h : History) (r : Except Fault Report) (run : Attempted s h r) : Speaks h := by
  induction run with
  | stopped s => exact speaks_plain _ (by simp)
  | broken s f => exact speaks_plain _ (by simp)
  | passed s => exact speaks_plain _ (by simp [moved, noted])
  | unrecorded s f h record => exact speaks_append _ _ (failing_speaks s) (recorded_speaks s.failed h _ record)
  | again s h r more later ih =>
      rw [List.append_cons]
      have before := speaks_append _ _ (failing_speaks s) (recorded_speaks s.failed _ _ .whole)
      exact speaks_append _ _ (speaks_append _ _ before (moved_speaks _ _ _)) ih
  | exhausted s h told full escalation =>
      rw [List.append_cons]
      have before := speaks_append _ _ (failing_speaks s) (recorded_speaks s.failed _ _ .whole)
      exact speaks_append _ _ (speaks_append _ _ before (moved_speaks _ _ _)) (escalated_speaks s.failed h told escalation)

theorem driven_speaks (id : UInt64) (ceiling : UInt32) (h : History) (r : Except Fault Report)
    (run : Driven id ceiling h r) : Speaks h := by
  cases run with
  | unbegun f => exact speaks_plain _ (by simp)
  | unstarted f => exact speaks_plain _ (by simp [lost, start_unbroken])
  | started h r attempted =>
      refine speaks_append _ _ (speaks_plain _ ?_) (attempted_speaks _ h r attempted)
      simp [opening, logged, moved, noted, start_unbroken]

theorem supervised_speaks (ceiling : UInt32) (body : History) (line : String) (told : Except Fault Unit)
    (notes : History) (r : Except Fault Report) (run : Supervised ceiling body line told notes r) :
    Speaks body ∧ Said body line := by
  have allocated (id : UInt64) : Speaks [⟨.allocate, .ok id⟩] := speaks_plain _ (by simp)
  have driven (id : UInt64) (rest : History) (ended : Except Fault Report) (inner : Driven id ceiling rest ended) :
      Speaks (⟨.allocate, .ok id⟩ :: rest) :=
    speaks_append _ _ (allocated id) (driven_speaks id ceiling rest ended inner)
  have aborting (f : Fault) (fails : FailsAtEnd f body) (id : UInt64) : Said body (abortMessage id f.message) := by
    obtain ⟨before, e, rfl, -, fault⟩ := fails
    exact .aborted e f id (by simp) (answered_of_fault e f fault) rfl
  have spoken : Speaks body := by
    cases run with
    | unallocated f => exact speaks_plain _ (by simp)
    | faulted id f rest told notes inner => exact driven id rest _ (driven_course inner)
    | finished id report rest told notes inner => exact driven id rest _ (driven_course inner)
  rcases supervised_ends ceiling body line told notes r run with ⟨f, fails, ⟨id, rfl⟩, -⟩ | ⟨report, -, rfl, -⟩
  · exact ⟨spoken, aborting f fails id⟩
  · exact ⟨spoken, .plain (summary_unbroken report)⟩

theorem mem_lines (h : History) (message : String) : message ∈ lines h ↔ logged message ∈ h := by
  rw [lines, List.mem_filterMap]
  constructor
  · rintro ⟨⟨c, x⟩, member, line⟩
    cases c with
    | log own =>
        cases x with
        | error f => cases line
        | ok done =>
            obtain rfl := Option.some.inj line
            exact member
    | _ => cases line
  · exact fun member => ⟨_, member, rfl⟩

theorem supervise_speaks (ceiling : UInt32) (answer : (c : Call) → σ → Answer c × σ) (s : σ) :
    ∀ message ∈ lines ((supervise ceiling).history answer s), Said ((supervise ceiling).history answer s) message := by
  intro message member
  obtain ⟨body, line, told, notes, split, quiet, supervised⟩ := supervised_history ceiling answer s
  obtain ⟨spoken, last⟩ := supervised_speaks ceiling body line told notes _ supervised
  rw [mem_lines] at member
  rw [split] at member ⊢
  have within : ∀ e ∈ body, e ∈ body ++ ⟨.log line, told⟩ :: notes := fun e => List.mem_append_left _
  rcases List.mem_append.mp member with early | late
  · exact said_mono body _ message within (spoken _ early message rfl)
  · rcases List.mem_cons.mp late with same | noted
    · cases same
      exact said_mono body _ message within last
    · obtain ⟨record, impossible⟩ := quiet _ noted
      cases impossible

theorem closing_once (ceiling : UInt32) (answer : (c : Call) → σ → Answer c × σ) (s : σ) (i j : Nat) (a b : String)
    (first : (lines ((supervise ceiling).history answer s))[i]? = some a) (closing : IsClosing a)
    (second : (lines ((supervise ceiling).history answer s))[j]? = some b) (again : IsClosing b) : i = j := by
  obtain ⟨body, line, told, notes, split, quiet, supervised⟩ := supervised_history ceiling answer s
  have opened := supervised_open ceiling body line told notes _ supervised
  have short : (lines (⟨.log line, told⟩ :: notes)).length ≤ 1 := by
    have silent := lines_notes notes quiet
    cases told with
    | error f =>
        change (lines notes).length ≤ 1
        rw [silent]
        exact Nat.zero_le 1
    | ok done =>
        change (line :: lines notes).length ≤ 1
        rw [silent]
        exact Nat.le_refl 1
  have place (k : Nat) (message : String) (found : (lines ((supervise ceiling).history answer s))[k]? = some message)
      (close : IsClosing message) : k = (lines body).length := by
    rw [split, lines_append] at found
    by_cases before : k < (lines body).length
    · rw [List.getElem?_append_left before] at found
      exact absurd close (opened message (.ok ()) ((mem_lines _ _).mp (List.mem_of_getElem? found)))
    · obtain ⟨inside, -⟩ := List.getElem?_eq_some_iff.mp found
      rw [List.length_append] at inside
      omega
  exact (place i a first closing).trans (place j b second again).symm

structure Journaled (sink : Sink) (σ : Type) where
  paper : Paper sink.path σ
  others : (c : Call) → σ → Answer c × σ
  apart : ∀ c s p, paper.sheet s = some p → ∃ printed, paper.sheet (others c s).2 = some ⟨p.file, printed⟩

variable {sink : Sink} (journaled : Journaled sink σ)

def Journaled.answer : (c : Call) → σ → Answer c × σ
  | .log message, s =>
    (((sink.log message).run journaled.paper.answer s).1.mapError Journal.Failure.fault,
      ((sink.log message).run journaled.paper.answer s).2)
  | c, s => journaled.others c s

def Gains (before : Sheet) (s : σ) (entries : List Entry) : Prop :=
  ∃ after, journaled.paper.sheet s = some after ∧ after.file = before.file ++ (transcript entries).toUTF8

theorem gains_none (p : Sheet) (s : σ) (kept : ∃ printed, journaled.paper.sheet s = some ⟨p.file, printed⟩) :
    Gains journaled p s [] := by
  obtain ⟨printed, sheet⟩ := kept
  exact ⟨_, sheet, ByteArray.append_empty.symm⟩

theorem answer_gains (c : Call) (s : σ) (p : Sheet) (held : journaled.paper.sheet s = some p) :
    ∃ entries, entries.map Entry.message = (lineOf ⟨c, (journaled.answer c s).1⟩).toList ∧
      Gains journaled p (journaled.answer c s).2 entries := by
  cases c with
  | log message =>
      have run := Program.runs_history journaled.paper.answer (sink.log message) s
      have given := Program.history_given journaled.paper.answer (sink.log message) s
      obtain ⟨time, logged⟩ := Journal.log_course message _ _ run
      obtain ⟨after, left, extended⟩ :=
        Journal.logged_extends journaled.paper sink.console ⟨time, message⟩ _ _ logged s given p held
      rw [Program.leave_history] at left
      refine ⟨_, ?_, after, left, extended.file⟩
      change _ = (lineOf ⟨.log message, ((sink.log message).run journaled.paper.answer s).1.mapError _⟩).toList
      cases ((sink.log message).run journaled.paper.answer s).1 <;> rfl
  | _ => exact ⟨[], rfl, gains_none journaled p _ (journaled.apart _ s p held)⟩

theorem lines_cons (e : Exchange) (rest : History) : lines (e :: rest) = (lineOf e).toList ++ lines rest := by
  cases line : lineOf e with
  | none => exact List.filterMap_cons_none line
  | some said => exact List.filterMap_cons_some line

theorem journal_leave (h : History) (s : σ) (given : Given journaled.answer s h) (p : Sheet)
    (held : journaled.paper.sheet s = some p) :
    ∃ entries, entries.map Entry.message = lines h ∧ Gains journaled p (leave journaled.answer s h) entries := by
  induction h generalizing s p with
  | nil => exact ⟨[], rfl, gains_none journaled p s ⟨p.printed, held⟩⟩
  | cons e rest ih =>
      obtain ⟨now, later⟩ := given
      obtain ⟨first, message, middle, sheet, file⟩ := answer_gains journaled e.1 s p held
      obtain ⟨others, messages, after, last, whole⟩ := ih _ later middle sheet
      rw [now] at message
      refine ⟨first ++ others, ?_, after, last, ?_⟩
      · rw [List.map_append, message, messages, lines_cons]
      · rw [whole, file, Journal.transcript_bytes, ByteArray.append_assoc]

-- One line for each log call that was granted: with its stamp, and only one of them a closing line.
structure LinePerCall (text : String) (h : History) : Prop where
  newlines : text.toList.count '\n' = (lines h).length
  stamped : ∀ line ∈ textLines text, ∃ time message, parted line = some ((Time.Stamp.ofInstant time).chars, message)
  messages : Journal.messages text = lines h
  closing : ∀ (i j : Nat) (a b : String), (Journal.messages text)[i]? = some a → IsClosing a →
    (Journal.messages text)[j]? = some b → IsClosing b → i = j

theorem unbroken_lines (entries : List Entry) (h : History) (own : entries.map Entry.message = lines h)
    (unbroken : ∀ message ∈ lines h, ¬Broken message)
    (once : ∀ (i j : Nat) (a b : String), (lines h)[i]? = some a → IsClosing a → (lines h)[j]? = some b →
      IsClosing b → i = j) : LinePerCall (transcript entries) h := by
  have plain : ∀ e ∈ entries, '\n' ∉ e.message.toList := by
    intro e member
    exact unbroken e.message (own ▸ List.mem_map_of_mem member)
  have read := (Journal.messages_transcript entries plain).trans own
  refine ⟨?_, ?_, read, read.symm ▸ once⟩
  · have zero : (entries.map fun e => e.message.toList.count '\n').sum = 0 := by
      rw [List.sum_eq_zero_iff_forall_eq_nat]
      intro n member
      obtain ⟨e, inside, rfl⟩ := List.mem_map.mp member
      exact List.count_eq_zero.mpr (plain e inside)
    rw [Journal.count_transcript, zero, ← own, List.length_map]
    rfl
  · intro line member
    rw [Journal.lines_transcript entries plain] at member
    obtain ⟨e, -, rfl⟩ := List.mem_map.mp member
    exact ⟨e.time, _, Journal.parted_text e⟩

theorem log_gains_granted_lines (ceiling : UInt32) (s : σ) (before : Sheet)
    (held : journaled.paper.sheet s = some before) :
    ∃ entries, entries.map Entry.message = lines ((supervise ceiling).history journaled.answer s) ∧
      Gains journaled before ((supervise ceiling).run journaled.answer s).2 entries ∧
      (transcript entries).toList.count '\n' =
        entries.length + (entries.map fun e => e.message.toList.count '\n').sum ∧
      (∀ message ∈ lines ((supervise ceiling).history journaled.answer s), Broken message →
        ∃ e ∈ (supervise ceiling).history journaled.answer s, ∃ f, answered e = some f ∧ Broken f.detail ∧
          (message = undeliveredMessage f.message ∨ ∃ id, message = abortMessage id f.message)) ∧
      ((∀ e ∈ (supervise ceiling).history journaled.answer s, ∀ f, answered e = some f → ¬Broken f.detail) →
        LinePerCall (transcript entries) ((supervise ceiling).history journaled.answer s)) := by
  have given := Program.history_given journaled.answer (supervise ceiling) s
  obtain ⟨entries, messages, gains⟩ := journal_leave journaled _ s given before held
  rw [Program.leave_history] at gains
  have source : ∀ message ∈ lines ((supervise ceiling).history journaled.answer s), Broken message →
      ∃ e ∈ (supervise ceiling).history journaled.answer s, ∃ f, answered e = some f ∧ Broken f.detail ∧
        (message = undeliveredMessage f.message ∨ ∃ id, message = abortMessage id f.message) := by
    intro message member broken
    cases supervise_speaks ceiling journaled.answer s message member with
    | plain unbroken => exact absurd broken unbroken
    | undelivered e f inside fault own =>
        rw [own, undelivered_broken, fault_broken] at broken
        exact ⟨e, inside, f, fault, broken, .inl own⟩
    | aborted e f id inside fault own =>
        rw [own, abort_broken, fault_broken] at broken
        exact ⟨e, inside, f, fault, broken, .inr ⟨id, own⟩⟩
  refine ⟨entries, messages, gains, Journal.count_transcript entries, source, fun whole => ?_⟩
  apply unbroken_lines entries _ messages
  · intro message member broken
    obtain ⟨e, inside, f, fault, split, -⟩ := source message member broken
    exact whole e inside f fault split
  · exact fun i j a b first closing second again => closing_once ceiling journaled.answer s i j a b first closing second again

-- A program whose name has three lines, the second of which reads as the closing line of the session.
def forgery : Entry := ⟨⟨1704067200, 0⟩, "Session 1 succeeded after 0 failures"⟩

def unspawned : Workload.Unstartable := ⟨"no\n" ++ forgery.text ++ "\nsuch", .unstarted .missing⟩

def unspawning : Journaled ⟨"log", false⟩ Sheet where
  paper := .plain "log"
  others
    | .attempt, p => (.error unspawned.fault, p)
    | c, p => ((obliging (fun _ => .failure) c 0).1, p)
  apart c p q held := by
    obtain rfl := Option.some.inj held
    cases c <;> exact ⟨p.printed, rfl⟩

theorem log_gains_granted_lines_unspawned :
    unspawning.paper.sheet ⟨.empty, .empty⟩ = some ⟨.empty, .empty⟩ ∧
    ∃ entries, entries.map Entry.message = lines ((supervise 1).history unspawning.answer ⟨.empty, .empty⟩) ∧
      Gains unspawning ⟨.empty, .empty⟩ ((supervise 1).run unspawning.answer ⟨.empty, .empty⟩).2 entries := by
  obtain ⟨entries, messages, gains, -⟩ := log_gains_granted_lines unspawning 1 ⟨.empty, .empty⟩ ⟨.empty, .empty⟩ rfl
  exact ⟨rfl, entries, messages, gains⟩

theorem unspawned_message :
    unspawned.fault.message = "Execution error: failed to spawn 'no" ++ "\n" ++
      (forgery.text ++ "\n" ++ "such': No such file or directory (os error 2)") := by
  change "Execution" ++ " error: " ++
    ("failed to spawn '" ++ ("no\n" ++ forgery.text ++ "\nsuch") ++ "': " ++ "No such file or directory (os error 2)") = _
  have front : "Execution" ++ " error: " ++ ("failed to spawn '" ++ "no\n") = "Execution error: failed to spawn 'no" ++ "\n" := by
    rfl
  have back : "\nsuch" ++ ("': " ++ "No such file or directory (os error 2)") =
      "\n" ++ "such': No such file or directory (os error 2)" := by
    rfl
  simp only [String.append_assoc] at back ⊢
  rw [← back]
  simp only [← String.append_assoc] at front ⊢
  rw [front]

theorem abort_unspawned :
    abortMessage 1 unspawned.fault.message = abortMessage 1 "Execution error: failed to spawn 'no" ++ "\n" ++
      (forgery.text ++ "\n" ++ "such': No such file or directory (os error 2)") := by
  rw [unspawned_message, abortMessage, abortMessage, if_neg (by decide), if_neg (by decide)]
  simp only [String.append_assoc]

theorem broken_fault_forges_closing_line :
    unspawned.program = "no\n2024-01-01 00:00:00.000000: Session 1 succeeded after 0 failures\nsuch" ∧
    ∃ begun aborted : Entry,
      Gains unspawning ⟨.empty, .empty⟩ ((supervise 1).run unspawning.answer ⟨.empty, .empty⟩).2 [begun, aborted] ∧
      lines ((supervise 1).history unspawning.answer ⟨.empty, .empty⟩) = [begun.message, aborted.message] ∧
      transcript [begun, aborted] = begun.line ++
        Entry.line ⟨aborted.time, abortMessage 1 "Execution error: failed to spawn 'no"⟩ ++ forgery.line ++
          "such': No such file or directory (os error 2)\n" ∧
      (transcript [begun, aborted]).toList.count '\n' = 4 ∧
      IsClosing (abortMessage 1 "Execution error: failed to spawn 'no") ∧ IsClosing forgery.message := by
  have told : lines ((supervise 1).history unspawning.answer ⟨.empty, .empty⟩) =
      [startMessage, abortMessage 1 unspawned.fault.message] := by
    with_unfolding_all rfl
  have given := Program.history_given unspawning.answer (supervise 1) ⟨.empty, .empty⟩
  obtain ⟨entries, messages, gains⟩ := journal_leave unspawning _ _ given ⟨.empty, .empty⟩ rfl
  rw [Program.leave_history] at gains
  obtain ⟨begun, rest, rfl, opening, messages⟩ := List.map_eq_cons_iff.mp (messages.trans told)
  obtain ⟨aborted, rest, rfl, closing, messages⟩ := List.map_eq_cons_iff.mp messages
  obtain rfl := List.map_eq_nil_iff.mp messages
  have text : transcript [begun, aborted] = begun.line ++
      Entry.line ⟨aborted.time, abortMessage 1 "Execution error: failed to spawn 'no"⟩ ++ forgery.line ++
        "such': No such file or directory (os error 2)\n" := by
    have last : "such': No such file or directory (os error 2)" ++ "\n" =
        "such': No such file or directory (os error 2)\n" := by rfl
    have broken : aborted.line = Entry.line ⟨aborted.time, abortMessage 1 unspawned.fault.message⟩ := by
      rw [← closing]
    rw [Journal.transcript_cons, Journal.transcript_cons, broken, abort_unspawned, Journal.line_broken, ← last]
    simp only [Entry.line, transcript, List.map_nil, String.join_nil, String.append_empty, String.append_assoc]
  have starting : begun.message.toList.count '\n' = 0 := by
    rw [opening]
    rfl
  have aborting : (abortMessage 1 "Execution error: failed to spawn 'no").toList.count '\n' = 0 := by
    rw [List.count_eq_zero]
    exact mt (abort_broken 1 _).mp (by simp [Broken])
  refine ⟨by decide, begun, aborted, gains, ?_, text, ?_, abort_closing _ _, summary_closing ⟨⟨1, 0, 1⟩, .succeeded⟩⟩
  · rw [told, opening, closing]
  · rw [text, String.toList_append, String.toList_append, String.toList_append, List.count_append, List.count_append,
      List.count_append, Journal.count_line, Journal.count_line, Journal.count_line, starting, aborting]
    rfl

end Overseer.Session
