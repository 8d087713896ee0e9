import Overseer.Proofs.Journal.Logging
import Overseer.Proofs.Journal.Paper
import Overseer.Proofs.Journal.Transcript

set_option autoImplicit false

namespace Overseer.Journal

open Host (Action Machine)
open Program (Given Runs leave)

variable {path : String} {σ : Type}

def taken (calls : List (Entry × Except Failure Unit)) : List Entry :=
  calls.filterMap fun
    | (e, .ok ()) => some e
    | (_, .error _) => none

def clocks (h : List Exchange) : List Time.Instant :=
  h.filterMap fun
    | ⟨.clock, time⟩ => some time
    | _ => none

def prints (h : List Exchange) : List String :=
  h.filterMap fun
    | ⟨.print text, _⟩ => some text
    | _ => none

def mirror (console : Bool) (entries : List Entry) : List String := if console then entries.map Entry.line else []

structure Extends (paper : Paper path σ) (console : Bool) (before : Sheet) (entries : List Entry) (after : Sheet) :
    Prop where
  file : after.file = before.file ++ (transcript entries).toUTF8
  printed : paper.Prints console → after.printed = before.printed ++ (String.join (mirror console entries)).toUTF8

variable (paper : Paper path σ) (console : Bool)

theorem extends_none (sheet : Sheet) : Extends paper console sheet [] sheet := by
  refine ⟨ByteArray.append_empty.symm, fun _ => ?_⟩
  cases console <;> exact ByteArray.append_empty.symm

theorem mirror_append (a b : List Entry) : mirror console (a ++ b) = mirror console a ++ mirror console b := by
  cases console with
  | false => rfl
  | true => exact List.map_append

theorem extends_trans (a b : List Entry) (first second third : Sheet) (left : Extends paper console first a second)
    (right : Extends paper console second b third) : Extends paper console first (a ++ b) third where
  file := by rw [right.file, left.file, transcript_bytes, ByteArray.append_assoc]
  printed heard := by rw [right.printed heard, left.printed heard, mirror_append, join_bytes, ByteArray.append_assoc]

theorem logged_extends (e : Entry) (h : List Exchange) (r : Except Failure Unit) (logged : Logged ⟨path, console⟩ e h r)
    (s : σ) (given : Given paper.answer s h) (p : Sheet) (held : paper.sheet s = some p) :
    ∃ after, paper.sheet (leave paper.answer s h) = some after ∧ Extends paper console p (taken [(e, r)]) after := by
  have timed := paper.timed s p held
  have opened := paper.opened _ p timed
  cases logged with
  | unopened r => exact ⟨p, opened, extends_none paper console p⟩
  | unextended r =>
      obtain ⟨-, -, refused, -⟩ := given
      exact ⟨p, paper.unextended _ p _ r opened refused, extends_none paper console p⟩
  | added display displayed =>
      obtain ⟨-, -, granted, showing⟩ := given
      have extended := paper.extended _ p _ opened granted
      have file : p.file ++ e.line.toUTF8 = p.file ++ (transcript [e]).toUTF8 := by simp [transcript]
      cases displayed with
      | hidden off =>
          obtain rfl : console = false := off
          exact ⟨_, extended, file, fun _ => ByteArray.append_empty.symm⟩
      | shown on told =>
          obtain rfl : console = true := on
          obtain ⟨answered, -⟩ := showing
          cases told with
          | ok done => exact ⟨_, paper.printed _ _ _ extended answered, file, fun _ => by simp [mirror, taken]⟩
          | error refusal =>
              obtain ⟨part, partly⟩ := paper.unprinted _ _ _ refusal extended answered
              refine ⟨_, partly, file, fun heard => ?_⟩
              rw [heard rfl] at answered
              cases answered

def Sink.logEach (sink : Sink) (said : List String) : Action (List (Except Failure Unit)) := said.mapM sink.log

inductive Sequence (sink : Sink) : List (Entry × Except Failure Unit) → List Exchange → Prop where
  | nil : Sequence sink [] []
  | cons (e : Entry) (r : Except Failure Unit) (h : List Exchange) (logged : Logged sink e h r)
      (calls : List (Entry × Except Failure Unit)) (later : List Exchange) (others : Sequence sink calls later) :
      Sequence sink ((e, r) :: calls) (h ++ later)

variable {sink : Sink} {calls : List (Entry × Except Failure Unit)} {h : List Exchange}

theorem sequence_course (said : List String) (h : List Exchange) (told : List (Except Failure Unit))
    (run : Runs (sink.logEach said) h told) :
    ∃ calls, Sequence sink calls h ∧ (calls.map fun c => c.1.message) = said ∧ calls.map Prod.snd = told := by
  induction said generalizing h told with
  | nil =>
      obtain ⟨rfl, rfl⟩ := Program.runs_done run
      exact ⟨[], .nil, rfl, rfl⟩
  | cons message rest ih =>
      rw [Sink.logEach, List.mapM_cons] at run
      obtain ⟨first, r, second, rfl, logging, going⟩ := Program.runs_bind run
      obtain ⟨middle, others, last, rfl, later, ending⟩ := Program.runs_bind going
      obtain ⟨rfl, rfl⟩ := Program.runs_done ending
      rw [List.append_nil]
      obtain ⟨time, logged⟩ := log_course message first r logging
      obtain ⟨calls, sequence, rfl, rfl⟩ := ih middle others later
      exact ⟨_, .cons ⟨time, message⟩ r first logged calls middle sequence, rfl, rfl⟩

theorem sequence_clocks (sequence : Sequence sink calls h) : clocks h = calls.map fun c => c.1.time := by
  induction sequence with
  | nil => rfl
  | cons e r h logged calls later others ih =>
      rw [clocks, List.filterMap_append]
      change clocks h ++ clocks later = _
      rw [ih]
      cases logged with
      | unopened => rfl
      | unextended => rfl
      | added display displayed => cases displayed <;> rfl

theorem taken_cons (c : Entry × Except Failure Unit) : taken (c :: calls) = taken [c] ++ taken calls :=
  List.filterMap_append (l := [c])

theorem logged_prints (e : Entry) (r : Except Failure Unit) (logged : Logged sink e h r) :
    prints h = mirror sink.console (taken [(e, r)]) := by
  unfold mirror
  cases logged with
  | unopened => cases sink.console <;> rfl
  | unextended => cases sink.console <;> rfl
  | added display displayed =>
      cases displayed with
      | hidden off => rw [off]; rfl
      | shown on => rw [on]; rfl

theorem sequence_prints (sequence : Sequence sink calls h) : prints h = mirror sink.console (taken calls) := by
  induction sequence with
  | nil => cases on : sink.console <;> simp [mirror, prints, taken]
  | cons e r h logged calls later others ih =>
      rw [prints, List.filterMap_append]
      change prints h ++ prints later = _
      rw [ih, taken_cons, mirror_append, logged_prints e r logged]

theorem sequence_refused (sequence : Sequence sink calls h) (e : Entry) (f : Failure) (failed : (e, .error f) ∈ calls) :
    f.path = sink.path ∧
      (⟨.openEnd sink.path, .error f.cause⟩ ∈ h ∨ ⟨.extend sink.path e.line.toUTF8, .error f.cause⟩ ∈ h) := by
  induction sequence with
  | nil => cases failed
  | cons own r h logged calls later others ih =>
      rcases List.mem_cons.mp failed with same | after
      · cases same
        cases logged with
        | unopened r => exact ⟨rfl, .inl (by simp)⟩
        | unextended r => exact ⟨rfl, .inr (by simp)⟩
      · obtain ⟨at_, refused⟩ := ih after
        exact ⟨at_, refused.imp (List.mem_append_right h) (List.mem_append_right h)⟩

theorem sequence_extends (sequence : Sequence ⟨path, console⟩ calls h) (s : σ) (given : Given paper.answer s h) (p : Sheet)
    (held : paper.sheet s = some p) :
    ∃ after, paper.sheet (leave paper.answer s h) = some after ∧ Extends paper console p (taken calls) after := by
  induction sequence generalizing s p with
  | nil => exact ⟨p, held, extends_none paper console p⟩
  | cons e r h logged calls later others ih =>
      obtain ⟨now, then_⟩ := (Program.given_append paper.answer s h later).mp given
      obtain ⟨middle, between, first⟩ := logged_extends paper console e h r logged s now p held
      obtain ⟨after, last, second⟩ := ih _ then_ middle between
      rw [Program.leave_append, taken_cons]
      exact ⟨after, last, extends_trans paper console _ _ p middle after first second⟩

-- What a sequence of log calls makes of a sheet, with the calls in order, each with its entry and what it was
-- told.
structure Appends (s : σ) (before : Sheet) (said : List String) (calls : List (Entry × Except Failure Unit)) : Prop where
  messages : (calls.map fun c => c.1.message) = said
  told : calls.map Prod.snd = ((Sink.logEach ⟨path, console⟩ said).run paper.answer s).1
  timed : (calls.map fun c => c.1.time) = clocks ((Sink.logEach ⟨path, console⟩ said).history paper.answer s)
  failed : ∀ e f, (e, .error f) ∈ calls → f.fault.kind = .logSink ∧ f.path = path ∧
    (⟨.openEnd path, .error f.cause⟩ ∈ (Sink.logEach ⟨path, console⟩ said).history paper.answer s ∨
      ⟨.extend path e.line.toUTF8, .error f.cause⟩ ∈ (Sink.logEach ⟨path, console⟩ said).history paper.answer s)
  shown : prints ((Sink.logEach ⟨path, console⟩ said).history paper.answer s) =
    if console then (taken calls).map Entry.line else []
  file : ∃ after, paper.sheet ((Sink.logEach ⟨path, console⟩ said).run paper.answer s).2 = some after ∧
    after.file = before.file ++ (transcript (taken calls)).toUTF8 ∧
    (paper.Prints console →
      after.printed = before.printed ++ (if console then transcript (taken calls) else "").toUTF8)

theorem log_appends_what_it_takes (said : List String) (s : σ) (before : Sheet) (held : paper.sheet s = some before) :
    (∃ calls, Appends paper console s before said calls ∧
      ((∀ message ∈ said, '\n' ∉ message.toList) →
        messages (transcript (taken calls)) = (taken calls).map Entry.message)) ∧
    ∀ e : Entry, parted e.line.toList = some ((Time.Stamp.ofInstant e.time).chars, e.message.toList ++ ['\n']) := by
  refine ⟨?_, parted_line⟩
  have run := Program.runs_history paper.answer (Sink.logEach ⟨path, console⟩ said) s
  have given := Program.history_given paper.answer (Sink.logEach ⟨path, console⟩ said) s
  obtain ⟨calls, sequence, messages, told⟩ := sequence_course said _ _ run
  obtain ⟨after, left, extended⟩ := sequence_extends paper console sequence s given before held
  rw [Program.leave_history] at left
  refine ⟨calls, ⟨messages, told, (sequence_clocks sequence).symm, ?_, sequence_prints sequence, after, left, extended.file, ?_⟩, ?_⟩
  · intro e f failed
    exact ⟨rfl, sequence_refused sequence e f failed⟩
  · intro heard
    rw [extended.printed heard]
    cases console <;> rfl
  · intro unbroken
    apply messages_transcript
    intro e member
    obtain ⟨c, inside, found⟩ := List.mem_filterMap.mp member
    have own : e = c.1 := by
      obtain ⟨own, r⟩ := c
      cases r with
      | error f => cases found
      | ok done => exact (Option.some.inj found).symm
    rw [own]
    apply unbroken
    rw [← messages]
    exact List.mem_map_of_mem inside

def begun : Machine := { Machine.fresh with tree := Files.Tree.empty.put [.text "log"] (.file "old\n".toUTF8 Files.Tree.newMode) }

def deniedOnce : Paper "log" (Machine × Nat) :=
  (Paper.ofMachine Machine.noPrograms "log").hindered fun n => if n = 1 then some .denied else none

theorem begun_sheet : deniedOnce.sheet (begun, 0) = some ⟨"old\n".toUTF8, .empty⟩ := by
  have parsed : Files.Path.ofText "log" = .ok ⟨false, [.into (.text "log")], false⟩ := by rfl
  have there : begun.tree.node? [.text "log"] = some (.file "old\n".toUTF8 Files.Tree.newMode) := by rfl
  have found : begun.tree.findForWriting begun.work "log" =
      .ok (.taken [.text "log"] (.file "old\n".toUTF8 Files.Tree.newMode)) := by
    rw [Files.Tree.writing_walk _ parsed _ (by simp)]
    refine ⟨rfl, ?_⟩
    change begun.tree.walk true Files.Tree.linkLimit [] [.into (.text "log")] = _
    rw [Files.Tree.walk_entry true _ (.text "log") (by decide) (by rw [there]; trivial), Files.Tree.spot, there]
  change sheetOf "log" begun = _
  rw [sheetOf, found]
  rfl

theorem log_appends_what_it_takes_denied_once :
    deniedOnce.sheet (begun, 0) = some ⟨"old\n".toUTF8, .empty⟩ ∧
    ∃ calls, Appends deniedOnce true (begun, 0) ⟨"old\n".toUTF8, .empty⟩ ["a: b", "c\nd", "e"] calls := by
  obtain ⟨⟨calls, appends, -⟩, -⟩ :=
    log_appends_what_it_takes deniedOnce true ["a: b", "c\nd", "e"] (begun, 0) _ begun_sheet
  exact ⟨begun_sheet, calls, appends⟩

end Overseer.Journal
