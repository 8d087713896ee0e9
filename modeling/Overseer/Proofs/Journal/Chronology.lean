import Overseer.Proofs.Journal.Appending
import Overseer.Proofs.Time.Order

set_option autoImplicit false

namespace Overseer.Journal

open Time (Instant Stamp)

variable {path : String} {σ : Type}

-- The part of a line by which the lines of a log are sorted.
def front (line : List Char) : List Char := line.take 26

def Sorted (fronts : List (List Char)) : Prop := fronts.Pairwise fun a b => ¬b < a

def Onward (times : List Instant) : Prop := times.Pairwise fun a b => ¬b.Before a

theorem front_stamp (e : Entry) (plain : e.time.Plain) :
    front e.line.toList = (Stamp.ofInstant e.time).chars ∧ front e.text.toList = (Stamp.ofInstant e.time).chars := by
  have length := Stamp.chars_length plain
  have text : e.text.toList = (Stamp.ofInstant e.time).chars ++ ':' :: ' ' :: e.message.toList := by
    simp [Entry.text, Stamp.text, String.toList_append]
  exact ⟨(congrArg front (line_chars e)).trans (List.take_left' length), (congrArg front text).trans (List.take_left' length)⟩

theorem stamps_onward (a b : Instant) (first : a.Plain) (second : b.Plain) (onward : ¬b.Before a) :
    ¬(Stamp.ofInstant b).chars < (Stamp.ofInstant a).chars := by
  intro back
  have less : (Stamp.ofInstant b).text < (Stamp.ofInstant a).text := by
    rwa [String.lt_iff, Stamp.text, Stamp.text, String.toList_ofList, String.toList_ofList]
  by_cases same : b.micro = a.micro
  · rw [(Stamp.text_micro b a second first).mpr same] at less
    exact absurd less (String.lt_irrefl _)
  · exact onward ((Stamp.text_before b a second first same).mp less)

theorem fronts_sorted (entries : List Entry) (plain : ∀ e ∈ entries, e.time.Plain) (onward : Onward (entries.map Entry.time)) :
    Sorted (entries.map fun e => (Stamp.ofInstant e.time).chars) := by
  unfold Sorted
  unfold Onward at onward
  rw [List.pairwise_map] at onward ⊢
  exact onward.imp_of_mem fun inside inside' less => stamps_onward _ _ (plain _ inside) (plain _ inside') less

theorem taken_among (calls : List (Entry × Except Failure Unit)) : (taken calls).Sublist (calls.map Prod.fst) := by
  induction calls with
  | nil => exact .slnil
  | cons c rest ih =>
      obtain ⟨e, r⟩ := c
      cases r with
      | ok done => exact ih.cons_cons e
      | error f => exact ih.cons e

structure Sorts (paper : Paper path σ) (console : Bool) (s : σ) (before : Sheet) (said : List String)
    (calls : List (Entry × Except Failure Unit)) : Prop where
  messages : (calls.map fun c => c.1.message) = said
  told : calls.map Prod.snd = ((Sink.logEach ⟨path, console⟩ said).run paper.answer s).1
  timed : (calls.map fun c => c.1.time) = clocks ((Sink.logEach ⟨path, console⟩ said).history paper.answer s)
  file : ∃ after, paper.sheet ((Sink.logEach ⟨path, console⟩ said).run paper.answer s).2 = some after ∧
    after.file = before.file ++ (transcript (taken calls)).toUTF8
  entries : Sorted ((taken calls).map fun e => front e.line.toList)
  lines : (∀ message ∈ said, '\n' ∉ message.toList) →
    Sorted ((textLines (transcript (taken calls))).map front)

theorem stamps_sort_chronologically :
    (∀ a b : Instant, a.Plain → b.Plain →
      ((Stamp.ofInstant a).text.length = 26 ∧ (Stamp.ofInstant b).text.length = 26) ∧
      ((Stamp.ofInstant a).text = (Stamp.ofInstant b).text ↔ a.micro = b.micro) ∧
      (a.micro ≠ b.micro → ((Stamp.ofInstant a).text < (Stamp.ofInstant b).text ↔ a.Before b)) ∧
      (Stamp.ofText (Stamp.ofInstant a).text).map Stamp.instant = some a.micro) ∧
    ∀ (paper : Paper path σ) (console : Bool) (said : List String) (s : σ) (before : Sheet), paper.sheet s = some before →
      (∀ t ∈ clocks ((Sink.logEach ⟨path, console⟩ said).history paper.answer s), t.Plain) →
      Onward (clocks ((Sink.logEach ⟨path, console⟩ said).history paper.answer s)) →
      ∃ calls, Sorts paper console s before said calls := by
  constructor
  · intro a b first second
    have length (t : Instant) (plain : t.Plain) : (Stamp.ofInstant t).text.length = 26 := by
      rw [Stamp.text, String.length_ofList, Stamp.chars_length plain]
    refine ⟨⟨length a first, length b second⟩, Stamp.text_micro a b first second, Stamp.text_before a b first second, ?_⟩
    rw [Stamp.of_text first, Option.map_some, Stamp.instant_of_stamp first]
  · intro paper console said s before held plain onward
    have run := Program.runs_history paper.answer (Sink.logEach ⟨path, console⟩ said) s
    have given := Program.history_given paper.answer (Sink.logEach ⟨path, console⟩ said) s
    obtain ⟨calls, sequence, messages, told⟩ := sequence_course said _ _ run
    obtain ⟨after, left, extended⟩ := sequence_extends paper console sequence s given before held
    rw [Program.leave_history] at left
    have timed := sequence_clocks sequence
    rw [timed] at plain onward
    have among := taken_among calls
    have times := among.map Entry.time
    rw [List.map_map] at times
    have plainly (e : Entry) (member : e ∈ taken calls) : e.time.Plain :=
      plain _ (times.subset (List.mem_map_of_mem member))
    have sorted := fronts_sorted (taken calls) plainly (onward.sublist times)
    refine ⟨calls, messages, told, timed.symm, ⟨after, left, extended.file⟩, ?_, fun unbroken => ?_⟩
    · rwa [List.map_congr_left fun e member => (front_stamp e (plainly e member)).1]
    · have whole : ∀ e ∈ taken calls, '\n' ∉ e.message.toList := by
        intro e member
        have inside := (among.map Entry.message).subset (List.mem_map_of_mem member)
        rw [List.map_map] at inside
        exact unbroken _ (messages ▸ inside)
      have fronts (e : Entry) (member : e ∈ taken calls) := (front_stamp e (plainly e member)).2
      rwa [lines_transcript _ whole, List.map_map, Function.comp_def, List.map_congr_left fronts]

def lastLeap : Instant := ⟨1483228799, 1999999999⟩

def newYear : Instant := ⟨1483228800, 0⟩

def overNewYear : Paper "log" (Sheet × Nat) := (Paper.plain "log").clocked fun n => if n = 0 then lastLeap else newYear

theorem leap_second_sorts :
    (Stamp.ofInstant lastLeap).text = "2016-12-31 23:59:60.999999" ∧
      (Stamp.ofInstant lastLeap).text < (Stamp.ofInstant newYear).text ∧
      (Stamp.ofText (Stamp.ofInstant lastLeap).text).map Stamp.instant = some ⟨1483228799, 1999999000⟩ ∧
      ∃ calls, Sorts overNewYear true (⟨.empty, .empty⟩, 0) ⟨.empty, .empty⟩ ["first", "second"] calls := by
  have leap : lastLeap.Plain := ⟨by decide, by decide, by decide⟩
  have next : newYear.Plain := ⟨by decide, by decide, by decide⟩
  have readings : clocks ((Sink.logEach ⟨"log", true⟩ ["first", "second"]).history overNewYear.answer (⟨.empty, .empty⟩, 0)) =
      [lastLeap, newYear] := rfl
  obtain ⟨stamps, logs⟩ := @stamps_sort_chronologically "log" (Sheet × Nat)
  obtain ⟨-, -, order, recovered⟩ := stamps lastLeap newYear leap next
  refine ⟨by decide, (order (by decide)).mpr (by decide), recovered, logs overNewYear true _ _ _ rfl ?_ ?_⟩
  · rw [readings]
    exact List.forall_mem_cons.mpr ⟨leap, List.forall_mem_singleton.mpr next⟩
  · rw [readings]
    unfold Onward
    decide

end Overseer.Journal
