import Overseer.Journal.Sink
import Overseer.Proofs.Program.History

set_option autoImplicit false

namespace Overseer.Journal

open Program (Runs)

abbrev Exchange : Type := Program.Exchange Host.Answer

inductive Displayed (sink : Sink) (line : String) : List Exchange → Prop where
  | hidden (off : sink.console = false) : Displayed sink line []
  | shown (on : sink.console = true) (told : Except Refusal Unit) : Displayed sink line [⟨.print line, told⟩]

inductive Logged (sink : Sink) (e : Entry) : List Exchange → Except Failure Unit → Prop where
  | unopened (r : Refusal) :
      Logged sink e [⟨.clock, e.time⟩, ⟨.openEnd sink.path, .error r⟩] (.error ⟨sink.path, r⟩)
  | unextended (r : Refusal) : Logged sink e
      [⟨.clock, e.time⟩, ⟨.openEnd sink.path, .ok ()⟩, ⟨.extend sink.path e.line.toUTF8, .error r⟩]
      (.error ⟨sink.path, r⟩)
  | added (display : List Exchange) (displayed : Displayed sink e.line display) : Logged sink e
      (⟨.clock, e.time⟩ :: ⟨.openEnd sink.path, .ok ()⟩ :: ⟨.extend sink.path e.line.toUTF8, .ok ()⟩ :: display)
      (.ok ())

variable {sink : Sink}

theorem display_course (line : String) (h : List Exchange) (done : Unit) (run : Runs (sink.display line) h done) :
    Displayed sink line h := by
  unfold Sink.display at run
  by_cases on : sink.console = true
  · rw [if_pos on] at run
    obtain ⟨told, rest, rfl, ending⟩ := Program.runs_call_bind run
    obtain ⟨rfl, -⟩ := Program.runs_done ending
    exact .shown on told
  · rw [if_neg on] at run
    obtain ⟨rfl, -⟩ := Program.runs_done run
    exact .hidden (Bool.eq_false_iff.mpr on)

theorem log_course (message : String) (h : List Exchange) (r : Except Failure Unit)
    (run : Runs (sink.log message) h r) : ∃ time, Logged sink ⟨time, message⟩ h r := by
  obtain ⟨time, rest, rfl, appending⟩ := Program.runs_call_bind run
  refine ⟨time, ?_⟩
  obtain ⟨first, appended, second, rfl, append, displaying⟩ := Program.runs_bind appending
  obtain ⟨opened, last, rfl, extending⟩ := Program.runs_call_bind append
  cases opened with
  | error refusal =>
      obtain ⟨rfl, rfl⟩ := Program.runs_done extending
      obtain ⟨rfl, rfl⟩ := Program.runs_done displaying
      exact .unopened refusal
  | ok done =>
      obtain rfl := Program.runs_call extending
      cases appended with
      | error refusal =>
          obtain ⟨rfl, rfl⟩ := Program.runs_done displaying
          exact .unextended refusal
      | ok done =>
          obtain ⟨display, shown, none, rfl, displayed, ending⟩ := Program.runs_bind displaying
          obtain ⟨rfl, rfl⟩ := Program.runs_done ending
          rw [List.append_nil]
          exact .added display (display_course _ display shown displayed)

end Overseer.Journal
