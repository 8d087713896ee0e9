import Overseer.Proofs.Program.History
import Overseer.Workload.Attempt

set_option autoImplicit false

namespace Overseer.Workload

open Host (Duration Unended)
open Program (Runs)

abbrev Exchange : Type := Program.Exchange Host.Answer

inductive Unlaunched (steps : List Step) (directory : Option String) (h : List Exchange) : Unstartable → Prop where
  | step (program : String) (arguments : List String) (left : Option Duration) (cause : Unended)
      (listed : .command program arguments ∈ steps)
      (refused : ⟨.launch ⟨program, arguments, directory⟩ left, .error cause⟩ ∈ h) :
      Unlaunched steps directory h ⟨program, cause⟩

variable {directory : Option String}

theorem unlaunched_mono (steps more : List Step) (h later : List Exchange) (u : Unstartable)
    (listed : ∀ s ∈ steps, s ∈ more) (within : ∀ e ∈ h, e ∈ later) (unlaunched : Unlaunched steps directory h u) :
    Unlaunched more directory later u := by
  obtain ⟨program, arguments, left, cause, step, refused⟩ := unlaunched
  exact .step program arguments left cause (listed _ step) (within _ refused)

theorem command_unlaunched (left : Option Duration) (program : String) (arguments : List String) (h : List Exchange)
    (u : Unstartable) (run : Runs (runCommand directory left program arguments) h (.error u)) :
    Unlaunched [.command program arguments] directory h u := by
  obtain ⟨launched, rest, rfl, judging⟩ := Program.runs_call_bind run
  cases launched with
  | error cause =>
      obtain ⟨-, ended⟩ := Program.runs_done judging
      obtain rfl := Except.error.inj ended
      exact .step program arguments left cause (by simp) (List.mem_cons_self ..)
  | ok waited =>
      cases waited with
      | overdue =>
          obtain ⟨-, ended⟩ := Program.runs_done judging
          cases ended
      | ended ending spent =>
          by_cases well : ending = .exited 0
          · subst well
            obtain ⟨-, ended⟩ := Program.runs_done judging
            cases ended
          · simp only [well, if_false] at judging
            obtain ⟨told, last, -, ending⟩ := Program.runs_call_bind judging
            obtain ⟨-, ended⟩ := Program.runs_done ending
            cases ended

theorem step_unlaunched (left : Option Duration) (step : Step) (h : List Exchange) (u : Unstartable)
    (run : Runs (runStep directory left step) h (.error u)) : Unlaunched [step] directory h u := by
  cases step with
  | command program arguments => exact command_unlaunched left program arguments h u run
  | sleep seconds =>
      obtain ⟨waited, rest, rfl, ending⟩ := Program.runs_call_bind run
      cases waited with
      | overdue =>
          obtain ⟨-, ended⟩ := Program.runs_done ending
          cases ended
      | ended done spent =>
          obtain ⟨-, ended⟩ := Program.runs_done ending
          cases ended
  | echo message =>
      obtain ⟨first, done, second, rfl, -, ending⟩ := Program.runs_bind run
      obtain ⟨-, ended⟩ := Program.runs_done ending
      cases ended

theorem steps_unlaunched (steps : List Step) (left : Option Duration) (h : List Exchange) (u : Unstartable)
    (run : Runs (runSteps directory left steps) h (.error u)) : Unlaunched steps directory h u := by
  induction steps generalizing left h with
  | nil =>
      obtain ⟨-, ended⟩ := Program.runs_done run
      cases ended
  | cons step rest ih =>
      obtain ⟨told, last, rfl, stepping⟩ := Program.runs_call_bind run
      obtain ⟨first, progress, second, rfl, running, going⟩ := Program.runs_bind stepping
      cases progress with
      | error v =>
          obtain ⟨-, ended⟩ := Program.runs_done going
          obtain rfl := Except.error.inj ended
          exact unlaunched_mono [step] _ first _ u (by simp) (by simp +contextual) (step_unlaunched left step first u running)
      | ok made =>
          cases made with
          | passed left =>
              exact unlaunched_mono rest _ second _ u (by simp +contextual) (by simp +contextual) (ih left second going)
          | failed =>
              obtain ⟨-, ended⟩ := Program.runs_done going
              cases ended
          | overdue =>
              obtain ⟨-, ended⟩ := Program.runs_done going
              cases ended

theorem attempt_unlaunched (w : Workload) (h : List Exchange) (u : Unstartable) (run : Runs w.attempt h (.error u)) :
    Unlaunched w.steps w.directory h u := by
  obtain ⟨first, progress, second, rfl, running, ending⟩ := Program.runs_bind run
  cases progress with
  | error v =>
      obtain ⟨-, ended⟩ := Program.runs_done ending
      obtain rfl := Except.error.inj ended
      exact unlaunched_mono w.steps _ first _ u (by simp) (by simp +contextual) (steps_unlaunched w.steps w.limit first u running)
  | ok made =>
      cases made with
      | passed left =>
          obtain ⟨-, ended⟩ := Program.runs_done ending
          cases ended
      | failed =>
          obtain ⟨-, ended⟩ := Program.runs_done ending
          cases ended
      | overdue =>
          obtain ⟨told, last, -, noted⟩ := Program.runs_call_bind ending
          obtain ⟨-, ended⟩ := Program.runs_done noted
          cases ended

end Overseer.Workload
