import Overseer.Host.Machine
import Overseer.Proofs.Workload.Launching

set_option autoImplicit false

namespace Overseer.Workload

open Host (Command Duration Ending Waited)
open Program (Given Runs leave)

variable {σ : Type} {directory : Option String} {left : Option Duration} {h : List Exchange}

def Step.call (directory : Option String) (left : Option Duration) : Step → Host.Call
  | command program arguments => .launch ⟨program, arguments, directory⟩ left
  | sleep seconds => .pause (seconds.toNat * 1000000) left
  | echo message => .mark (message ++ "\n") left

-- What comes of a step. That a line cannot be printed is nothing that comes of it.
inductive Fate where
  | passed (spent : Duration)
  | failed (ending : Ending)
  | unended (u : Unstartable)
  | overdue
deriving DecidableEq, Repr

def Fate.Passed (f : Fate) : Prop := ∃ spent, f = passed spent

def Fate.ofEnding (ending : Ending) (spent : Duration) : Fate :=
  if ending = .exited 0 then passed spent else failed ending

def fateOf : Exchange → Option Fate
  | ⟨.launch c _, .error cause⟩ => some (.unended ⟨c.program, cause⟩)
  | ⟨.launch _ _, .ok .overdue⟩ => some .overdue
  | ⟨.launch _ _, .ok (.ended ending spent)⟩ => some (.ofEnding ending spent)
  | ⟨.pause _ _, .overdue⟩ => some .overdue
  | ⟨.pause _ _, .ended _ spent⟩ => some (.passed spent)
  | ⟨.mark _ _, .overdue⟩ => some .overdue
  | ⟨.mark _ _, .ended _ spent⟩ => some (.passed spent)
  | _ => none

structure Deed where
  call : Host.Call
  fate : Fate

def deeds (h : List Exchange) : List Deed := h.filterMap fun e => (fateOf e).map (⟨e.1, ·⟩)

theorem deeds_append (a b : List Exchange) : deeds (a ++ b) = deeds a ++ deeds b := List.filterMap_append

theorem deeds_cons {e : Exchange} {fate : Fate} (done : fateOf e = some fate) : deeds (e :: h) = ⟨e.1, fate⟩ :: deeds h := by
  rw [deeds, List.filterMap_cons, done]
  rfl

def IsNote (e : Exchange) : Prop := ∃ record, e.1 = .note record

theorem deeds_notes (notes : List Exchange) (quiet : ∀ e ∈ notes, IsNote e) : deeds notes = [] := by
  rw [deeds, List.filterMap_eq_nil_iff]
  rintro ⟨c, x⟩ member
  obtain ⟨record, rfl⟩ : ∃ record, c = .note record := quiet _ member
  rfl

def Fate.progress (left : Option Duration) : Fate → Except Unstartable Progress
  | passed spent => .ok (.passed (remaining left spent))
  | failed _ => .ok .failed
  | unended u => .error u
  | overdue => .ok .overdue

-- A step is done by its call, and then there are notes at most.
structure Stepped (directory : Option String) (left : Option Duration) (step : Step) (h : List Exchange)
    (given : Host.Answer (step.call directory left)) (fate : Fate) (notes : List Exchange) : Prop where
  split : h = ⟨step.call directory left, given⟩ :: notes
  fate : fateOf ⟨step.call directory left, given⟩ = some fate
  quiet : ∀ e ∈ notes, IsNote e

theorem command_course (program : String) (arguments : List String) (r : Except Unstartable Progress)
    (run : Runs (runCommand directory left program arguments) h r) :
    ∃ given fate notes, Stepped directory left (.command program arguments) h given fate notes ∧ r = fate.progress left := by
  obtain ⟨launched, rest, rfl, judging⟩ := Program.runs_call_bind run
  cases launched with
  | error cause =>
      obtain ⟨rfl, rfl⟩ := Program.runs_done judging
      exact ⟨_, _, [], ⟨rfl, rfl, by simp⟩, rfl⟩
  | ok waited =>
      cases waited with
      | overdue =>
          obtain ⟨rfl, rfl⟩ := Program.runs_done judging
          exact ⟨_, _, [], ⟨rfl, rfl, by simp⟩, rfl⟩
      | ended ending spent =>
          by_cases well : ending = .exited 0
          · subst well
            obtain ⟨rfl, rfl⟩ := Program.runs_done judging
            exact ⟨_, .passed spent, [], ⟨rfl, rfl, by simp⟩, rfl⟩
          · simp only [well, if_false] at judging
            obtain ⟨told, last, rfl, ended⟩ := Program.runs_call_bind judging
            obtain ⟨rfl, rfl⟩ := Program.runs_done ended
            refine ⟨_, .failed ending, _, ⟨rfl, ?_, by simp [IsNote]⟩, rfl⟩
            exact congrArg some (if_neg well)

theorem mark_course (message : String) (r : Progress) (run : Runs (mark left message) h r) :
    ∃ given fate notes, Stepped directory left (.echo message) h given fate notes ∧ .ok r = fate.progress left := by
  obtain ⟨marked, rest, rfl, judging⟩ := Program.runs_call_bind run
  cases marked with
  | overdue =>
      obtain ⟨rfl, rfl⟩ := Program.runs_done judging
      exact ⟨_, _, [], ⟨rfl, rfl, by simp⟩, rfl⟩
  | ended told spent =>
      cases told with
      | ok done =>
          obtain ⟨rfl, rfl⟩ := Program.runs_done judging
          exact ⟨_, _, [], ⟨rfl, rfl, by simp⟩, rfl⟩
      | error refusal =>
          obtain ⟨noted, last, rfl, ended⟩ := Program.runs_call_bind judging
          obtain ⟨rfl, rfl⟩ := Program.runs_done ended
          exact ⟨_, _, _, ⟨rfl, rfl, by simp [IsNote]⟩, rfl⟩

theorem step_course (step : Step) (r : Except Unstartable Progress) (run : Runs (runStep directory left step) h r) :
    ∃ given fate notes, Stepped directory left step h given fate notes ∧ r = fate.progress left := by
  cases step with
  | command program arguments => exact command_course program arguments r run
  | sleep seconds =>
      obtain ⟨waited, rest, rfl, judging⟩ := Program.runs_call_bind run
      cases waited with
      | overdue =>
          obtain ⟨rfl, rfl⟩ := Program.runs_done judging
          exact ⟨_, _, [], ⟨rfl, rfl, by simp⟩, rfl⟩
      | ended done spent =>
          obtain ⟨rfl, rfl⟩ := Program.runs_done judging
          exact ⟨_, _, [], ⟨rfl, rfl, by simp⟩, rfl⟩
  | echo message =>
      obtain ⟨first, progress, second, rfl, marking, ending⟩ := Program.runs_bind run
      obtain ⟨rfl, rfl⟩ := Program.runs_done ending
      rw [List.append_nil]
      exact mark_course message progress marking

def passing (directory : Option String) (made : Step × Duration) : Deed :=
  ⟨made.1.call directory none, .passed made.2⟩

inductive Course (directory : Option String) (steps : List Step) (h : List Exchange) :
    Except Unstartable Progress → Prop where
  | whole (made : List (Step × Duration)) (all : steps = made.map Prod.fst)
      (done : deeds h = made.map (passing directory)) : Course directory steps h (.ok (.passed none))
  | halted (made : List (Step × Duration)) (step : Step) (rest : List Step)
      (split : steps = made.map Prod.fst ++ step :: rest) (given : Host.Answer (step.call directory none)) (fate : Fate)
      (done : deeds h = made.map (passing directory) ++ [⟨step.call directory none, fate⟩])
      (member : ⟨step.call directory none, given⟩ ∈ h) (last : fateOf ⟨step.call directory none, given⟩ = some fate)
      (stuck : ¬fate.Passed) : Course directory steps h (fate.progress none)

theorem course_next {step : Step} {rest : List Step} {later : List Exchange} {p : Except Unstartable Progress}
    {given : Host.Answer (step.call directory none)} {notes : List Exchange} {spent : Duration} (record : Diagnostic)
    (stepped : Stepped directory none step h given (.passed spent) notes) (course : Course directory rest later p) :
    Course directory (step :: rest) (⟨.note record, ()⟩ :: (h ++ later)) p := by
  obtain ⟨rfl, fate, quiet⟩ := stepped
  have first : deeds (⟨.note record, ()⟩ :: (⟨step.call directory none, given⟩ :: notes ++ later)) =
      passing directory (step, spent) :: deeds later := by
    change deeds ((⟨step.call directory none, given⟩ :: notes) ++ later) = _
    rw [deeds_append, deeds_cons fate, deeds_notes notes quiet]
    rfl
  cases course with
  | whole made all done =>
      refine .whole ((step, spent) :: made) (by rw [all]; rfl) ?_
      rw [first, done]
      rfl
  | halted made last rest split given fate done member found stuck =>
      refine .halted ((step, spent) :: made) last rest (by rw [split]; rfl) given fate ?_ ?_ found stuck
      · rw [first, done]
        rfl
      · exact List.mem_cons_of_mem _ (List.mem_append_right _ member)

theorem steps_course (steps : List Step) (h : List Exchange) (p : Except Unstartable Progress)
    (run : Runs (runSteps directory none steps) h p) : Course directory steps h p := by
  induction steps generalizing h with
  | nil =>
      obtain ⟨rfl, rfl⟩ := Program.runs_done run
      exact .whole [] rfl rfl
  | cons step rest ih =>
      obtain ⟨told, last, rfl, stepping⟩ := Program.runs_call_bind run
      obtain ⟨first, progress, second, rfl, running, going⟩ := Program.runs_bind stepping
      obtain ⟨given, fate, notes, stepped, rfl⟩ := step_course step progress running
      by_cases passed : fate.Passed
      · obtain ⟨spent, rfl⟩ := passed
        exact course_next _ stepped (ih second going)
      · have ended : second = [] ∧ p = fate.progress none := by
          cases fate with
          | passed spent => exact absurd ⟨spent, rfl⟩ passed
          | failed ending => exact Program.runs_done going
          | unended u => exact Program.runs_done going
          | overdue => exact Program.runs_done going
        obtain ⟨rfl, rfl⟩ := ended
        obtain ⟨rfl, found, quiet⟩ := stepped
        refine .halted [] step rest rfl given fate ?_ (by simp) found passed
        change deeds ((⟨step.call directory none, given⟩ :: notes) ++ []) = _
        rw [List.append_nil, deeds_cons found, deeds_notes notes quiet]
        rfl

-- Nothing but commands fails to pass.
theorem stuck_command {step : Step} {given : Host.Answer (step.call directory none)} {fate : Fate}
    (found : fateOf ⟨step.call directory none, given⟩ = some fate) (stuck : ¬fate.Passed) (intime : fate ≠ .overdue) :
    ∃ program arguments, step = .command program arguments ∧
      ((∃ ending, ending ≠ .exited 0 ∧ fate = .failed ending) ∨ ∃ cause, fate = .unended ⟨program, cause⟩) := by
  cases step with
  | command program arguments =>
      refine ⟨program, arguments, rfl, ?_⟩
      rcases given with cause | ⟨ending, spent⟩ | _
      · exact .inr ⟨cause, (Option.some.inj found).symm⟩
      · obtain rfl : Fate.ofEnding ending spent = fate := Option.some.inj found
        by_cases well : ending = .exited 0
        · exact absurd ⟨spent, if_pos well⟩ stuck
        · exact .inl ⟨ending, well, if_neg well⟩
      · exact absurd (Option.some.inj found).symm intime
  | sleep seconds =>
      cases given with
      | ended done spent => exact absurd ⟨spent, (Option.some.inj found).symm⟩ stuck
      | overdue => exact absurd (Option.some.inj found).symm intime
  | echo message =>
      cases given with
      | ended told spent => exact absurd ⟨spent, (Option.some.inj found).symm⟩ stuck
      | overdue => exact absurd (Option.some.inj found).symm intime

def verdict : Except Unstartable Progress → Except Unstartable Verdict
  | .error u => .error u
  | .ok (.passed _) => .ok .success
  | .ok .failed => .ok .failure
  | .ok .overdue => .ok .failure

theorem attempt_course (w : Workload) (r : Except Unstartable Verdict) (run : Runs w.attempt h r) :
    ∃ first p notes, h = first ++ notes ∧ Runs (runSteps w.directory w.limit w.steps) first p ∧
      (∀ e ∈ notes, IsNote e) ∧ r = verdict p := by
  obtain ⟨first, p, second, rfl, running, ending⟩ := Program.runs_bind run
  refine ⟨first, p, second, rfl, running, ?_⟩
  rcases p with u | made
  · obtain ⟨rfl, rfl⟩ := Program.runs_done ending
    exact ⟨by simp, rfl⟩
  · cases made with
    | passed left =>
        obtain ⟨rfl, rfl⟩ := Program.runs_done ending
        exact ⟨by simp, rfl⟩
    | failed =>
        obtain ⟨rfl, rfl⟩ := Program.runs_done ending
        exact ⟨by simp, rfl⟩
    | overdue =>
        obtain ⟨told, last, rfl, noted⟩ := Program.runs_call_bind ending
        obtain ⟨rfl, rfl⟩ := Program.runs_done noted
        exact ⟨by simp [IsNote], rfl⟩

structure Surroundings (σ : Type) where
  answer : (c : Host.Call) → σ → Host.Answer c × σ
  ends : ∀ command s, (answer (.launch command none) s).1 ≠ .ok .overdue
  wakes : ∀ length s, (answer (.pause length none) s).1 ≠ .overdue
  prints : ∀ line s, (answer (.mark line none) s).1 ≠ .overdue

theorem answer_intime (around : Surroundings σ) (step : Step) (s : σ) :
    fateOf ⟨step.call directory none, (around.answer (step.call directory none) s).1⟩ ≠ some .overdue := by
  intro overdue
  cases step with
  | command program arguments =>
      have ends := around.ends ⟨program, arguments, directory⟩ s
      change fateOf ⟨.launch _ none, (around.answer (.launch _ none) s).1⟩ = _ at overdue
      rcases given : (around.answer (.launch ⟨program, arguments, directory⟩ none) s).1 with cause | ⟨ending, spent⟩ | _
      · rw [given] at overdue
        cases overdue
      · rw [given] at overdue
        change some (Fate.ofEnding ending spent) = _ at overdue
        unfold Fate.ofEnding at overdue
        split at overdue <;> cases overdue
      · exact ends given
  | sleep seconds =>
      have wakes := around.wakes (seconds.toNat * 1000000) s
      change fateOf ⟨.pause _ none, (around.answer (.pause _ none) s).1⟩ = _ at overdue
      cases given : (around.answer (.pause (seconds.toNat * 1000000) none) s).1 with
      | overdue => exact wakes given
      | ended done spent =>
          rw [given] at overdue
          cases overdue
  | echo message =>
      have prints := around.prints (message ++ "\n") s
      change fateOf ⟨.mark _ none, (around.answer (.mark _ none) s).1⟩ = _ at overdue
      cases given : (around.answer (.mark (message ++ "\n") none) s).1 with
      | overdue => exact prints given
      | ended done spent =>
          rw [given] at overdue
          cases overdue

def Surroundings.ofMachine (launch : Host.Machine.Launcher)
    (ends : ∀ command m, (launch command none m).1 ≠ .ok .overdue) : Surroundings Host.Machine where
  answer := Host.Machine.answer launch
  ends := ends
  wakes _ _ := nofun
  prints _ _ := nofun

theorem given_intime (around : Surroundings σ) (s : σ) (step : Step) (given : Host.Answer (step.call directory none))
    (told : Given around.answer s h) (member : ⟨step.call directory none, given⟩ ∈ h) :
    fateOf ⟨step.call directory none, given⟩ ≠ some .overdue := by
  obtain ⟨t, rfl⟩ := Program.given_member around.answer s h told member
  exact answer_intime around step t

theorem steps_append (a b : List Step) (left : Option Duration) :
    runSteps directory left (a ++ b) = (runSteps directory left a).bind fun
      | .ok (.passed left) => runSteps directory left b
      | other => .done other := by
  induction a generalizing left with
  | nil => rfl
  | cons step rest ih =>
      refine congrArg (Program.ask _) (funext fun _ => ?_)
      refine (Program.bind_split (runStep directory left step) fun progress => ?_)
      rcases progress with u | made
      · rfl
      · cases made with
        | passed left => exact ih left
        | failed => rfl
        | overdue => rfl

theorem steps_unlimited (steps : List Step) (left : Option Duration) (h : List Exchange)
    (run : Runs (runSteps directory none steps) h (.ok (.passed left))) : left = none := by
  generalize ended : Except.ok (Progress.passed left) = p at run
  cases steps_course steps h p run with
  | whole => exact Progress.passed.inj (Except.ok.inj ended)
  | halted made step rest split given fate done member found stuck =>
      cases fate with
      | passed spent => exact absurd ⟨spent, rfl⟩ stuck
      | failed ending => cases ended
      | unended u => cases ended
      | overdue => cases ended

def onSuccess (next : Host.Action (Except Unstartable Verdict)) :
    Except Unstartable Verdict → Host.Action (Except Unstartable Verdict)
  | .ok .success => next
  | other => .done other

theorem attempt_append (a b : List Step) :
    (⟨a ++ b, none, directory⟩ : Workload).attempt =
      (⟨a, none, directory⟩ : Workload).attempt.bind (onSuccess (⟨b, none, directory⟩ : Workload).attempt) := by
  unfold attempt
  simp only [Program.bind_eq, Program.bind_assoc]
  rw [steps_append, Program.bind_assoc]
  refine Program.bind_congr _ fun h p run => ?_
  rcases p with u | made
  · rfl
  · cases made with
    | passed left =>
        obtain rfl := steps_unlimited a left h run
        rfl
    | failed => rfl
    | overdue => rfl

def lineOf : Host.Call → Option String
  | .mark line _ => some line
  | _ => none

def marks (h : List Exchange) : List String := h.filterMap fun e => lineOf e.1

def Step.marker : Step → Option String
  | echo message => some (message ++ "\n")
  | _ => none

theorem marks_deeds (h : List Exchange) : marks h = (deeds h).filterMap fun d => lineOf d.call := by
  induction h with
  | nil => rfl
  | cons e rest ih =>
      obtain ⟨c, x⟩ := e
      have undone (fateless : fateOf ⟨c, x⟩ = none) (lineless : lineOf c = none) :
          marks (⟨c, x⟩ :: rest) = (deeds (⟨c, x⟩ :: rest)).filterMap fun d => lineOf d.call := by
        rw [marks, List.filterMap_cons, lineless, deeds, List.filterMap_cons, fateless]
        exact ih
      have done (fate : Fate) (found : fateOf ⟨c, x⟩ = some fate) :
          marks (⟨c, x⟩ :: rest) = (deeds (⟨c, x⟩ :: rest)).filterMap fun d => lineOf d.call := by
        rw [deeds_cons found, marks, List.filterMap_cons, List.filterMap_cons, ← ih]
        rfl
      cases c with
      | launch command left => rcases x with cause | ⟨ending, spent⟩ | _ <;> exact done _ rfl
      | pause length left => cases x <;> exact done _ rfl
      | mark line left => cases x <;> exact done _ rfl
      | _ => exact undone rfl rfl

theorem marker_call (step : Step) : lineOf (step.call directory left) = step.marker := by
  cases step <;> rfl

theorem marks_steps (ran : List Step) (done : (deeds h).map Deed.call = ran.map (Step.call directory none)) :
    marks h = ran.filterMap Step.marker := by
  have lines := congrArg (List.filterMap lineOf) done
  rw [List.filterMap_map, List.filterMap_map] at lines
  rw [marks_deeds]
  exact lines.trans (congrArg (List.filterMap · ran) (funext marker_call))

theorem steps_only (steps : List Step) (p : Except Unstartable Progress) (run : Runs (runSteps directory left steps) h p) :
    ∀ e ∈ h, (fateOf e).isSome ∨ IsNote e := by
  induction steps generalizing left h with
  | nil =>
      obtain ⟨rfl, -⟩ := Program.runs_done run
      exact List.forall_mem_nil _
  | cons step rest ih =>
      obtain ⟨told, last, rfl, stepping⟩ := Program.runs_call_bind run
      obtain ⟨first, progress, second, rfl, running, going⟩ := Program.runs_bind stepping
      obtain ⟨given, fate, notes, ⟨rfl, found, quiet⟩, rfl⟩ := step_course step progress running
      have later : ∀ e ∈ second, (fateOf e).isSome ∨ IsNote e := by
        cases fate with
        | passed spent => exact ih going
        | failed ending => simp [(Program.runs_done going).1]
        | unended u => simp [(Program.runs_done going).1]
        | overdue => simp [(Program.runs_done going).1]
      refine List.forall_mem_cons.mpr ⟨.inr ⟨_, rfl⟩, List.forall_mem_append.mpr ⟨?_, later⟩⟩
      exact List.forall_mem_cons.mpr ⟨.inl (by rw [found]; rfl), fun e member => .inr (quiet e member)⟩

theorem fault_names (u : Unstartable) :
    u.fault.kind = .execution ∧ ∃ before after, u.fault.detail = before ++ u.program ++ after := by
  obtain ⟨program, cause⟩ := u
  refine ⟨rfl, ?_⟩
  cases cause with
  | unstarted r => exact ⟨"failed to spawn '", "': " ++ r.message, String.append_assoc⟩
  | unwatched r => exact ⟨"failed to wait on '", "': " ++ r.message, String.append_assoc⟩

structure InOrder (directory : Option String) (ran left : List Step) (h : List Exchange)
    (r : Except Unstartable Verdict) : Prop where
  done : (deeds h).map Deed.call = ran.map (Step.call directory none)
  others : ∀ e ∈ h, (fateOf e).isSome ∨ IsNote e
  marks : marks h = ran.filterMap Step.marker
  passed : ∀ d ∈ (deeds h).dropLast, d.fate.Passed
  halted : left ≠ [] → ∃ d, (deeds h).getLast? = some d ∧ ¬d.fate.Passed
  command : ∀ d ∈ deeds h, ¬d.fate.Passed → ∃ program arguments, d.call = .launch ⟨program, arguments, directory⟩ none
  success : r = .ok .success ↔ left = [] ∧ ∀ d ∈ deeds h, d.fate.Passed
  failure : r = .ok .failure ↔ ∃ program arguments ending, ending ≠ .exited 0 ∧
    (deeds h).getLast? = some ⟨.launch ⟨program, arguments, directory⟩ none, .failed ending⟩
  fault : ∀ program cause, r = .error ⟨program, cause⟩ ↔
    ∃ arguments, (deeds h).getLast? = some ⟨.launch ⟨program, arguments, directory⟩ none, .unended ⟨program, cause⟩⟩
  naming : ∀ u, r = .error u → u.fault.kind = .execution ∧ ∃ before after, u.fault.detail = before ++ u.program ++ after

theorem made_calls (made : List (Step × Duration)) :
    (made.map (passing directory)).map Deed.call = (made.map Prod.fst).map (Step.call directory none) := by
  rw [List.map_map, List.map_map]
  rfl

theorem made_passed (made : List (Step × Duration)) : ∀ d ∈ made.map (passing directory), d.fate.Passed := by
  intro d member
  obtain ⟨one, -, rfl⟩ := List.mem_map.mp member
  exact ⟨one.2, rfl⟩

theorem whole_order (steps : List Step) (made : List (Step × Duration)) (all : steps = made.map Prod.fst)
    (done : deeds h = made.map (passing directory)) (only : ∀ e ∈ h, (fateOf e).isSome ∨ IsNote e) :
    InOrder directory steps [] h (.ok .success) := by
  have calls : (deeds h).map Deed.call = steps.map (Step.call directory none) := by rw [done, made_calls, all]
  have passed : ∀ d ∈ deeds h, d.fate.Passed := done ▸ made_passed made
  have unfailed (call : Host.Call) (fate : Fate) (last : (deeds h).getLast? = some ⟨call, fate⟩) : fate.Passed :=
    passed _ (List.mem_of_getLast? last)
  refine ⟨calls, only, marks_steps steps calls, fun d member => passed d (List.dropLast_subset _ member), fun some => absurd rfl some,
    fun d member stuck => absurd (passed d member) stuck, ⟨fun _ => ⟨rfl, passed⟩, fun _ => rfl⟩, ⟨nofun, ?_⟩, ?_, nofun⟩
  · rintro ⟨program, arguments, ending, -, last⟩
    obtain ⟨spent, same⟩ := unfailed _ _ last
    cases same
  · refine fun program cause => ⟨nofun, ?_⟩
    rintro ⟨arguments, last⟩
    obtain ⟨spent, same⟩ := unfailed _ _ last
    cases same

theorem halted_order (made : List (Step × Duration)) (program : String) (arguments : List String) (rest : List Step)
    (fate : Fate) (done : deeds h = made.map (passing directory) ++ [⟨.launch ⟨program, arguments, directory⟩ none, fate⟩])
    (only : ∀ e ∈ h, (fateOf e).isSome ∨ IsNote e) (stuck : ¬fate.Passed)
    (command : (∃ ending, ending ≠ .exited 0 ∧ fate = .failed ending) ∨ ∃ cause, fate = .unended ⟨program, cause⟩) :
    InOrder directory (made.map Prod.fst ++ [.command program arguments]) rest h (verdict (fate.progress none)) := by
  have calls : (deeds h).map Deed.call =
      (made.map Prod.fst ++ [Step.command program arguments]).map (Step.call directory none) := by
    rw [done, List.map_append, List.map_append, made_calls]
    rfl
  have last : (deeds h).getLast? = some ⟨.launch ⟨program, arguments, directory⟩ none, fate⟩ := by
    rw [done, List.getLast?_concat]
  have initial : (deeds h).dropLast = made.map (passing directory) := by rw [done, List.dropLast_concat]
  have final (d : Deed) (member : d ∈ deeds h) (stuck : ¬d.fate.Passed) :
      d.call = .launch ⟨program, arguments, directory⟩ none := by
    rw [done] at member
    rcases List.mem_append.mp member with early | late
    · exact absurd (made_passed made d early) stuck
    · rw [List.mem_singleton.mp late]
  have unfinished : ¬∀ d ∈ deeds h, d.fate.Passed := fun all => stuck (all _ (List.mem_of_getLast? last))
  refine ⟨calls, only, marks_steps _ calls, initial ▸ made_passed made, fun _ => ⟨_, last, stuck⟩,
    fun d member stuck => ⟨program, arguments, final d member stuck⟩, ?_, ?_, ?_, fun u _ => fault_names u⟩
  · rcases command with ⟨ending, bad, rfl⟩ | ⟨cause, rfl⟩
    · exact ⟨nofun, fun all => absurd all.2 unfinished⟩
    · exact ⟨nofun, fun all => absurd all.2 unfinished⟩
  · rw [last]
    rcases command with ⟨ending, bad, rfl⟩ | ⟨cause, rfl⟩
    · exact ⟨fun _ => ⟨program, arguments, ending, bad, rfl⟩, fun _ => rfl⟩
    · refine ⟨nofun, ?_⟩
      rintro ⟨other, more, ending, bad, same⟩
      cases same
  · intro own reason
    rw [last]
    rcases command with ⟨ending, bad, rfl⟩ | ⟨cause, rfl⟩
    · refine ⟨nofun, ?_⟩
      rintro ⟨more, same⟩
      cases same
    · constructor
      · intro same
        cases same
        exact ⟨arguments, rfl⟩
      · rintro ⟨more, same⟩
        cases same
        rfl

theorem steps_run_in_order (around : Surroundings σ) (steps : List Step) (directory : Option String) (s : σ) :
    (∃ ran left, steps = ran ++ left ∧ InOrder directory ran left
      ((⟨steps, none, directory⟩ : Workload).attempt.history around.answer s)
      ((⟨steps, none, directory⟩ : Workload).attempt.run around.answer s).1) ∧
    ∀ a b : List Step,
      ((⟨a ++ b, none, directory⟩ : Workload).attempt.run around.answer s =
        match (⟨a, none, directory⟩ : Workload).attempt.run around.answer s with
        | (.ok .success, t) => (⟨b, none, directory⟩ : Workload).attempt.run around.answer t
        | ended => ended) ∧
      (⟨a ++ b, none, directory⟩ : Workload).attempt.history around.answer s =
        (⟨a, none, directory⟩ : Workload).attempt.history around.answer s ++
          match (⟨a, none, directory⟩ : Workload).attempt.run around.answer s with
          | (.ok .success, t) => (⟨b, none, directory⟩ : Workload).attempt.history around.answer t
          | _ => [] := by
  constructor
  · have told := Program.history_given around.answer (⟨steps, none, directory⟩ : Workload).attempt s
    have run := Program.runs_history around.answer (⟨steps, none, directory⟩ : Workload).attempt s
    generalize Program.history around.answer _ s = h at told run
    generalize (Program.run around.answer _ s).1 = r at run
    obtain ⟨first, p, notes, rfl, running, quiet, rfl⟩ := attempt_course _ _ run
    have only : ∀ e ∈ first ++ notes, (fateOf e).isSome ∨ IsNote e :=
      List.forall_mem_append.mpr ⟨steps_only steps p running, fun e member => .inr (quiet e member)⟩
    have same : deeds (first ++ notes) = deeds first := by rw [deeds_append, deeds_notes notes quiet, List.append_nil]
    cases steps_course steps first p running with
    | whole made all done => exact ⟨steps, [], by simp, whole_order steps made all (same.trans done) only⟩
    | halted made step rest split given fate done member found stuck =>
        have intime := given_intime around s step given told (List.mem_append_left notes member)
        obtain ⟨program, arguments, rfl, command⟩ := stuck_command found stuck fun late => intime (late ▸ found)
        refine ⟨made.map Prod.fst ++ [.command program arguments], rest, by rw [split]; simp, ?_⟩
        exact halted_order made program arguments rest fate (same.trans done) only stuck command
  · intro a b
    rw [attempt_append, Program.run_bind, Program.history_bind]
    rcases (⟨a, none, directory⟩ : Workload).attempt.run around.answer s with ⟨r, t⟩
    rcases r with u | ended
    · exact ⟨rfl, rfl⟩
    · cases ended with
      | success => exact ⟨rfl, rfl⟩
      | failure => exact ⟨rfl, rfl⟩

-- A marker that cannot be printed is passed over, and a program that is missing is not.
example :
    let around := Surroundings.ofMachine Host.Machine.noPrograms fun _ _ => nofun
    let attempt := (⟨[.echo "one", .echo "two", .command "none" [], .echo "three"], none, none⟩ : Workload).attempt
    marks (attempt.history around.answer { Host.Machine.fresh with printerFull := true }) = ["one\n", "two\n"] := by
  decide +kernel

end Overseer.Workload
