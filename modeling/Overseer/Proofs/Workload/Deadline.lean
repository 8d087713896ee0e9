import Overseer.Proofs.Program.Along
import Overseer.Proofs.Workload.Deeds
/-!
A limit on an attempt. On a clock that the steps let go on, an attempt that ends before its limit is the
attempt that it would be without one; where it would end later it fails, at the step that the limit falls
into, and no step after that is started.
-/
set_option autoImplicit false

namespace Overseer.Workload

open Host (Action Command Duration Ending Unended Waited)
open Program (Asks)

variable {σ α : Type} {directory : Option String}

-- A call that there may be a limit on: one that is later than its end changes nothing, and one that is
-- sooner makes it overdue. What it leaves behind then is left open.
structure Punctual {A : Type} (time : σ → Nat) (given : Option Duration → σ → A × σ)
    (spent : A → Option Duration) (overdue : A) : Prop where
  forward : ∀ s, time s ≤ time (given none s).2
  lasting : ∀ s (d : Nat), spent (given none s).1 = some d → time (given none s).2 = time s + d
  same : ∀ s (limit : Nat), time (given none s).2 < time s + limit → given (some limit) s = given none s
  cut : ∀ s (limit : Nat), time s + limit < time (given none s).2 → (given (some limit) s).1 = overdue

def spentWaiting {α : Type} : Waited α → Option Duration
  | .ended _ spent => some spent
  | .overdue => none

def spentRunning : Except Unended (Waited Ending) → Option Duration
  | .ok waited => spentWaiting waited
  | .error _ => none

-- Surroundings with a clock, which steps let go on and notes do not.
structure Clocked (σ : Type) extends Surroundings σ where
  time : σ → Nat
  noting : ∀ record s, time (answer (.note record) s).2 = time s
  launching : ∀ command, Punctual time (fun limit s => answer (.launch command limit) s) spentRunning (.ok .overdue)
  pausing : ∀ length, Punctual time (fun limit s => answer (.pause length limit) s) spentWaiting .overdue
  marking : ∀ line, Punctual time (fun limit s => answer (.mark line limit) s) spentWaiting .overdue

namespace Step

def Reply : Step → Type
  | command _ _ => Except Unended (Waited Ending)
  | sleep _ => Waited Unit
  | echo _ => Waited (Except Refusal Unit)

def spent : (step : Step) → step.Reply → Option Duration
  | command _ _ => spentRunning
  | sleep _ => spentWaiting
  | echo _ => spentWaiting

def overdue : (step : Step) → step.Reply
  | command _ _ => (.ok .overdue : Except Unended (Waited Ending))
  | sleep _ => (.overdue : Waited Unit)
  | echo _ => (.overdue : Waited (Except Refusal Unit))

def reply (answer : (c : Host.Call) → σ → Host.Answer c × σ) (directory : Option String) :
    (step : Step) → Option Duration → σ → step.Reply × σ
  | command program arguments, left => answer (.launch ⟨program, arguments, directory⟩ left)
  | sleep seconds, left => answer (.pause (seconds.toNat * 1000000) left)
  | echo message, left => answer (.mark (message ++ "\n") left)

def exchange (directory : Option String) (left : Option Duration) : (step : Step) → step.Reply → Exchange
  | command program arguments, given => ⟨.launch ⟨program, arguments, directory⟩ left, given⟩
  | sleep seconds, given => ⟨.pause (seconds.toNat * 1000000) left, given⟩
  | echo message, given => ⟨.mark (message ++ "\n") left, given⟩

def after (left : Option Duration) : (step : Step) → step.Reply → Action (Except Unstartable Progress)
  | command program _, given =>
    match given with
    | .error cause => .done (.error ⟨program, cause⟩)
    | .ok .overdue => .done (.ok .overdue)
    | .ok (.ended ending spent) =>
      if ending = .exited 0 then .done (.ok (.passed (remaining left spent)))
      else (Host.note .info ("Step '" ++ program ++ "' exited with " ++ endingText ending)).bind fun _ =>
        .done (.ok .failed)
  | sleep _, given =>
    match given with
    | .overdue => .done (.ok .overdue)
    | .ended () spent => .done (.ok (.passed (remaining left spent)))
  | echo message, given =>
    match given with
    | .overdue => .done (.ok .overdue)
    | .ended (.ok ()) spent => .done (.ok (.passed (remaining left spent)))
    | .ended (.error r) spent =>
      (Host.note .debug ("Dropped marker '" ++ message ++ "': " ++ r.message)).bind fun _ =>
        .done (.ok (.passed (remaining left spent)))

end Step

theorem command_asks (left : Option Duration) (program : String) (arguments : List String) :
    runStep directory left (.command program arguments) =
      .ask (.launch ⟨program, arguments, directory⟩ left) (Step.after left (.command program arguments)) := by
  refine congrArg (Program.ask (Host.Call.launch _ _)) (funext fun given => ?_)
  rcases given with cause | ⟨ending, spent⟩ | _
  · rfl
  · rfl
  · rfl

theorem sleep_asks (left : Option Duration) (seconds : UInt64) :
    runStep directory left (.sleep seconds) =
      .ask (.pause (seconds.toNat * 1000000) left) (Step.after left (.sleep seconds)) := by
  refine congrArg (Program.ask (Host.Call.pause _ _)) (funext fun given => ?_)
  cases given with
  | ended done spent => rfl
  | overdue => rfl

theorem echo_asks (left : Option Duration) (message : String) :
    runStep directory left (.echo message) =
      .ask (.mark (message ++ "\n") left) (Step.after left (.echo message)) := by
  refine congrArg (Program.ask (Host.Call.mark _ _)) (funext fun given => ?_)
  rcases given with ⟨refusal | done, spent⟩ | _
  · rfl
  · rfl
  · rfl

section Step

variable (answer : (c : Host.Call) → σ → Host.Answer c × σ) (directory : Option String) (left : Option Duration)
  (step : Step) (s : σ)

theorem step_asks :
    (runStep directory left step).run answer s =
        (step.after left (step.reply answer directory left s).1).run answer (step.reply answer directory left s).2 ∧
      (runStep directory left step).history answer s =
        step.exchange directory left (step.reply answer directory left s).1 ::
          (step.after left (step.reply answer directory left s).1).history answer (step.reply answer directory left s).2 := by
  cases step with
  | command program arguments =>
      rw [command_asks]
      exact ⟨rfl, rfl⟩
  | sleep seconds =>
      rw [sleep_asks]
      exact ⟨rfl, rfl⟩
  | echo message =>
      rw [echo_asks]
      exact ⟨rfl, rfl⟩

end Step

def relimit (left : Option Duration) : Except Unstartable Progress → Except Unstartable Progress
  | .ok (.passed _) => .ok (.passed left)
  | other => other

theorem after_relimit (limit : Nat) (step : Step) (given : step.Reply) (d : Nat)
    (lasting : ∀ spent, step.spent given = some spent → spent = d) :
    step.after (some limit) given = (step.after none given).bind fun p => .done (relimit (some (limit - d)) p) := by
  cases step with
  | command program arguments =>
      rcases given with cause | ⟨ending, spent⟩ | _
      · rfl
      · obtain rfl := lasting spent rfl
        by_cases well : ending = .exited 0
        · subst well
          rfl
        · simp only [Step.after, if_neg well]
          rfl
      · rfl
  | sleep seconds =>
      cases given with
      | ended done spent =>
          obtain rfl := lasting spent rfl
          rfl
      | overdue => rfl
  | echo message =>
      rcases given with ⟨refusal | done, spent⟩ | _
      · obtain rfl := lasting spent rfl
        rfl
      · obtain rfl := lasting spent rfl
        rfl
      · rfl

theorem after_asks (left : Option Duration) (step : Step) (given : step.Reply) :
    (step.after left given).Asks fun c => ∃ record, c = .note record := by
  cases step with
  | command program arguments =>
      rcases given with cause | ⟨ending, spent⟩ | _
      · trivial
      · by_cases well : ending = .exited 0
        · simp only [Step.after, if_pos well]
          trivial
        · simp only [Step.after, if_neg well]
          exact ⟨⟨_, rfl⟩, fun _ => trivial⟩
      · trivial
  | sleep seconds =>
      cases given with
      | ended done spent => trivial
      | overdue => trivial
  | echo message =>
      rcases given with ⟨refusal | done, spent⟩ | _
      · exact ⟨⟨_, rfl⟩, fun _ => trivial⟩
      · trivial
      · trivial

theorem after_overdue (left : Option Duration) (step : Step) : step.after left step.overdue = .done (.ok .overdue) := by
  cases step <;> rfl

def unlimited : Exchange → Exchange
  | ⟨.launch c _, given⟩ => ⟨.launch c none, given⟩
  | ⟨.pause length _, given⟩ => ⟨.pause length none, given⟩
  | ⟨.mark line _, given⟩ => ⟨.mark line none, given⟩
  | e => e

def started (h : List Exchange) : List Host.Call := (deeds (h.map unlimited)).map Deed.call

theorem started_append (a b : List Exchange) : started (a ++ b) = started a ++ started b := by
  rw [started, List.map_append, deeds_append, List.map_append]
  rfl

theorem unlimited_twice (e : Exchange) : unlimited (unlimited e) = unlimited e := by
  obtain ⟨c, given⟩ := e
  cases c <;> rfl

theorem started_same {a b : List Exchange} (same : a.map unlimited = b) : started a = started b := by
  subst same
  rw [started, started, List.map_map]
  exact congrArg (fun h => (deeds h).map Deed.call) (List.map_congr_left fun e _ => (unlimited_twice e).symm)

theorem unlimited_exchange (left : Option Duration) (step : Step) (given : step.Reply) :
    unlimited (step.exchange directory left given) = step.exchange directory none given := by
  cases step <;> rfl

theorem unlimited_note (e : Exchange) (note : IsNote e) : unlimited e = e := by
  obtain ⟨c, given⟩ := e
  obtain ⟨record, rfl⟩ : ∃ record, c = .note record := note
  rfl

theorem unlimited_notes (notes : List Exchange) (quiet : ∀ e ∈ notes, IsNote e) : notes.map unlimited = notes :=
  (List.map_congr_left fun e member => unlimited_note e (quiet e member)).trans (List.map_id notes)

theorem started_notes (notes : List Exchange) (quiet : ∀ e ∈ notes, IsNote e) : started notes = [] := by
  rw [started, unlimited_notes notes quiet, deeds_notes notes quiet]
  rfl

theorem exchange_call (left : Option Duration) (step : Step) (given : step.Reply) :
    (step.exchange directory left given).1 = step.call directory left := by
  cases step <;> rfl

theorem exchange_fate (directory : Option String) (left : Option Duration) (step : Step) (given : step.Reply) :
    ∃ fate, fateOf (step.exchange directory left given) = some fate := by
  cases step with
  | command program arguments =>
      rcases given with cause | ⟨ending, spent⟩ | _
      · exact ⟨_, rfl⟩
      · exact ⟨_, rfl⟩
      · exact ⟨_, rfl⟩
  | sleep seconds =>
      cases given with
      | ended done spent => exact ⟨_, rfl⟩
      | overdue => exact ⟨_, rfl⟩
  | echo message =>
      cases given with
      | ended told spent => exact ⟨_, rfl⟩
      | overdue => exact ⟨_, rfl⟩

theorem note_fate (e : Exchange) (note : IsNote e) : fateOf e = none := by
  obtain ⟨c, given⟩ := e
  obtain ⟨record, rfl⟩ : ∃ record, c = .note record := note
  rfl

structure Leg where
  call : Host.Call
  start : Nat
  stop : Nat

namespace Clocked

variable (e : Clocked σ)

def legs : σ → List Exchange → List Leg
  | _, [] => []
  | s, x :: rest =>
    let t := (e.answer x.1 s).2
    match fateOf x with
    | some _ => ⟨x.1, e.time s, e.time t⟩ :: legs t rest
    | none => legs t rest

theorem legs_append (s : σ) (a b : List Exchange) :
    e.legs s (a ++ b) = e.legs s a ++ e.legs (Program.leave e.answer s a) b := by
  induction a generalizing s with
  | nil => rfl
  | cons x rest ih =>
      cases found : fateOf x with
      | some fate => simp only [List.cons_append, legs, found, Program.leave, ih]
      | none => simp only [List.cons_append, legs, found, Program.leave, ih]

theorem legs_notes (s : σ) (notes : List Exchange) (quiet : ∀ x ∈ notes, IsNote x) : e.legs s notes = [] := by
  induction notes generalizing s with
  | nil => rfl
  | cons x rest ih =>
      obtain ⟨note, others⟩ := List.forall_mem_cons.mp quiet
      simp only [legs, note_fate x note]
      exact ih _ others

theorem time_notes (s : σ) (notes : List Exchange) (quiet : ∀ x ∈ notes, IsNote x) :
    e.time (Program.leave e.answer s notes) = e.time s := by
  induction notes generalizing s with
  | nil => rfl
  | cons x rest ih =>
      obtain ⟨⟨record, note⟩, others⟩ := List.forall_mem_cons.mp quiet
      obtain ⟨c, given⟩ := x
      obtain rfl : c = .note record := note
      exact (ih _ others).trans (e.noting record s)

theorem punctual (directory : Option String) (step : Step) :
    Punctual e.time (step.reply e.answer directory) step.spent step.overdue := by
  cases step with
  | command program arguments => exact e.launching ⟨program, arguments, directory⟩
  | sleep seconds => exact e.pausing (seconds.toNat * 1000000)
  | echo message => exact e.marking (message ++ "\n")

theorem quiet_run (p : Action α) (quiet : p.Asks fun c => ∃ record, c = .note record) (s : σ) :
    (∀ x ∈ p.history e.answer s, IsNote x) ∧ e.time (p.run e.answer s).2 = e.time s := by
  have notes : ∀ x ∈ p.history e.answer s, IsNote x := Program.asks_history p quiet s
  refine ⟨notes, ?_⟩
  rw [← Program.leave_history]
  exact e.time_notes s _ notes

-- A run of some steps, without a limit and under one. Of the limits, those that fall on the start or the
-- end of a step are left aside.
structure Timed (p : Option Duration → Action (Except Unstartable Progress)) (s : σ) : Prop where
  forward : e.time s ≤ e.time ((p none).run e.answer s).2
  limitless : ∀ left, ((p none).run e.answer s).1 = .ok (.passed left) → left = none
  between : ∀ leg ∈ e.legs s ((p none).history e.answer s),
    e.time s ≤ leg.start ∧ leg.start ≤ e.time ((p none).run e.answer s).2
  calls : (e.legs s ((p none).history e.answer s)).map Leg.call = started ((p none).history e.answer s)
  same : ∀ limit : Nat, e.time ((p none).run e.answer s).2 < e.time s + limit →
    (p (some limit)).run e.answer s =
        (relimit (some (e.time s + limit - e.time ((p none).run e.answer s).2)) ((p none).run e.answer s).1,
          ((p none).run e.answer s).2) ∧
      ((p (some limit)).history e.answer s).map unlimited = (p none).history e.answer s
  cut : ∀ limit : Nat, e.time s + limit < e.time ((p none).run e.answer s).2 →
    (∀ leg ∈ e.legs s ((p none).history e.answer s), leg.start ≠ e.time s + limit ∧ leg.stop ≠ e.time s + limit) →
    ((p (some limit)).run e.answer s).1 = .ok .overdue ∧
      started ((p (some limit)).history e.answer s) =
        ((e.legs s ((p none).history e.answer s)).filter fun leg => leg.start < e.time s + limit).map Leg.call ∧
      started ((p (some limit)).history e.answer s) <+: started ((p none).history e.answer s)

theorem started_step (left : Option Duration) (step : Step) (given : step.Reply) (notes : List Exchange)
    (quiet : ∀ x ∈ notes, IsNote x) :
    started (step.exchange directory left given :: notes) = [step.call directory none] := by
  obtain ⟨fate, found⟩ := exchange_fate directory none step given
  rw [started, List.map_cons, unlimited_exchange, unlimited_notes notes quiet, deeds_cons found, deeds_notes notes quiet,
    List.map_cons, List.map_nil, exchange_call]

theorem legs_step (s : σ) (step : Step) (given : step.Reply) (notes : List Exchange) (quiet : ∀ x ∈ notes, IsNote x) :
    e.legs s (step.exchange directory none given :: notes) =
      [⟨step.call directory none, e.time s, e.time (step.reply e.answer directory none s).2⟩] := by
  obtain ⟨fate, found⟩ := exchange_fate directory none step given
  have left : (e.answer (step.exchange directory none given).1 s).2 = (step.reply e.answer directory none s).2 := by
    cases step <;> rfl
  simp only [legs, found, legs_notes e _ notes quiet, exchange_call, left]

theorem step_quiet (directory : Option String) (step : Step) (s : σ) :
    let reply := step.reply e.answer directory none s
    (∀ x ∈ (step.after none reply.1).history e.answer reply.2, IsNote x) ∧
      e.time ((runStep directory none step).run e.answer s).2 = e.time reply.2 := by
  obtain ⟨run, -⟩ := step_asks e.answer directory none step s
  obtain ⟨notes, still⟩ := e.quiet_run _ (after_asks none step (step.reply e.answer directory none s).1)
    (step.reply e.answer directory none s).2
  exact ⟨notes, by rw [run, still]⟩

theorem step_legs (directory : Option String) (step : Step) (s : σ) :
    e.legs s ((runStep directory none step).history e.answer s) =
      [⟨step.call directory none, e.time s, e.time ((runStep directory none step).run e.answer s).2⟩] := by
  obtain ⟨-, history⟩ := step_asks e.answer directory none step s
  obtain ⟨notes, stop⟩ := e.step_quiet directory step s
  rw [stop, history, legs_step e s step _ _ notes]

theorem step_started (directory : Option String) (step : Step) (s : σ) :
    started ((runStep directory none step).history e.answer s) = [step.call directory none] := by
  obtain ⟨-, history⟩ := step_asks e.answer directory none step s
  obtain ⟨notes, -⟩ := e.step_quiet directory step s
  rw [history, started_step none step _ _ notes]

theorem step_same (directory : Option String) (step : Step) (s : σ) (limit : Nat)
    (early : e.time ((runStep directory none step).run e.answer s).2 < e.time s + limit) :
    (runStep directory (some limit) step).run e.answer s =
        (relimit (some (e.time s + limit - e.time ((runStep directory none step).run e.answer s).2))
          ((runStep directory none step).run e.answer s).1, ((runStep directory none step).run e.answer s).2) ∧
      ((runStep directory (some limit) step).history e.answer s).map unlimited =
        (runStep directory none step).history e.answer s := by
  obtain ⟨run, history⟩ := step_asks e.answer directory none step s
  obtain ⟨limited, told⟩ := step_asks e.answer directory (some limit) step s
  obtain ⟨notes, stop⟩ := e.step_quiet directory step s
  have punctual := e.punctual directory step
  have forward := punctual.forward s
  rw [stop] at early ⊢
  have lasting (spent : Nat) (found : step.spent (step.reply e.answer directory none s).1 = some spent) :
      spent = e.time (step.reply e.answer directory none s).2 - e.time s := by
    have stop := punctual.lasting s spent found
    omega
  have rest : limit - (e.time (step.reply e.answer directory none s).2 - e.time s) =
      e.time s + limit - e.time (step.reply e.answer directory none s).2 := by omega
  rw [punctual.same s limit early, after_relimit limit step _ _ lasting, rest] at limited told
  rw [Program.run_bind] at limited
  rw [Program.history_bind] at told
  refine ⟨by rw [limited, run]; rfl, ?_⟩
  rw [told, history]
  change List.map Workload.unlimited (_ :: (_ ++ [])) = _
  rw [List.append_nil, List.map_cons, unlimited_exchange, unlimited_notes _ notes]

theorem step_cut (directory : Option String) (step : Step) (s : σ) (limit : Nat)
    (late : e.time s + limit < e.time ((runStep directory none step).run e.answer s).2) :
    ((runStep directory (some limit) step).run e.answer s).1 = .ok .overdue ∧
      started ((runStep directory (some limit) step).history e.answer s) = [step.call directory none] := by
  obtain ⟨limited, told⟩ := step_asks e.answer directory (some limit) step s
  rw [(e.step_quiet directory step s).2] at late
  rw [(e.punctual directory step).cut s limit late, after_overdue] at limited told
  refine ⟨by rw [limited]; rfl, ?_⟩
  rw [told]
  exact started_step (some limit) step _ [] (List.forall_mem_nil _)

theorem step_timed (directory : Option String) (step : Step) (s : σ) :
    e.Timed (fun left => runStep directory left step) s := by
  have forward : e.time s ≤ e.time ((runStep directory none step).run e.answer s).2 := by
    rw [(e.step_quiet directory step s).2]
    exact (e.punctual directory step).forward s
  refine ⟨forward, ?_, ?_, ?_, e.step_same directory step s, ?_⟩
  · intro left passed
    obtain ⟨given, fate, notes, -, ended⟩ := step_course step _ (Program.runs_history e.answer (runStep directory none step) s)
    rw [passed] at ended
    cases fate with
    | passed spent => exact Progress.passed.inj (Except.ok.inj ended)
    | failed ending => cases ended
    | unended u => cases ended
    | overdue => cases ended
  · rw [step_legs]
    intro leg member
    obtain rfl := List.mem_singleton.mp member
    exact ⟨Nat.le_refl _, forward⟩
  · rw [step_legs, step_started]
    rfl
  · intro limit late apart
    obtain ⟨limited, alone⟩ := e.step_cut directory step s limit late
    rw [step_legs] at apart ⊢
    have start : e.time s ≠ e.time s + limit := (apart _ (List.mem_singleton_self _)).1
    have first : e.time s < e.time s + limit := by omega
    refine ⟨limited, ?_, ?_⟩
    · rw [alone]
      simp [first]
    · exact ⟨[], by rw [List.append_nil, alone, step_started]⟩

def onward (directory : Option String) (rest : List Step) :
    Except Unstartable Progress → Action (Except Unstartable Progress)
  | .ok (.passed left) => runSteps directory left rest
  | other => .done other

theorem steps_cons (left : Option Duration) (step : Step) (rest : List Step) :
    runSteps directory left (step :: rest) = (Host.note .debug ("Running step: " ++ step.text)).bind fun _ =>
      (runStep directory left step).bind (onward directory rest) := by
  refine congrArg (Program.ask _) (funext fun _ => ?_)
  refine congrArg (Program.bind (runStep directory left step)) (funext fun progress => ?_)
  rcases progress with u | made
  · rfl
  · cases made <;> rfl

section Stuck

variable {r : Except Unstartable Progress} (stuck : ∀ left, r ≠ .ok (.passed left))
include stuck

theorem onward_stuck (directory : Option String) (rest : List Step) : onward directory rest r = .done r := by
  rcases r with u | made
  · rfl
  · cases made with
    | passed left => exact absurd rfl (stuck left)
    | failed => rfl
    | overdue => rfl

theorem relimit_stuck (left : Option Duration) : relimit left r = r := by
  rcases r with u | made
  · rfl
  · cases made with
    | passed spent => exact absurd rfl (stuck spent)
    | failed => rfl
    | overdue => rfl

end Stuck

theorem halted_run (left : Option Duration) (step : Step) (rest : List Step) (s : σ)
    (stuck : ∀ spent, ((runStep directory left step).run e.answer s).1 ≠ .ok (.passed spent)) :
    ((runStep directory left step).bind (onward directory rest)).run e.answer s =
        (runStep directory left step).run e.answer s ∧
      ((runStep directory left step).bind (onward directory rest)).history e.answer s =
        (runStep directory left step).history e.answer s := by
  rw [Program.run_bind, Program.history_bind, onward_stuck stuck]
  exact ⟨rfl, List.append_nil _⟩

theorem passed_run (left spent : Option Duration) (step : Step) (rest : List Step) (s t : σ)
    (passed : (runStep directory left step).run e.answer s = (.ok (.passed spent), t)) :
    ((runStep directory left step).bind (onward directory rest)).run e.answer s =
        (runSteps directory spent rest).run e.answer t ∧
      ((runStep directory left step).bind (onward directory rest)).history e.answer s =
        (runStep directory left step).history e.answer s ++ (runSteps directory spent rest).history e.answer t := by
  rw [Program.run_bind, Program.history_bind, passed]
  exact ⟨rfl, rfl⟩

theorem timed_halted (step : Step) (rest : List Step) (s : σ)
    (stuck : ∀ spent, ((runStep directory none step).run e.answer s).1 ≠ .ok (.passed spent)) :
    e.Timed (fun left => (runStep directory left step).bind (onward directory rest)) s := by
  obtain ⟨forward, limitless, between, calls, same, cut⟩ := e.step_timed directory step s
  obtain ⟨run, history⟩ := e.halted_run none step rest s stuck
  refine ⟨?_, ?_, ?_, ?_, ?_, ?_⟩
  · rwa [run]
  · rwa [run]
  · rwa [run, history]
  · rwa [history]
  · intro limit early
    rw [run] at early
    obtain ⟨limited, told⟩ := same limit early
    rw [relimit_stuck stuck] at limited
    obtain ⟨still, heard⟩ := e.halted_run (some limit) step rest s (by rwa [limited])
    rw [run, history, relimit_stuck stuck, still, heard]
    exact ⟨limited, told⟩
  · intro limit late apart
    rw [run] at late
    rw [history] at apart
    obtain ⟨limited, told⟩ := cut limit late apart
    obtain ⟨still, heard⟩ := e.halted_run (some limit) step rest s (by rw [limited]; nofun)
    rw [history, still, heard]
    exact ⟨limited, told⟩

theorem timed_passed (step : Step) (rest : List Step) (s t : σ)
    (passed : (runStep directory none step).run e.answer s = (.ok (.passed none), t))
    (later : e.Timed (fun left => runSteps directory left rest) t) :
    e.Timed (fun left => (runStep directory left step).bind (onward directory rest)) s := by
  have first := e.step_timed directory step s
  have leg := e.step_legs directory step s
  have left : Program.leave e.answer s ((runStep directory none step).history e.answer s) = t := by
    rw [Program.leave_history, passed]
  have onto : e.time s ≤ e.time t := by
    have forward := first.forward
    rwa [passed] at forward
  rw [passed] at leg
  obtain ⟨run, history⟩ := e.passed_run none none step rest s t passed
  -- The legs are that of the step and those of the rest.
  have legs : e.legs s (((runStep directory none step).bind (onward directory rest)).history e.answer s) =
      ⟨step.call directory none, e.time s, e.time t⟩ :: e.legs t ((runSteps directory none rest).history e.answer t) := by
    rw [history, legs_append, leg, left]
    rfl
  have calls : started (((runStep directory none step).bind (onward directory rest)).history e.answer s) =
      step.call directory none :: started ((runSteps directory none rest).history e.answer t) := by
    rw [history, started_append, e.step_started]
    rfl
  have forward := later.forward
  refine ⟨?_, ?_, ?_, ?_, ?_, ?_⟩
  · rw [run]
    omega
  · rw [run]
    exact later.limitless
  · rw [legs, run]
    refine List.forall_mem_cons.mpr ⟨⟨Nat.le_refl _, Nat.le_trans onto forward⟩, fun other member => ?_⟩
    have between := later.between other member
    exact ⟨Nat.le_trans onto between.1, between.2⟩
  · rw [legs, calls, List.map_cons, later.calls]
  · intro limit early
    rw [run] at early
    have next : e.time t < e.time s + limit := by omega
    obtain ⟨limited, told⟩ := first.same limit (by rw [passed]; exact next)
    rw [passed] at limited
    have same := later.same (e.time s + limit - e.time t)
    rw [Nat.add_sub_cancel' (Nat.le_of_lt next)] at same
    obtain ⟨still, heard⟩ := same early
    obtain ⟨whole, all⟩ := e.passed_run (some limit) _ step rest s t limited
    refine ⟨?_, ?_⟩
    · rw [whole, run]
      exact still
    · rw [all, List.map_append, told, heard, history]
  · intro limit late apart
    rw [run] at late
    rw [legs] at apart ⊢
    rw [calls]
    obtain ⟨own, others⟩ := List.forall_mem_cons.mp apart
    obtain ⟨before, stop⟩ : e.time s ≠ e.time s + limit ∧ e.time t ≠ e.time s + limit := own
    have start : e.time s < e.time s + limit := by omega
    have kept : (⟨step.call directory none, e.time s, e.time t⟩ ::
        e.legs t ((runSteps directory none rest).history e.answer t)).filter (fun leg => leg.start < e.time s + limit) =
          ⟨step.call directory none, e.time s, e.time t⟩ ::
            (e.legs t ((runSteps directory none rest).history e.answer t)).filter (fun leg => leg.start < e.time s + limit) :=
      List.filter_cons_of_pos (decide_eq_true start)
    rw [kept, List.map_cons]
    -- The limit falls into the step or after it, since it does not fall on its end.
    rcases Nat.lt_or_gt_of_ne stop with beyond | within
    · obtain ⟨limited, told⟩ := first.same limit (by rw [passed]; exact beyond)
      rw [passed] at limited
      have cut := later.cut (e.time s + limit - e.time t)
      rw [Nat.add_sub_cancel' (Nat.le_of_lt beyond)] at cut
      obtain ⟨still, heard, part⟩ := cut late others
      obtain ⟨whole, all⟩ := e.passed_run (some limit) _ step rest s t limited
      have known : started ((runStep directory (some limit) step).history e.answer s) = [step.call directory none] :=
        (started_same told).trans (e.step_started directory step s)
      rw [whole, all, started_append, known]
      exact ⟨still, congrArg _ heard, List.cons_prefix_cons.mpr ⟨rfl, part⟩⟩
    · obtain ⟨limited, alone⟩ := e.step_cut directory step s limit (by rw [passed]; exact within)
      obtain ⟨still, heard⟩ := e.halted_run (some limit) step rest s (by rw [limited]; nofun)
      have none : (e.legs t ((runSteps directory none rest).history e.answer t)).filter
          (fun leg => leg.start < e.time s + limit) = [] := by
        refine List.filter_eq_nil_iff.mpr fun other member => ?_
        have between := later.between other member
        rw [decide_eq_true_iff]
        omega
      rw [still, heard, limited, alone, none]
      exact ⟨rfl, rfl, List.cons_prefix_cons.mpr ⟨rfl, List.nil_prefix⟩⟩

theorem timed_note (p : Option Duration → Action (Except Unstartable Progress)) (record : Diagnostic) (s : σ)
    (timed : e.Timed p (e.answer (.note record) s).2) :
    e.Timed (fun left => (Host.ask (.note record)).bind fun _ => p left) s := by
  obtain ⟨forward, limitless, between, calls, same, cut⟩ := timed
  rw [e.noting] at forward between same cut
  exact ⟨forward, limitless, between, calls,
    fun limit early => ⟨(same limit early).1, congrArg (List.cons _) (same limit early).2⟩, cut⟩

theorem timed_none (directory : Option String) (s : σ) : e.Timed (fun left => runSteps directory left []) s where
  forward := Nat.le_refl _
  limitless _ passed := (Progress.passed.inj (Except.ok.inj passed)).symm
  between := List.forall_mem_nil _
  calls := rfl
  same limit _ := by
    have whole : limit = e.time s + limit - e.time s := (Nat.add_sub_cancel_left _ _).symm
    exact ⟨Prod.ext (congrArg (Except.ok ∘ Progress.passed ∘ some) whole) rfl, rfl⟩
  cut limit late := absurd late (Nat.not_lt.mpr (Nat.le_add_right _ _))

theorem steps_timed (directory : Option String) (steps : List Step) (s : σ) :
    e.Timed (fun left => runSteps directory left steps) s := by
  induction steps generalizing s with
  | nil => exact e.timed_none directory s
  | cons step rest ih =>
      rw [funext fun left => steps_cons left step rest]
      -- The note takes no time, so the step starts where the attempt stands.
      refine e.timed_note _ _ s ?_
      generalize (e.answer (.note ⟨.debug, "Running step: " ++ step.text⟩) s).2 = s
      by_cases passed : ∃ spent, ((runStep directory none step).run e.answer s).1 = .ok (.passed spent)
      · obtain ⟨spent, passed⟩ := passed
        obtain rfl := (e.step_timed directory step s).limitless spent passed
        exact e.timed_passed step rest s _ (Prod.ext passed rfl) (ih _)
      · exact e.timed_halted step rest s (not_exists.mp passed)

def conclude (limit : Option Duration) : Except Unstartable Progress → Action (Except Unstartable Verdict)
  | .ok .overdue =>
    (Host.note .warn ("Attempt timed out after " ++ Text.Numeral.text (limit.getD 0 / 1000) ++ "ms")).bind fun _ =>
      .done (.ok .failure)
  | other => .done (verdict other)

theorem attempt_steps (w : Workload) :
    w.attempt = (runSteps w.directory w.limit w.steps).bind (conclude w.limit) := by
  refine congrArg (Program.bind _) (funext fun progress => ?_)
  rcases progress with u | made
  · rfl
  · cases made <;> rfl

theorem conclude_run (limit : Option Duration) (r : Except Unstartable Progress) (s : σ) :
    ((conclude limit r).run e.answer s).1 = verdict r ∧ ∀ x ∈ (conclude limit r).history e.answer s, IsNote x := by
  rcases r with u | made
  · exact ⟨rfl, List.forall_mem_nil _⟩
  · cases made with
    | passed left => exact ⟨rfl, List.forall_mem_nil _⟩
    | failed => exact ⟨rfl, List.forall_mem_nil _⟩
    | overdue => exact ⟨rfl, List.forall_mem_singleton.mpr ⟨_, rfl⟩⟩

theorem conclude_done (limit : Option Duration) {r : Except Unstartable Progress} (intime : r ≠ .ok .overdue) :
    conclude limit r = .done (verdict r) := by
  rcases r with u | made
  · rfl
  · cases made with
    | passed left => rfl
    | failed => rfl
    | overdue => exact absurd rfl intime

theorem verdict_relimit (left : Option Duration) (r : Except Unstartable Progress) :
    verdict (relimit left r) = verdict r ∧ (relimit left r = .ok .overdue ↔ r = .ok .overdue) := by
  rcases r with u | made
  · exact ⟨rfl, Iff.rfl⟩
  · cases made with
    | passed spent => exact ⟨rfl, nofun, nofun⟩
    | failed => exact ⟨rfl, Iff.rfl⟩
    | overdue => exact ⟨rfl, Iff.rfl⟩

theorem steps_intime (directory : Option String) (steps : List Step) (s : σ) :
    ((runSteps directory none steps).run e.answer s).1 ≠ .ok .overdue := by
  intro overdue
  have told := Program.history_given e.answer (runSteps directory none steps) s
  have course := steps_course steps _ _ (Program.runs_history e.answer (runSteps directory none steps) s)
  rw [overdue] at course
  generalize ended : Except.ok Progress.overdue = p at course
  cases course with
  | whole => cases ended
  | halted made step rest split given fate done member found stuck =>
      cases fate with
      | passed spent => cases ended
      | failed ending => cases ended
      | unended u => cases ended
      | overdue => exact given_intime e.toSurroundings s step given told member found

def freely (directory : Option String) (steps : List Step) (s : σ) : List Leg :=
  e.legs s ((⟨steps, none, directory⟩ : Workload).attempt.history e.answer s)

def finish (directory : Option String) (steps : List Step) (s : σ) : Nat :=
  e.time ((⟨steps, none, directory⟩ : Workload).attempt.run e.answer s).2

-- A time at which no step starts or ends.
def Apart (directory : Option String) (steps : List Step) (s : σ) (time : Nat) : Prop :=
  ∀ leg ∈ e.freely directory steps s, leg.start ≠ time ∧ leg.stop ≠ time

theorem attempt_free (directory : Option String) (steps : List Step) (s : σ) :
    (⟨steps, none, directory⟩ : Workload).attempt.run e.answer s =
        (verdict ((runSteps directory none steps).run e.answer s).1, ((runSteps directory none steps).run e.answer s).2) ∧
      (⟨steps, none, directory⟩ : Workload).attempt.history e.answer s = (runSteps directory none steps).history e.answer s := by
  rw [attempt_steps, Program.run_bind, Program.history_bind, conclude_done none (e.steps_intime directory steps s)]
  exact ⟨rfl, List.append_nil _⟩

theorem attempt_early (directory : Option String) (steps : List Step) (s : σ) (limit : Nat)
    (early : e.finish directory steps s < e.time s + limit) :
    (⟨steps, some limit, directory⟩ : Workload).attempt.run e.answer s =
        (⟨steps, none, directory⟩ : Workload).attempt.run e.answer s ∧
      ((⟨steps, some limit, directory⟩ : Workload).attempt.history e.answer s).map unlimited =
        (⟨steps, none, directory⟩ : Workload).attempt.history e.answer s := by
  obtain ⟨run, history⟩ := e.attempt_free directory steps s
  rw [finish, run] at early
  obtain ⟨limited, told⟩ := (e.steps_timed directory steps s).same limit early
  have intime := e.steps_intime directory steps s
  have judged := fun left => verdict_relimit left ((runSteps directory none steps).run e.answer s).1
  rw [run, history, attempt_steps, Program.run_bind, Program.history_bind, limited,
    conclude_done (some limit) (mt (judged _).2.mp intime), (judged _).1]
  refine ⟨rfl, ?_⟩
  rw [List.map_append, told]
  exact List.append_nil _

theorem attempt_late (directory : Option String) (steps : List Step) (s : σ) (limit : Nat)
    (apart : e.Apart directory steps s (e.time s + limit)) (late : e.time s + limit < e.finish directory steps s) :
    ((⟨steps, some limit, directory⟩ : Workload).attempt.run e.answer s).1 = .ok .failure ∧
      started ((⟨steps, some limit, directory⟩ : Workload).attempt.history e.answer s) =
        ((e.freely directory steps s).filter fun leg => leg.start < e.time s + limit).map Leg.call ∧
      started ((⟨steps, some limit, directory⟩ : Workload).attempt.history e.answer s) <+:
        started ((⟨steps, none, directory⟩ : Workload).attempt.history e.answer s) := by
  obtain ⟨run, history⟩ := e.attempt_free directory steps s
  rw [finish, run] at late
  rw [Apart, freely, history] at apart
  rw [freely, history]
  obtain ⟨limited, cut, part⟩ := (e.steps_timed directory steps s).cut limit late apart
  rw [attempt_steps]
  obtain ⟨judged, quiet⟩ := e.conclude_run (some limit) ((runSteps directory (some limit) steps).run e.answer s).1
    ((runSteps directory (some limit) steps).run e.answer s).2
  have ending : started (((runSteps directory (some limit) steps).bind (conclude (some limit))).history e.answer s) =
      started ((runSteps directory (some limit) steps).history e.answer s) := by
    rw [Program.history_bind, started_append, started_notes _ quiet, List.append_nil]
  refine ⟨?_, ?_, ?_⟩
  · rw [Program.run_bind, judged, limited]
    rfl
  · rw [ending, cut]
  · rwa [ending]

end Clocked

theorem note_takes_no_time (m : Host.Machine) (record : Diagnostic) : (m.note record).time = m.time := by
  unfold Host.Machine.note
  split <;> rfl

theorem print_takes_no_time (m : Host.Machine) (bytes : ByteArray) : (m.print bytes).2.time = m.time := by
  unfold Host.Machine.print
  split <;> rfl

theorem machine_pauses (length : Nat) :
    Punctual Host.Machine.time (fun limit m => m.pause length limit) spentWaiting .overdue where
  forward m := Nat.le_add_right m.time length
  lasting m _ spent := congrArg (m.time + ·) (Option.some.inj spent)
  same _ _ early := if_pos (Nat.le_of_lt (Nat.lt_of_add_lt_add_left early))
  cut _ _ late := congrArg Prod.fst (if_neg (Nat.not_le.mpr (Nat.lt_of_add_lt_add_left late)))

theorem machine_marks (line : String) :
    Punctual Host.Machine.time (fun _ m => m.mark line) spentWaiting .overdue where
  forward m := Nat.le_of_eq (print_takes_no_time m _).symm
  lasting m d spent := by
    obtain rfl : 0 = d := Option.some.inj spent
    exact print_takes_no_time m _
  same _ _ _ := rfl
  cut m limit late := by
    rw [show (m.mark line).2.time = m.time from print_takes_no_time m _] at late
    exact absurd late (Nat.not_lt.mpr (Nat.le_add_right _ _))

def Clocked.ofMachine (launch : Host.Machine.Launcher)
    (ends : ∀ command m, (launch command none m).1 ≠ .ok .overdue)
    (launching : ∀ command, Punctual Host.Machine.time (launch command) spentRunning (.ok .overdue)) :
    Clocked Host.Machine where
  toSurroundings := Surroundings.ofMachine launch ends
  time := Host.Machine.time
  noting record m := note_takes_no_time m record
  launching := launching
  pausing := machine_pauses
  marking := machine_marks

end Overseer.Workload
