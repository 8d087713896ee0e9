import Overseer.Proofs.CommandLine.Findings

set_option autoImplicit false

namespace Overseer.CommandLine

open Config (Overrides.ofVariables)
open Counter (Site)
open Host (Action Machine ask)
open Session (Supervisor)

variable {σ : Type} {site : Site σ}

theorem print_refused (lines : List String) (s : σ) (refused : ((printLines lines).run site.answer s).1 = false) :
    lines ≠ [] ∧ ∃ line r, ⟨.print line, .error r⟩ ∈ (printLines lines).history site.answer s := by
  induction lines generalizing s with
  | nil => cases refused
  | cons line rest ih =>
      refine ⟨List.cons_ne_nil _ _, ?_⟩
      unfold printLines at refused ⊢
      rw [Program.bind_eq, Program.run_bind, ask, Program.run_call] at refused
      rw [Program.bind_eq, Program.history_bind, ask, Program.run_call]
      cases told : (site.answer (.print (line ++ "\n")) s).1 with
      | error r =>
          refine ⟨line ++ "\n", r, List.mem_append_left _ ?_⟩
          rw [← told]
          exact List.mem_cons_self
      | ok done =>
          rw [told] at refused
          obtain ⟨-, other, r, member⟩ := ih _ refused
          exact ⟨other, r, List.mem_append_right _ member⟩

-- What a start finds that begins in a state and has these calls. The steps are not announced unless they are
-- to be and cannot be printed.
structure Finds (site : Site σ) (i : Invocation) (s : σ) (calls : List (Program.Exchange Host.Answer)) (f : Findings) : Prop where
  opened : f.opened = (openDiagnostics.run site.answer s).1
  loaded : f.loaded = ((Config.load i.config).run site.answer (openDiagnostics.run site.answer s).2).1
  environment : f.environment = site.environment
  announced : f.announced = true ∨ i.verbose = true ∧ ∃ line r, ⟨.print line, .error r⟩ ∈ calls

theorem prepare_start (site : Site σ) (o : RunOptions) (verbose painting : Bool) (c : Config) (s : σ) :
    ∃ announced, (announced = true ∨ verbose = true ∧ ∃ line r,
        ⟨.print line, .error r⟩ ∈ (o.prepare verbose painting c).history site.answer s) ∧
      ((o.prepare verbose painting c).run site.answer s).1 =
        Findings.supervisor ⟨.ok (), .ok c, site.environment, announced⟩ o := by
  have told := prepare_run site o verbose painting c s
  cases resolved : settled o.overrides site.environment c with
  | error b =>
      refine ⟨true, .inl rfl, told _ rfl rfl rfl fun d other => ?_⟩
      rw [resolved] at other
      cases other
  | ok d =>
      have read := settings_run site o.overrides c s
      rw [resolved] at read
      refine ⟨((printLines (if verbose then [announcement painting d] else [])).run site.answer
        ((settings o.overrides c).run site.answer s).2).1, ?_, told _ rfl rfl rfl fun d' other => ?_⟩
      · cases printed : ((printLines (if verbose then [announcement painting d] else [])).run site.answer
            ((settings o.overrides c).run site.answer s).2).1 with
        | true => exact .inl rfl
        | false =>
            obtain ⟨some, line, r, member⟩ := print_refused _ _ printed
            refine .inr ⟨by simpa using some, line, r, ?_⟩
            unfold RunOptions.prepare
            rw [Program.bind_eq, Program.history_bind, read]
            apply List.mem_append_right
            change _ ∈ Program.history site.answer (Program.bind (printLines _) _) _
            rw [Program.history_bind]
            exact List.mem_append_left _ member
      · obtain rfl := Except.ok.inj (resolved.symm.trans other)
        rfl

theorem start_run (site : Site σ) (i : Invocation) (o : RunOptions) (painting : Bool) (s : σ) :
    ∃ f, Finds site i s ((i.prepare o painting).history site.answer s) f ∧
      ((i.prepare o painting).run site.answer s).1 = f.supervisor o := by
  cases opened : (openDiagnostics.run site.answer s).1 with
  | error t =>
      refine ⟨⟨.error t, _, site.environment, true⟩, ⟨opened.symm, rfl, rfl, .inl rfl⟩, ?_⟩
      unfold Invocation.prepare
      rw [Program.bind_eq, Program.run_bind, opened]
      rfl
  | ok done =>
      unfold Invocation.prepare
      rw [Program.bind_eq, Program.run_bind, Program.history_bind, opened]
      dsimp only
      rw [Program.bind_eq, Program.run_bind, Program.history_bind]
      cases loaded : ((Config.load i.config).run site.answer (openDiagnostics.run site.answer s).2).1 with
      | error e => exact ⟨⟨.ok (), .error e, site.environment, true⟩, ⟨opened.symm, loaded.symm, rfl, .inl rfl⟩, rfl⟩
      | ok c =>
          obtain ⟨announced, printed, told⟩ := prepare_start site o i.verbose painting c
            (site.answer (.note ⟨.info, "Starting with config from: " ++ givenFile i.config⟩)
              ((Config.load i.config).run site.answer (openDiagnostics.run site.answer s).2).2).2
          refine ⟨⟨.ok (), .ok c, site.environment, announced⟩, ⟨opened.symm, loaded.symm, rfl, ?_⟩, told⟩
          refine printed.imp_right fun ⟨verbose, line, r, member⟩ => ⟨verbose, line, r, ?_⟩
          exact List.mem_append_right _ (List.mem_append_right _ (List.mem_cons_of_mem _ member))

def finish (painting : Bool) (outcome : Outcome) : Action Nat :=
  match outcome.fatal? with
  | none => return outcome.code
  | some text => do
    ask (.complain (Paint.red.apply painting "Fatal:" ++ " " ++ text ++ "\n"))
    return outcome.code

theorem finish_run (painting : Bool) (outcome : Outcome) (s : σ) :
    ((finish painting outcome).run site.answer s).1 = outcome.code := by
  unfold finish
  cases outcome.fatal? with
  | none => rfl
  | some text => rfl

theorem finish_asks {data : String} (painting : Bool) (outcome : Outcome) : (finish painting outcome).Asks (Preliminary data) := by
  unfold finish
  cases outcome.fatal? with
  | none => trivial
  | some text => exact Program.asks_bind (Program.asks_call (.complain _)) fun _ => trivial

theorem conclude_run (sup : Supervisor) (s : σ) :
    ((conclude (.ok sup)).run site.answer s).1 = Outcome.ofSession (sup.run.run site.answer s).1 := by
  unfold conclude
  dsimp only
  rw [Program.bind_eq, Program.run_bind]
  rfl

theorem conclude_history (sup : Supervisor) (s : σ) :
    (conclude (.ok sup)).history site.answer s = sup.run.history site.answer s := by
  unfold conclude
  dsimp only
  rw [Program.bind_eq, Program.history_bind]
  exact List.append_nil _

theorem run_parted (words : List String) (i : Invocation) (o : RunOptions) (parsed : parse words = .ok i)
    (running : i.options? = some o) :
    run words = Paint.isDemanded.bind fun painting =>
      (i.prepare o painting).bind fun begun => (conclude begun).bind (finish painting) := by
  unfold run
  rw [parsed]
  change Program.bind _ _ = _
  congr 1
  funext painting
  change Program.bind (i.perform painting) _ = _
  rw [invocation_prepare i o painting running, Program.bind_assoc]
  rfl

def Hosted (site : Site σ) : Prop :=
  ∀ c s, ∃ launch, (site.machine (site.answer c s).2).tree = ((site.machine s).answer launch c).2.tree

-- A run that does nothing but what comes before a session. What was in the files is left as it was.
structure Traceless (site : Site σ) (words : List String) (s : σ) : Prop where
  calls : ∀ e ∈ (run words).history site.answer s, Preliminary (dataDirectory.run site.answer s).1 e.1
  files : Hosted site → (site.machine s).tree.Grows (site.machine ((run words).run site.answer s).2).tree

theorem preliminary_leave (hosted : Hosted site) (data : String) (h : List (Program.Exchange Host.Answer)) (s : σ)
    (calls : ∀ e ∈ h, Preliminary data e.1) : (site.machine s).tree.Grows (site.machine (Program.leave site.answer s h)).tree := by
  induction h generalizing s with
  | nil => exact Files.Tree.grows_refl _
  | cons e rest ih =>
      obtain ⟨first, others⟩ := List.forall_mem_cons.mp calls
      obtain ⟨launch, same⟩ := hosted e.1 s
      have grown := preliminary_grows first launch (site.machine s)
      rw [← same] at grown
      exact Files.Tree.grows_trans grown (ih _ others)

theorem traceless_calls (words : List String) (s : σ)
    (calls : ∀ e ∈ (run words).history site.answer s, Preliminary (dataDirectory.run site.answer s).1 e.1) :
    Traceless site words s where
  calls := calls
  files hosted := by
    rw [← Program.leave_history]
    exact preliminary_leave hosted _ _ s calls

-- A run that has the session of a supervisor, with attempts to make and something to attempt.
structure Enters (site : Site σ) (words : List String) (s : σ) (sup : Supervisor) : Prop where
  attempts : 1 ≤ sup.ceiling
  steps : sup.workload.steps ≠ []
  session : ∃ first begun last, (run words).history site.answer s = first ++ (sup.run.history site.answer begun ++ last) ∧
    (∀ e ∈ first ++ last, Preliminary (dataDirectory.run site.answer s).1 e.1) ∧
    ((run words).run site.answer s).1 = (Outcome.ofSession (sup.run.run site.answer begun).1).code

theorem finds_mono {i : Invocation} {s : σ} {calls more : List (Program.Exchange Host.Answer)} {f : Findings}
    (among : ∀ e ∈ calls, e ∈ more) (finds : Finds site i s calls f) : Finds site i s more f :=
  ⟨finds.opened, finds.loaded, finds.environment,
    finds.announced.imp_right fun ⟨verbose, line, r, member⟩ => ⟨verbose, line, r, among _ member⟩⟩

theorem run_started (site : Site σ) (words : List String) (i : Invocation) (o : RunOptions) (s : σ)
    (parsed : parse words = .ok i) (running : i.options? = some o) :
    ∃ f first painting ready, Finds site i (Paint.isDemanded.run site.answer s).2 first f ∧
      (∀ e ∈ first, Preliminary (dataDirectory.run site.answer s).1 e.1) ∧
      (run words).history site.answer s =
        first ++ ((conclude (f.supervisor o)).bind (finish painting)).history site.answer ready ∧
      ((run words).run site.answer s).1 = (((conclude (f.supervisor o)).bind (finish painting)).run site.answer ready).1 := by
  rw [run_parted words i o parsed running, Program.history_bind, Program.run_bind]
  have looked : ∀ e ∈ Paint.isDemanded.history site.answer s, Preliminary (dataDirectory.run site.answer s).1 e.1 :=
    Program.asks_history _ (Program.asks_call (.variable _)) s
  rw [data_directory_still site s (Paint.isDemanded.run site.answer s).2] at looked ⊢
  generalize Paint.isDemanded.history site.answer s = first at looked ⊢
  generalize Paint.isDemanded.run site.answer s = demanded at looked ⊢
  obtain ⟨painting, begun⟩ := demanded
  obtain ⟨f, finds, told⟩ := start_run site i o painting begun
  refine ⟨f, first ++ (i.prepare o painting).history site.answer begun, painting, ((i.prepare o painting).run site.answer begun).2,
    finds_mono (fun _ => List.mem_append_right _) finds,
    List.forall_mem_append.mpr ⟨looked, preliminary_calls i o painting begun⟩, ?_, ?_⟩
  · rw [Program.history_bind, told, List.append_assoc]
  · rw [Program.run_bind, told]

theorem refused_traceless (site : Site σ) (words : List String) (s : σ) (stop : Stop) (parsed : parse words = .error stop) :
    Traceless site words s ∧ ((run words).run site.answer s).1 = if stop.isAnswer then 0 else 2 := by
  have told : (run words).run site.answer s = stop.tell.run site.answer s ∧
      (run words).history site.answer s = stop.tell.history site.answer s := by
    unfold run
    rw [parsed]
    exact ⟨rfl, rfl⟩
  have asks : stop.tell.Asks (Preliminary (dataDirectory.run site.answer s).1) := by
    unfold Stop.tell
    split
    · exact Program.asks_bind (Program.asks_call (.print _)) fun _ => trivial
    · exact Program.asks_bind (Program.asks_call (.complain _)) fun _ => trivial
  refine ⟨traceless_calls words s (told.2 ▸ Program.asks_history _ asks s), ?_⟩
  rw [told.1]
  unfold Stop.tell
  split
  · rfl
  · rfl

theorem start_leaves_no_trace (site : Site σ) (words : List String) (s : σ) :
    (∀ stop, parse words = .error stop →
      Traceless site words s ∧ ((run words).run site.answer s).1 = if stop.isAnswer then 0 else 2) ∧
    ∀ i o, parse words = .ok i → i.options? = some o →
      ∃ f, Finds site i (Paint.isDemanded.run site.answer s).2 ((run words).history site.answer s) f ∧
        match f.supervisor o with
        | .error outcome => Traceless site words s ∧ ((run words).run site.answer s).1 = outcome.code ∧
            (f.announced = true → outcome.code = 2)
        | .ok sup => Enters site words s sup := by
  refine ⟨refused_traceless site words s, fun i o parsed running => ?_⟩
  obtain ⟨f, first, painting, ready, finds, calls, history, ended⟩ := run_started site words i o s parsed running
  refine ⟨f, finds_mono (fun e member => history ▸ List.mem_append_left _ member) finds, ?_⟩
  have stopped (outcome : Outcome) (told : f.supervisor o = .error outcome) :
      Traceless site words s ∧ ((run words).run site.answer s).1 = outcome.code := by
    rw [told] at history ended
    refine ⟨traceless_calls words s fun e member => ?_, ended.trans (finish_run painting outcome ready)⟩
    rw [history] at member
    exact (List.mem_append.mp member).elim (calls e) (Program.asks_history _ (finish_asks painting outcome) ready e)
  rcases supervisor_cases f o with ⟨t, told⟩ | ⟨silent, told⟩ | ⟨d, sup, fit, told⟩
  · obtain ⟨traceless, code⟩ := stopped _ told
    rw [told]
    exact ⟨traceless, code, fun _ => rfl⟩
  · obtain ⟨traceless, code⟩ := stopped _ told
    rw [told]
    exact ⟨traceless, code, fun announced => absurd (silent.symm.trans announced) nofun⟩
  · rw [told] at history ended ⊢
    obtain ⟨attempts, steps⟩ := assembled_fit d _ sup fit
    rw [Program.history_bind, conclude_history] at history
    rw [Program.run_bind, finish_run, conclude_run] at ended
    refine ⟨attempts, steps, first, ready, _, history, List.forall_mem_append.mpr ⟨calls, ?_⟩, ended⟩
    exact Program.asks_history _ (finish_asks painting _) _

def given (ceiling : UInt32) : RunOptions := { RunOptions.none with ceiling }

def hosting (environment : List (String × String)) : Site Machine where
  answer c m := Machine.answer Machine.noPrograms c { m with environment }
  machine m := { m with environment }
  listing := .plain
  environment := Machine.valueOf { Machine.fresh with environment }
  unaltered _ _ := rfl

theorem hosting_hosted (environment : List (String × String)) : Hosted (hosting environment) :=
  fun _ _ => ⟨Machine.noPrograms, rfl⟩

def misset : List (String × String) := [(Config.ceilingVariable, "many")]

theorem misset_stops (f : Findings) (o : RunOptions) (environment : f.environment = (hosting misset).environment) :
    ∃ t, f.supervisor o = .error (.troubled t) := by
  have read : Overrides.ofVariables (hosting misset).environment = .error ⟨"many", .badDigit⟩ := rfl
  unfold Findings.supervisor settled
  rw [environment, read]
  cases f.opened with
  | error t => exact ⟨t, rfl⟩
  | ok done =>
      cases f.loaded with
      | error e => exact ⟨.unloaded e, rfl⟩
      | ok c => exact ⟨.badCeiling ⟨"many", .badDigit⟩, rfl⟩

theorem start_leaves_no_trace_misset :
    parse ["run", "--retry-ceiling=3"] = .ok ⟨none, false, some (.run (given 3))⟩ ∧
      ((run ["run", "--retry-ceiling=3"]).run (hosting misset).answer { Machine.fresh with tree := litter }).1 = 2 ∧
      litter.Grows ((run ["run", "--retry-ceiling=3"]).run (hosting misset).answer { Machine.fresh with tree := litter }).2.tree := by
  have parsed : parse ["run", "--retry-ceiling=3"] = .ok ⟨none, false, some (.run (given 3))⟩ := rfl
  obtain ⟨f, finds, told⟩ :=
    (start_leaves_no_trace (hosting misset) ["run", "--retry-ceiling=3"] { Machine.fresh with tree := litter }).2 _ _ parsed rfl
  obtain ⟨t, stopped⟩ := misset_stops f (given 3) finds.environment
  rw [stopped] at told
  exact ⟨parsed, told.2.1, told.1.files (hosting_hosted misset)⟩

def stuck : Site Unit where
  answer
    | .variable _, t => (none, t)
    | .makePath _, t => (.ok (), t)
    | .openEnd _, t => (.ok (), t)
    | .isPresent _, t => (false, t)
    | .print _, t => (.error .noSpace, t)
    | c, t => ((Machine.fresh.answer Machine.noPrograms c).1, t)
  machine _ := Machine.fresh
  listing := .plain
  environment _ := none
  unaltered _ _ := rfl

-- Where the steps cannot be announced, a ceiling of no attempts is not told by the code of a fatal error.
theorem unannounced_start_ends_otherwise :
    ((Config.load none).run stuck.answer ()).1 = .ok (Config.standard (some "/")) ∧
      (settled (given 0).overrides stuck.environment (Config.standard (some "/"))).map Config.validate = .ok (.error .zeroCeiling) ∧
      parse ["--verbose", "run", "--retry-ceiling=0"] = .ok ⟨none, true, some (.run (given 0))⟩ ∧
      ((run ["--verbose", "run", "--retry-ceiling=0"]).run stuck.answer ()).1 = 101 ∧
      ((run ["run", "--retry-ceiling=0"]).run stuck.answer ()).1 = 2 := by
  refine ⟨?_, ?_, ?_, ?_, ?_⟩
  · rfl
  · rfl
  · rfl
  · decide +kernel
  · decide +kernel

end Overseer.CommandLine
