import Overseer.Proofs.CommandLine.Status
import Overseer.Proofs.Files.Growing

set_option autoImplicit false

namespace Overseer.CommandLine

open Config (LoadFailure)
open Counter (Site)
open Host (Action ask note)
open Session (Defect Supervisor)

variable {σ : Type} {site : Site σ}

def Invocation.options? (i : Invocation) : Option RunOptions :=
  match i.task with
  | none => some RunOptions.none
  | some (.run o) => some o
  | some (.status _) => none

def RunOptions.prepare (o : RunOptions) (verbose painting : Bool) (c : Config) : Action (Except Outcome Supervisor) := do
  match ← settings o.overrides c with
  | .error t => return .error (.troubled t)
  | .ok c =>
    if ← printLines (if verbose then [announcement painting c] else []) then
      ask .awaitInterrupt
      return (← Supervisor.assemble c).mapError fun d => .troubled (.unfit d)
    else return .error .unprinted

def Invocation.prepare (i : Invocation) (o : RunOptions) (painting : Bool) : Action (Except Outcome Supervisor) := do
  match ← openDiagnostics with
  | .error t => return .error (.troubled t)
  | .ok () =>
    match ← Config.load i.config with
    | .error f => return .error (.troubled (.unloaded f))
    | .ok c =>
      note .info ("Starting with config from: " ++ givenFile i.config)
      o.prepare i.verbose painting c

def conclude : Except Outcome Supervisor → Action Outcome
  | .error outcome => return outcome
  | .ok s => return .ofSession (← s.run)

def preparedNotifier (n : Config.Notify) (key : Option String) : Except Notify.Lack Notify.Notifier :=
  match n.channel with
  | .log => .ok .log
  | .webhook => (Notify.webhookOf n key).map .webhook

def assembledWith (c : Config) (key : Option String) : Except Defect Supervisor := do
  c.validate.mapError .flaw
  let notifier ← (preparedNotifier c.notify key).mapError .lack
  return ⟨⟨c.storage.directory, c.storage.stem⟩, ⟨c.log.path, c.log.console⟩, Session.workloadOf c.work, notifier, c.retry.ceiling⟩

-- What a start finds: the file for diagnostics, the settings of the file, the environment, and whether the
-- steps could be announced.
structure Findings where
  opened : Except Trouble Unit
  loaded : Except LoadFailure Config
  environment : String → Option String
  announced : Bool

def Findings.supervisor (f : Findings) (o : RunOptions) : Except Outcome Supervisor := do
  f.opened.mapError .troubled
  let c ← f.loaded.mapError fun e => .troubled (.unloaded e)
  let d ← (settled o.overrides f.environment c).mapError fun b => .troubled (.badCeiling b)
  if f.announced then
    (assembledWith d (f.environment d.notify.keyVariable)).mapError fun e => .troubled (.unfit e)
  else .error .unprinted

theorem supervisor_cases (f : Findings) (o : RunOptions) :
    (∃ t, f.supervisor o = .error (.troubled t)) ∨ (f.announced = false ∧ f.supervisor o = .error .unprinted) ∨
      ∃ d sup, assembledWith d (f.environment d.notify.keyVariable) = .ok sup ∧ f.supervisor o = .ok sup := by
  unfold Findings.supervisor
  cases f.opened with
  | error t => exact .inl ⟨t, rfl⟩
  | ok done =>
      cases f.loaded with
      | error e => exact .inl ⟨.unloaded e, rfl⟩
      | ok c =>
          change (∃ t, ((settled o.overrides f.environment c).mapError _).bind _ = _) ∨
            (_ ∧ ((settled o.overrides f.environment c).mapError _).bind _ = _) ∨
            ∃ d sup, _ ∧ ((settled o.overrides f.environment c).mapError _).bind _ = _
          cases settled o.overrides f.environment c with
          | error b => exact .inl ⟨.badCeiling b, rfl⟩
          | ok d =>
              cases f.announced with
              | false => exact .inr (.inl ⟨rfl, rfl⟩)
              | true =>
                  cases built : assembledWith d (f.environment d.notify.keyVariable) with
                  | error e => exact .inl ⟨.unfit e, congrArg (Except.mapError _) built⟩
                  | ok sup => exact .inr (.inr ⟨d, sup, built, congrArg (Except.mapError _) built⟩)

theorem validated (c : Config) (fit : c.validate = .ok ()) : c.retry.ceiling ≠ 0 ∧ c.work.steps ≠ [] := by
  unfold Config.validate at fit
  split at fit
  · cases fit
  · split at fit
    · cases fit
    · exact ⟨‹_›, ‹_›⟩

theorem assembled_fit (c : Config) (key : Option String) (sup : Supervisor) (told : assembledWith c key = .ok sup) :
    1 ≤ sup.ceiling ∧ sup.workload.steps ≠ [] := by
  unfold assembledWith at told
  cases fit : c.validate with
  | error f =>
      rw [fit] at told
      cases told
  | ok fine =>
      cases prepared : preparedNotifier c.notify key with
      | error l =>
          rw [fit, prepared] at told
          cases told
      | ok notifier =>
          rw [fit, prepared] at told
          obtain rfl := Except.ok.inj told
          obtain ⟨some, steps⟩ := validated c fit
          exact ⟨UInt32.le_iff_toNat_le.mpr (Nat.pos_of_ne_zero fun none => some (UInt32.toNat_inj.mp none)), steps⟩

theorem perform_prepare (o : RunOptions) (verbose painting : Bool) (c : Config) :
    o.perform verbose painting c = (o.prepare verbose painting c).bind conclude := by
  refine Program.bind_split (settings o.overrides c) fun read => ?_
  cases read with
  | error t => rfl
  | ok d =>
      refine Program.bind_split (printLines _) fun announced => ?_
      cases announced with
      | false => rfl
      | true =>
          refine Program.bind_split (ask .awaitInterrupt) fun _ => Program.bind_split (Supervisor.assemble d) fun built => ?_
          cases built with
          | error e => rfl
          | ok s => rfl

theorem invocation_prepare (i : Invocation) (o : RunOptions) (painting : Bool) (running : i.options? = some o) :
    i.perform painting = (i.prepare o painting).bind conclude := by
  refine Program.bind_split openDiagnostics fun opened => ?_
  cases opened with
  | error t => rfl
  | ok done =>
      refine Program.bind_split (Config.load i.config) fun loaded => ?_
      cases loaded with
      | error f => rfl
      | ok c =>
          refine Program.bind_split (note _ _) fun _ => ?_
          rw [← perform_prepare]
          unfold Invocation.options? at running
          cases task : i.task with
          | none =>
              rw [task] at running
              cases running
              rfl
          | some t =>
              rw [task] at running
              cases t with
              | run own =>
                  cases running
                  rfl
              | status own => cases running

def userDirectoryIn (environment : String → Option String) (variable_ place : String) : Option String :=
  match (environment variable_).filter Config.isAbsolute with
  | some d => some d
  | none => ((environment "HOME").filter (· ≠ "")).map fun home => Files.Path.join home place

theorem user_directory_run (site : Site σ) (variable_ place : String) (s : σ) :
    ((Config.userDirectory variable_ place).run site.answer s).1 = userDirectoryIn site.environment variable_ place := by
  unfold Config.userDirectory userDirectoryIn
  rw [Program.bind_eq, Program.run_bind, ask, Program.run_call, site.unaltered]
  cases (site.environment variable_).filter Config.isAbsolute with
  | some d => rfl
  | none =>
      dsimp only
      rw [Program.bind_eq, Program.run_bind, ask, Program.run_call, site.unaltered]
      cases (site.environment "HOME").filter (· ≠ "") with
      | some home => rfl
      | none => rfl

theorem data_directory_still (site : Site σ) (s t : σ) :
    (dataDirectory.run site.answer s).1 = (dataDirectory.run site.answer t).1 := by
  unfold dataDirectory
  rw [Program.bind_eq, Program.run_bind, Program.run_bind, user_directory_run, user_directory_run]
  rfl

theorem assemble_run (site : Site σ) (c : Config) (s : σ) :
    ((Supervisor.assemble c).run site.answer s).1 = assembledWith c (site.environment c.notify.keyVariable) := by
  unfold Supervisor.assemble assembledWith preparedNotifier
  cases c.validate with
  | error f => rfl
  | ok fit =>
      unfold Notify.prepare
      rw [Program.bind_eq, Program.run_bind]
      cases c.notify.channel with
      | log => rfl
      | webhook =>
          dsimp only
          rw [Program.bind_eq, Program.run_bind, ask, Program.run_call, site.unaltered]
          cases Notify.webhookOf c.notify (site.environment c.notify.keyVariable) with
          | error l => rfl
          | ok w => rfl

theorem prepare_run (site : Site σ) (o : RunOptions) (verbose painting : Bool) (c : Config) (s : σ) (f : Findings)
    (opened : f.opened = .ok ()) (loaded : f.loaded = .ok c) (environment : f.environment = site.environment)
    (announced : ∀ d, settled o.overrides site.environment c = .ok d → f.announced =
      ((printLines (if verbose then [announcement painting d] else [])).run site.answer
        ((settings o.overrides c).run site.answer s).2).1) :
    ((o.prepare verbose painting c).run site.answer s).1 = f.supervisor o := by
  have read := settings_run site o.overrides c s
  unfold RunOptions.prepare Findings.supervisor
  rw [opened, loaded, environment, Program.bind_eq, Program.run_bind, read]
  change _ = (((settled o.overrides site.environment c).mapError fun b => Outcome.troubled (.badCeiling b)).bind _)
  cases resolved : settled o.overrides site.environment c with
  | error b => rfl
  | ok d =>
      change (Program.run site.answer (Program.bind _ _) _).1 = if f.announced = true then _ else _
      rw [announced d resolved, Program.run_bind]
      cases ((printLines (if verbose then [announcement painting d] else [])).run site.answer
        ((settings o.overrides c).run site.answer s).2).1 with
      | false => rfl
      | true =>
          change (Program.run site.answer (Program.bind _ _) _).1 = _
          rw [Program.run_bind]
          change (Program.run site.answer (Program.bind _ _) _).1 = _
          rw [Program.run_bind]
          exact congrArg (Except.mapError _) (assemble_run site d _)

inductive Preliminary (data : String) : Host.Call → Prop where
  | variable (name : String) : Preliminary data (.variable name)
  | workingDirectory : Preliminary data .workingDirectory
  | isPresent (path : String) : Preliminary data (.isPresent path)
  | read (path : String) : Preliminary data (.read path)
  | note (record : Diagnostic) : Preliminary data (.note record)
  | listen (path : String) (listener : Listener) : Preliminary data (.listen path listener)
  | print (line : String) : Preliminary data (.print line)
  | complain (text : String) : Preliminary data (.complain text)
  | awaitInterrupt : Preliminary data .awaitInterrupt
  | makePath : Preliminary data (.makePath (logDirectory data))
  | openEnd : Preliminary data (.openEnd (logFile data))

-- Such a call changes no file of a machine, but for the one for diagnostics and the directories above it.
theorem preliminary_files {data : String} {c : Host.Call} (preliminary : Preliminary data c) (launch : Host.Machine.Launcher)
    (m : Host.Machine) : (m.answer launch c).2.tree = m.tree ∨
      m.tree.makePath m.work (logDirectory data) = .ok (m.answer launch c).2.tree ∨
      m.tree.openEnd m.work (logFile data) = .ok (m.answer launch c).2.tree := by
  cases preliminary with
  | note record => exact .inl (Counter.alike_note record).1
  | print line =>
      left
      change (m.print line.toUTF8).2.tree = m.tree
      unfold Host.Machine.print
      split <;> rfl
  | makePath =>
      have told : m.answer launch (.makePath (logDirectory data)) = m.settle (m.tree.makePath m.work (logDirectory data)) := rfl
      rw [told]
      cases made : m.tree.makePath m.work (logDirectory data) with
      | error r => exact .inl rfl
      | ok t => exact .inr (.inl rfl)
  | openEnd =>
      have told : m.answer launch (.openEnd (logFile data)) = m.settle (m.tree.openEnd m.work (logFile data)) := rfl
      rw [told]
      cases opened : m.tree.openEnd m.work (logFile data) with
      | error r => exact .inl rfl
      | ok t => exact .inr (.inr rfl)
  | _ => exact .inl rfl

theorem preliminary_grows {data : String} {c : Host.Call} (preliminary : Preliminary data c) (launch : Host.Machine.Launcher)
    (m : Host.Machine) : m.tree.Grows (m.answer launch c).2.tree := by
  rcases preliminary_files preliminary launch m with same | made | opened
  · rw [same]
    exact Files.Tree.grows_refl m.tree
  · exact Files.Tree.path_grows _ made
  · exact Files.Tree.end_grows _ opened

section Asks

variable {data : String}

theorem user_directory_asks (variable_ place : String) : (Config.userDirectory variable_ place).Asks (Preliminary data) := by
  refine Program.asks_bind (Program.asks_call (.variable _)) fun found => ?_
  cases found.filter Config.isAbsolute with
  | some d => trivial
  | none =>
      refine Program.asks_bind (Program.asks_call (.variable _)) fun home => ?_
      cases home.filter (· ≠ "") with
      | some d => trivial
      | none => trivial

theorem data_directory_asks : dataDirectory.Asks (Preliminary data) :=
  Program.asks_bind (user_directory_asks _ _) fun _ => trivial

theorem diagnostics_calls (s : σ) :
    ∀ e ∈ openDiagnostics.history site.answer s, Preliminary (dataDirectory.run site.answer s).1 e.1 := by
  unfold openDiagnostics
  rw [Program.bind_eq, Program.history_bind]
  refine List.forall_mem_append.mpr ⟨?_, ?_⟩
  · exact Program.asks_history _ data_directory_asks s
  · refine Program.asks_history _ (Program.asks_bind (Program.asks_call .makePath) fun made => ?_) _
    cases made with
    | error r => trivial
    | ok done =>
        refine Program.asks_bind (Program.asks_call .openEnd) fun opened => ?_
        cases opened with
        | error r => trivial
        | ok done =>
            refine Program.asks_bind (Program.asks_call (.variable _)) fun filter => ?_
            refine Program.asks_bind (Program.asks_call (.listen _ _)) fun _ => ?_
            exact Program.asks_bind (Program.asks_call (.note _)) fun _ => trivial

theorem load_file_asks (path : String) : (Config.loadFile path).Asks (Preliminary data) := by
  refine Program.asks_bind (Program.asks_call (.read path)) fun told => ?_
  cases told with
  | error r => trivial
  | ok bytes =>
      refine Program.asks_bind (Program.asks_bind (Program.asks_call .workingDirectory) fun _ => trivial) fun standard => ?_
      cases Config.ofBytes standard path bytes with
      | error f => trivial
      | ok c => exact Program.asks_bind (Program.asks_call (.note _)) fun _ => trivial

theorem load_first_asks (paths : List String) : (Config.loadFirst paths).Asks (Preliminary data) := by
  induction paths with
  | nil =>
      refine Program.asks_bind (Program.asks_call (.note _)) fun _ => ?_
      exact Program.asks_bind (Program.asks_bind (Program.asks_call .workingDirectory) fun _ => trivial) fun _ => trivial
  | cons path rest ih =>
      refine Program.asks_bind (Program.asks_call (.isPresent path)) fun present => ?_
      cases present with
      | false => exact ih
      | true => exact load_file_asks path

theorem load_asks (path : Option String) : (Config.load path).Asks (Preliminary data) := by
  cases path with
  | some path => exact load_file_asks path
  | none =>
      refine Program.asks_bind (Program.asks_bind (user_directory_asks _ _) fun found => ?_) fun paths => load_first_asks paths
      cases found with
      | none => trivial
      | some d => trivial

theorem print_asks (lines : List String) : (printLines lines).Asks (Preliminary data) := by
  induction lines with
  | nil => trivial
  | cons line rest ih =>
      refine Program.asks_bind (Program.asks_call (.print _)) fun told => ?_
      cases told with
      | error r => trivial
      | ok done => exact ih

theorem assemble_asks (c : Config) : (Supervisor.assemble c).Asks (Preliminary data) := by
  unfold Supervisor.assemble
  split
  · trivial
  · refine Program.asks_bind ?_ fun prepared => ?_
    · unfold Notify.prepare
      split
      · trivial
      · exact Program.asks_bind (Program.asks_call (.variable _)) fun _ => trivial
    · cases prepared with
      | error l => trivial
      | ok notifier => trivial

theorem prepare_asks (o : RunOptions) (verbose painting : Bool) (c : Config) :
    (o.prepare verbose painting c).Asks (Preliminary data) := by
  refine Program.asks_bind (asks_settings o.overrides c .variable) fun read => ?_
  cases read with
  | error t => trivial
  | ok d =>
      refine Program.asks_bind (print_asks _) fun announced => ?_
      cases announced with
      | false => trivial
      | true =>
          refine Program.asks_bind (Program.asks_call .awaitInterrupt) fun _ => ?_
          exact Program.asks_bind (assemble_asks d) fun _ => trivial

end Asks

theorem preliminary_calls (i : Invocation) (o : RunOptions) (painting : Bool) (s : σ) :
    ∀ e ∈ (i.prepare o painting).history site.answer s, Preliminary (dataDirectory.run site.answer s).1 e.1 := by
  unfold Invocation.prepare
  rw [Program.bind_eq, Program.history_bind]
  refine List.forall_mem_append.mpr ⟨diagnostics_calls s, ?_⟩
  refine Program.asks_history _ ?_ _
  cases (openDiagnostics.run site.answer s).1 with
  | error t => trivial
  | ok done =>
      refine Program.asks_bind (load_asks i.config) fun loaded => ?_
      cases loaded with
      | error f => trivial
      | ok c => exact Program.asks_bind (Program.asks_call (.note _)) fun _ => prepare_asks o i.verbose painting c

end Overseer.CommandLine
