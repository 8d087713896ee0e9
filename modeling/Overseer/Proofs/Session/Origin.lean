import Overseer.Proofs.Counter.Failing
import Overseer.Proofs.Journal.Logging
import Overseer.Proofs.Program.Along
import Overseer.Proofs.Session.Faults
import Overseer.Proofs.Workload.Launching
import Overseer.Session.Assembly

set_option autoImplicit false

namespace Overseer.Session

open Host (Action)
open Program (Runs)

variable {σ : Type}

namespace Supervisor

def served (sup : Supervisor) (answer : (c : Host.Call) → σ → Host.Answer c × σ) (c : Call) (s : σ) : Answer c × σ :=
  (sup.answer c).run answer s

end Supervisor

theorem faulty_course {ε α : Type} {fault : ε → Fault} {action : Action (Except ε α)} {h : List Journal.Exchange}
    {f : Fault} (run : Runs (Supervisor.faulty fault action) h (.error f)) :
    ∃ e, Runs action h (.error e) ∧ f = fault e := by
  obtain ⟨first, ended, rest, rfl, acting, telling⟩ := Program.runs_bind run
  obtain ⟨rfl, told⟩ := Program.runs_done telling
  rw [List.append_nil]
  cases ended with
  | ok a => cases told
  | error e => exact ⟨e, acting, Except.error.inj told⟩

variable (c : Config) (calls : History) (h : List Journal.Exchange)

-- One of the three calls that write to the store failed, and the machine refused what it needed.
inductive OfStore : Fault → Prop where
  | allocate (e : Counter.Failure) (call : ⟨.allocate, .error e.fault⟩ ∈ calls)
      (fails : Counter.Fails ⟨c.storage.directory, c.storage.stem⟩ h e) : OfStore e.fault
  | begin (id : UInt64) (e : Counter.Failure) (call : ⟨.begin id, .error e.fault⟩ ∈ calls)
      (fails : Counter.Fails ⟨c.storage.directory, c.storage.stem⟩ h e) : OfStore e.fault
  | update (id : UInt64) (count : UInt32) (e : Counter.Failure) (call : ⟨.update id count, .error e.fault⟩ ∈ calls)
      (fails : Counter.Fails ⟨c.storage.directory, c.storage.stem⟩ h e) : OfStore e.fault

-- A line was not taken: the file could not be opened at its end, or not be extended.
inductive OfLog : Fault → Prop where
  | unopened (message : String) (r : Refusal)
      (call : ⟨.log message, .error (Journal.Failure.fault ⟨c.log.path, r⟩)⟩ ∈ calls)
      (refused : ⟨.openEnd c.log.path, .error r⟩ ∈ h) : OfLog (Journal.Failure.fault ⟨c.log.path, r⟩)
  | unextended (message : String) (bytes : ByteArray) (r : Refusal)
      (call : ⟨.log message, .error (Journal.Failure.fault ⟨c.log.path, r⟩)⟩ ∈ calls)
      (refused : ⟨.extend c.log.path bytes, .error r⟩ ∈ h) : OfLog (Journal.Failure.fault ⟨c.log.path, r⟩)

-- A command of the workload could not be started, or not be waited for.
inductive OfStep : Fault → Prop where
  | step (u : Workload.Unstartable) (call : ⟨.attempt, .error u.fault⟩ ∈ calls)
      (unlaunched : Workload.Unlaunched c.work.steps c.work.directory h u) : OfStep u.fault

inductive Origin (f : Fault) : Prop where
  | store (kind : f.kind = .storage) (source : OfStore c calls h f) : Origin f
  | log (kind : f.kind = .logSink) (source : OfLog c calls h f) : Origin f
  | step (kind : f.kind = .execution) (source : OfStep c calls h f) : Origin f

structure Assembled (c : Config) (sup : Supervisor) : Prop where
  store : sup.store = ⟨c.storage.directory, c.storage.stem⟩
  sink : sup.sink = ⟨c.log.path, c.log.console⟩
  workload : sup.workload = workloadOf c.work
  ceiling : sup.ceiling = c.retry.ceiling

theorem assemble_course (c : Config) (sup : Supervisor) (h : List Journal.Exchange)
    (run : Runs (Supervisor.assemble c) h (.ok sup)) : Assembled c sup := by
  unfold Supervisor.assemble at run
  split at run
  · obtain ⟨-, told⟩ := Program.runs_done run
    cases told
  · obtain ⟨first, prepared, second, rfl, -, ending⟩ := Program.runs_bind run
    cases prepared with
    | error lack =>
        obtain ⟨-, told⟩ := Program.runs_done ending
        cases told
    | ok notifier =>
        obtain ⟨-, told⟩ := Program.runs_done ending
        obtain rfl := Except.ok.inj told
        exact ⟨rfl, rfl, rfl, rfl⟩

variable {c calls h}

-- One case for each kind of call that can fail.
theorem origin_of_fault {sup : Supervisor} (assembled : Assembled c sup) (e : Exchange) (f : Fault)
    (member : e ∈ calls) (fault : faultOf e = some f) (inner : List Journal.Exchange)
    (runs : Runs (sup.answer e.1) inner e.2) (within : ∀ d ∈ inner, d ∈ h) : Origin c calls h f := by
  obtain ⟨store, sink, workload, notifier, ceiling⟩ := sup
  obtain ⟨rfl, rfl, rfl, rfl⟩ := assembled
  obtain ⟨call, x⟩ := e
  cases call with
  | allocate =>
      cases x with
      | ok id => cases fault
      | error g =>
          obtain rfl : g = f := Option.some.inj fault
          obtain ⟨failure, failing, rfl⟩ := faulty_course runs
          have fails := Counter.fails_mono inner h failure within (Counter.allocate_fails inner failure failing)
          exact .store rfl (.allocate failure member fails)
  | begin id =>
      cases x with
      | ok done => cases fault
      | error g =>
          obtain rfl : g = f := Option.some.inj fault
          obtain ⟨failure, failing, rfl⟩ := faulty_course runs
          have fails := Counter.fails_mono inner h failure within (Counter.begin_fails id inner failure failing)
          exact .store rfl (.begin id failure member fails)
  | update id count =>
      cases x with
      | ok done => cases fault
      | error g =>
          obtain rfl : g = f := Option.some.inj fault
          obtain ⟨failure, failing, rfl⟩ := faulty_course runs
          have fails := Counter.fails_mono inner h failure within (Counter.update_fails id count inner failure failing)
          exact .store rfl (.update id count failure member fails)
  | log message =>
      cases x with
      | ok done => cases fault
      | error g =>
          obtain rfl : g = f := Option.some.inj fault
          obtain ⟨failure, failing, rfl⟩ := faulty_course runs
          obtain ⟨time, logged⟩ := Journal.log_course message inner _ failing
          cases logged with
          | unopened r => exact .log rfl (.unopened message r member (within _ (by simp)))
          | unextended r =>
              have extending := within ⟨.extend c.log.path (Journal.Entry.line ⟨time, message⟩).toUTF8, .error r⟩ (by simp)
              exact .log rfl (.unextended message _ r member extending)
  | attempt =>
      cases x with
      | ok verdict => cases fault
      | error g =>
          obtain rfl : g = f := Option.some.inj fault
          obtain ⟨u, failing, rfl⟩ := faulty_course runs
          have unlaunched := Workload.attempt_unlaunched (workloadOf c.work) inner u failing
          exact .step rfl (.step u member (Workload.unlaunched_mono _ _ inner h u (fun _ listed => listed) within unlaunched))
  | notify id count => cases x <;> cases fault
  | stopRequested => cases fault
  | note record => cases fault

theorem fault_of_run (ceiling : UInt32) (answer : (c : Call) → σ → Answer c × σ) (s : σ) (f : Fault)
    (failed : ((supervise ceiling).run answer s).1 = .error f) :
    ∃ e ∈ (supervise ceiling).history answer s, faultOf e = some f := by
  obtain ⟨body, line, told, notes, split, quiet, supervised⟩ := supervised_history ceiling answer s
  rw [split]
  rcases supervised_ends ceiling body line told notes _ supervised with
    ⟨g, ⟨before, e, rfl, -, fault⟩, -, ended⟩ | ⟨report, -, -, ended, -⟩
  · obtain rfl := Except.error.inj (failed.symm.trans ended)
    exact ⟨e, by simp, fault⟩
  · cases told with
    | ok done => cases failed.symm.trans ended
    | error g =>
        obtain rfl := Except.error.inj (failed.symm.trans ended)
        exact ⟨⟨.log line, .error f⟩, by simp, rfl⟩

theorem run_fails_fatally (c : Config) (sup : Supervisor) (answer : (c : Host.Call) → σ → Host.Answer c × σ) (s t : σ)
    (accepted : ((Supervisor.assemble c).run answer s).1 = .ok sup) (f : Fault)
    (failed : (sup.run.run answer t).1 = .error f) :
    f.isFatal = true ∧ (f.kind = .storage ∨ f.kind = .logSink ∨ f.kind = .execution) ∧
      Origin c ((supervise c.retry.ceiling).history (sup.served answer) t) (sup.run.history answer t) f := by
  have assembled := assemble_course c sup _ (accepted ▸ Program.runs_history answer (Supervisor.assemble c) s)
  rw [← assembled.ceiling]
  unfold Supervisor.run at failed ⊢
  rw [Program.run_through] at failed
  obtain ⟨e, member, fault⟩ := fault_of_run sup.ceiling (sup.served answer) t f failed
  obtain ⟨inner, runs, within⟩ := Program.runs_within sup.answer answer (supervise sup.ceiling) t e member
  have origin := origin_of_fault assembled e f member fault inner runs within
  refine ⟨?_, ?_, origin⟩
  · cases origin with
    | store kind => simp [Fault.isFatal, kind]
    | log kind => simp [Fault.isFatal, kind]
    | step kind => simp [Fault.isFatal, kind]
  · cases origin with
    | store kind => exact .inl kind
    | log kind => exact .inr (.inl kind)
    | step kind => exact .inr (.inr kind)

def programless : (c : Host.Call) → Unit → Host.Answer c × Unit
  | .makePath _, s => (.ok (), s)
  | .list _, s => (.error .missing, s)
  | .isPresent _, s => (false, s)
  | .create _, s => (.ok (), s)
  | .openEnd _, s => (.ok (), s)
  | .extend _ _, s => (.ok (), s)
  | .sync _, s => (.ok (), s)
  | .rename _ _, s => (.ok (), s)
  | c, s => ((Host.Machine.fresh.answer Host.Machine.noPrograms c).1, s)

def standing : Supervisor where
  store := ⟨Config.defaultDirectory, Config.defaultStem⟩
  sink := ⟨(Config.standard none).log.path, true⟩
  workload := workloadOf (Config.standard none).work
  notifier := .log
  ceiling := Config.defaultCeiling

def sleepless : Workload.Unstartable := ⟨"sleep", .unstarted .missing⟩

theorem attempts_broken (s : Session) (room : s.HasRoom) (answer : (c : Call) → σ → Answer c × σ) (t : σ) (f : Fault)
    (unstopped : (answer .stopRequested t).1 = false)
    (broken : (answer .attempt (answer .stopRequested t).2).1 = .error f) :
    (attempts s room).run.run answer t = (.error f, (answer .attempt (answer .stopRequested t).2).2) := by
  rw [attempts]
  change Program.run answer (ExceptT.run (if (answer .stopRequested t).1 = true then _ else _)) _ = _
  rw [unstopped]
  change Program.run answer (ExceptT.bindCont _ (answer .attempt (answer .stopRequested t).2).1) _ = _
  rw [broken]
  rfl

theorem standing_fails : (standing.run.run programless ()).1 = .error sleepless.fault := by
  have broken := attempts_broken ⟨1, 0, standing.ceiling⟩ (.inl rfl) (standing.served programless) () sleepless.fault rfl rfl
  have driven : (drive 1 standing.ceiling).run.run (standing.served programless) () = (.error sleepless.fault, ()) :=
    Eq.trans rfl broken
  have allocated : (ask .allocate).run (standing.served programless) () = (.ok 1, ()) := rfl
  unfold Supervisor.run
  rw [Program.run_through, supervise]
  change (Program.run (standing.served programless) (Program.bind _ _) ()).1 = _
  rw [Program.run_bind, allocated]
  dsimp only
  rw [Program.bind_eq, Program.run_bind, driven]
  rfl

theorem run_fails_fatally_programless :
    ((Supervisor.assemble (.standard none)).run programless ()).1 = .ok standing ∧
    (standing.run.run programless ()).1 = .error sleepless.fault ∧
    sleepless.fault.message = "Execution error: failed to spawn 'sleep': No such file or directory (os error 2)" ∧
    sleepless.fault.isFatal = true ∧
    Origin (.standard none) ((supervise Config.defaultCeiling).history (standing.served programless) ())
      (standing.run.history programless ()) sleepless.fault := by
  obtain ⟨fatal, -, origin⟩ :=
    run_fails_fatally (.standard none) standing programless () () rfl sleepless.fault standing_fails
  exact ⟨rfl, standing_fails, rfl, fatal, origin⟩

end Overseer.Session
