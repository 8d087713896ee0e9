import Overseer.Config.Settings
import Overseer.Counter.Store
import Overseer.Journal.Sink
import Overseer.Notify.Notifier
import Overseer.Session.Supervisor
import Overseer.Workload.Attempt

set_option autoImplicit false

namespace Overseer.Session

open Host (Action)

structure Supervisor where
  store : Counter.Store
  sink : Journal.Sink
  workload : Workload
  notifier : Notify.Notifier
  ceiling : UInt32
deriving DecidableEq, Repr

inductive Defect where
  | flaw (f : Config.Flaw)
  | lack (l : Notify.Lack)
deriving DecidableEq, Repr

def Defect.fault : Defect → Fault
  | flaw f => f.fault
  | lack l => l.fault

def workloadOf (w : Config.Work) : Workload :=
  ⟨w.steps, w.timeout.map fun ms => ms.toNat * 1000, w.directory⟩

namespace Supervisor

-- Assembles a supervisor from settings that are fit for a run. Nothing is written before.
def assemble (c : Config) : Action (Except Defect Supervisor) :=
  match c.validate with
  | .error f => return .error (.flaw f)
  | .ok () => do
    match ← Notify.prepare c.notify with
    | .error l => return .error (.lack l)
    | .ok notifier =>
      return .ok
        { store := ⟨c.storage.directory, c.storage.stem⟩
          sink := ⟨c.log.path, c.log.console⟩
          workload := workloadOf c.work
          notifier
          ceiling := c.retry.ceiling }

def faulty {ε α : Type} (fault : ε → Fault) (action : Action (Except ε α)) :
    Action (Except Fault α) := do
  return (← action).mapError fault

def answer (s : Supervisor) : (c : Call) → Action (Answer c)
  | .allocate => faulty Counter.Failure.fault s.store.allocate
  | .begin id => faulty Counter.Failure.fault (s.store.begin id)
  | .update id count => faulty Counter.Failure.fault (s.store.update id count)
  | .log message => faulty Journal.Failure.fault (s.sink.log message)
  | .attempt => faulty Workload.Unstartable.fault s.workload.attempt
  | .notify id count => faulty Notify.Failure.fault (s.notifier.send id count)
  | .stopRequested => Host.ask .stopRequested
  | .note record => Host.ask (.note record)

def run (s : Supervisor) : Action (Except Fault Report) := (supervise s.ceiling).through s.answer

end Supervisor

end Overseer.Session
