import Overseer.Counter.Store
import Overseer.Files.Edit
import Overseer.Host.Machine
import Overseer.Session.Supervisor

set_option autoImplicit false

namespace Overseer.Session

open Host (Machine)
open Workload (Verdict)

-- What the collaborators of one run do. Calls are counted from 1.
structure Script where
  ceiling : UInt32
  -- After the last of them every attempt fails.
  verdicts : List (Except Fault Verdict)
  lostLogs : List Nat
  logFault : Fault
  notifyFault : Option Fault
  stopAtOnce : Bool
  stopAtAttempt : Option Nat
  stopAtLog : Option Nat
  editsBefore : List Files.Edit
  editsAtAttempt : Nat → List Files.Edit

inductive Event where
  | log (message : String)
  | lostLog (message : String)
  | attempt (number : Nat)
  | notify (id : UInt64) (count : UInt32)
  | edit (result : Except Refusal Files.View)

abbrev Snapshot := List (List Files.Name × Files.Node)

structure Rehearsal where
  machine : Machine
  store : Counter.Store
  script : Script
  logs : Nat
  attempts : Nat
  stopping : Bool
  -- The latest event stands first.
  happened : List (Event × Snapshot)

namespace Rehearsal

def snapshot (r : Rehearsal) : Snapshot := r.machine.tree.survey r.machine.work r.store.directory

def witness (r : Rehearsal) (e : Event) : Rehearsal :=
  { r with happened := (e, r.snapshot) :: r.happened }

def edit (r : Rehearsal) (e : Files.Edit) : Rehearsal :=
  let (result, tree) := e.apply r.machine.work r.machine.tree
  { r with machine := { r.machine with tree } }.witness (.edit result)

def onStore {α : Type} (r : Rehearsal) (action : Host.Action (Except Counter.Failure α)) :
    Except Fault α × Rehearsal :=
  let (result, machine) := r.machine.perform Machine.noPrograms action
  (result.mapError Counter.Failure.fault, { r with machine })

def answer : (c : Call) → Rehearsal → Answer c × Rehearsal
  | .allocate, r => r.onStore r.store.allocate
  | .begin id, r => r.onStore (r.store.begin id)
  | .update id count, r => r.onStore (r.store.update id count)
  | .log message, r =>
    let n := r.logs + 1
    let r := { r with logs := n, stopping := r.stopping || r.script.stopAtLog == some n }
    if r.script.lostLogs.contains n then (.error r.script.logFault, r.witness (.lostLog message))
    else (.ok (), r.witness (.log message))
  | .attempt, r =>
    let n := r.attempts + 1
    let r := { r with attempts := n, stopping := r.stopping || r.script.stopAtAttempt == some n }
    let r := (r.script.editsAtAttempt n).foldl edit (r.witness (.attempt n))
    (r.script.verdicts[n - 1]?.getD (.ok .failure), r)
  | .notify id count, r =>
    let result := match r.script.notifyFault with
      | none => .ok ()
      | some f => .error f
    (result, r.witness (.notify id count))
  | .stopRequested, r => (r.stopping, r)
  | .note record, r => ((), { r with machine := r.machine.note record })

def play (store : Counter.Store) (script : Script) (machine : Machine) :
    Except Fault Report × Rehearsal :=
  let start : Rehearsal :=
    { machine, store, script, logs := 0, attempts := 0, stopping := script.stopAtOnce
      happened := [] }
  (supervise script.ceiling).run answer (script.editsBefore.foldl edit start)

def events (r : Rehearsal) : List (Event × Snapshot) := r.happened.reverse

end Rehearsal

end Overseer.Session
