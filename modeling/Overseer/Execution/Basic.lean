import Overseer.Host.Machine

set_option autoImplicit false

namespace Overseer.Execution

open Host (Machine Duration)

inductive Outlet where
  | printer
  | complaints
  | place (location : Files.Location)
  | pipe (number : Nat)
  | shut
deriving DecidableEq, Repr

structure World where
  machine : Machine
  -- What has been written into each pipe and not been read.
  pipes : List ByteArray
  latest : Nat
  deadline : Option Duration

def World.at (time : Duration) (w : World) : World :=
  { w with machine := { w.machine with time := time } }

inductive Halt where
  | overdue
  | left (code : Nat)
  | killed (process signal : Nat)
deriving DecidableEq, Repr

abbrev Running := ExceptT Halt (StateM World)

structure Context where
  number : Nat
  parent : Nat
  input : Nat
  output : Outlet
  errors : Outlet
  work : Files.Location
  environment : List (String × String)
  ignored : List Nat

def supervisorNumber : Nat := 1000

def halt {α : Type} (h : Halt) : Running α := ExceptT.mk (pure (.error h))

def onMachine {α : Type} (f : Machine → α × Machine) : Running α := do
  let w ← get
  let (a, machine) := f w.machine
  set { w with machine }
  return a

def elapse (length : Duration) : Running Unit := do
  let w ← get
  let goal := w.machine.time + length
  match w.deadline with
  | none => set { w with machine := { w.machine with time := goal } }
  | some d =>
    if goal ≤ d then set { w with machine := { w.machine with time := goal } }
    else
      set { w with machine := { w.machine with time := d } }
      halt .overdue

def extendPlace (t : Files.Tree) (place : Files.Location) (bytes : ByteArray) : Option Files.Tree :=
  match t.node? place with
  | some (.file content mode) => some (t.put place (.file (content ++ bytes) mode))
  | some .fullDevice => if bytes.isEmpty then some t else none
  | _ => some t

def write (o : Outlet) (bytes : ByteArray) : Running Bool :=
  match o with
  | .printer => onMachine fun m =>
    match m.print bytes with
    | (.ok (), m) => (true, m)
    | (.error _, m) => (false, m)
  | .complaints => onMachine fun m =>
    (true, { m with complaints := m.complaints ++ (String.fromUTF8? bytes).getD "\ufffd" })
  | .place l => onMachine fun m =>
    match extendPlace m.tree l bytes with
    | some tree => (true, { m with tree })
    | none => (false, m)
  | .pipe n => do
    modify fun w => { w with pipes := w.pipes.modify n (· ++ bytes) }
    return true
  | .shut => return false

def writeText (o : Outlet) (s : String) : Running Bool := write o s.toUTF8

def openPipe (content : ByteArray) : Running Nat := do
  let w ← get
  set { w with pipes := w.pipes ++ [content] }
  return w.pipes.length

def drain (n : Nat) : Running ByteArray := do
  let w ← get
  set { w with pipes := w.pipes.set n ByteArray.empty }
  return w.pipes.getD n ByteArray.empty

def takeLine (n : Nat) : Running (Option ByteArray) := do
  let w ← get
  let bytes := (w.pipes.getD n ByteArray.empty).data.toList
  if bytes.isEmpty then return none
  let line := bytes.takeWhile (· ≠ 10)
  let rest := bytes.drop (line.length + 1)
  set { w with pipes := w.pipes.set n ⟨rest.toArray⟩ }
  return some ⟨line.toArray⟩

def change (f : Files.Tree → Except Refusal Files.Tree) : Running Bool :=
  onMachine fun m =>
    match f m.tree with
    | .ok tree => (true, { m with tree })
    | .error _ => (false, m)

def files : Running Files.Tree := do
  return (← get).machine.tree

-- Signals that end no process by themselves.
def harmless : List Nat := [17, 18, 23, 28]

-- Sends a signal. The supervisor is interrupted by it, and a process that comes from it is ended.
def send (target signal : Nat) : Running Bool := do
  let w ← get
  if signal = 0 || harmless.contains signal then
    return supervisorNumber ≤ target && target ≤ w.latest
  else if target = supervisorNumber then
    if signal = 2 then set { w with machine := w.machine.interrupt }
    return true
  else if supervisorNumber < target && target ≤ w.latest then halt (.killed target signal)
  else return false

end Overseer.Execution
