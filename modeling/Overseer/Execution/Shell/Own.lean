import Overseer.Execution.Shell.State
import Overseer.Execution.Tools

set_option autoImplicit false

namespace Overseer.Execution.Shell

def shells : List String := ["sh", "dash", "bash"]

def turn (r : Redirection) (target : String) : Sh Bool := do
  let s ← get
  let c := s.context
  let keep (c : Context) : Sh Bool := do
    modify fun s => { s with context := c }
    return true
  let onto (o : Outlet) : Sh Bool :=
    if r.number = 2 then keep { c with errors := o }
    else if r.number = 1 then keep { c with output := o }
    else return true
  let opened (f : Files.Tree → Except Refusal Files.Tree) : Sh Bool := do
    if ← (change f : Running Bool) then
      match (← (files : Running Files.Tree)).find c.work true target with
      | .ok (.taken place _) => onto (.place place)
      | _ => return false
    else return false
  match r.turn with
  | .from =>
    match (← (files : Running Files.Tree)).read c.work target with
    | .error _ => return false
    | .ok bytes =>
      let pipe ← (openPipe bytes : Running Nat)
      keep { c with input := pipe }
  | .onto => opened (·.create c.work target)
  | .after => opened (·.openEnd c.work target)
  | .descriptor =>
    match target with
    | "1" => onto c.output
    | "2" => onto c.errors
    | "-" =>
      if r.number = 0 then do
        let pipe ← (openPipe ByteArray.empty : Running Nat)
        keep { c with input := pipe }
      else onto .shut
    | _ => return target = "0"

def ownTools : List (String × Tool) :=
  ["true", "false", "printf", "test", "[", "pwd", "kill"].filterMap fun name =>
    (tools.lookup name).map (name, ·)

def ownEcho (c : Context) (arguments : List String) : Running Nat :=
  let text (ws : List String) : String :=
    String.ofList (unescaped true (String.intercalate " " ws).toList)
  match arguments with
  | "-n" :: ws => say c (text ws)
  | ws => say c (text ws ++ "\n")

def changeDirectory (target : String) : Sh Nat := do
  let s ← get
  match (← (files : Running Files.Tree)).find s.context.work true target with
  | .ok (.taken place .directory) =>
    modify fun s => { s with context := { s.context with work := place } }
    modify fun s => s.assign "PWD" place.text
    return 0
  | _ => return 2

def giveLine (s : Shell) : List String → List String → Shell
  | [], _ => s
  | [name], ws => s.assign name (String.intercalate " " ws)
  | name :: names, ws => giveLine (s.assign name (ws.headD "")) names (ws.drop 1)

def lineWords (cs : List Char) : List String :=
  ((Files.pieces ' ' (cs.map fun c => if isSpace c then ' ' else c)).filter (· ≠ [])).map String.ofList

def readLine (names : List String) : Sh Nat := do
  let names := (options names).2
  match ← (takeLine (← get).context.input : Running (Option ByteArray)) with
  | none =>
    modify fun s => giveLine s names []
    return 1
  | some line =>
    modify fun s => giveLine s names (lineWords ((String.fromUTF8? line).getD "").toList)
    return 0

def setOptions : List String → Sh Nat
  | [] => return 0
  | w :: ws => do
    match w.toList with
    | ['-', '-'] =>
      modify fun s => { s with words := ws }
      return 0
    | '-' :: letters =>
      if letters.contains 'e' then modify fun s => { s with strict := true }
      setOptions ws
    | '+' :: letters =>
      if letters.contains 'e' then modify fun s => { s with strict := false }
      setOptions ws
    | _ =>
      modify fun s => { s with words := w :: ws }
      return 0

def nameIn (w : String) : String := String.ofList (w.toList.takeWhile (· ≠ '='))

def assignWord (w : String) (s : Shell) : Shell :=
  if w.toList.contains '=' then
    s.assign (nameIn w) (String.ofList (w.toList.drop ((nameIn w).length + 1)))
  else s

def assignEach (ws : List String) : Sh Nat := do
  modify fun s => ws.foldl (fun s w => assignWord w s) s
  return 0

def exportAll (ws : List String) : Sh Nat := do
  modify fun s => ws.foldl (fun s w => (assignWord w s).publish (nameIn w)) s
  return 0

def trapNumber? (s : String) : Option Nat := if s = "EXIT" then some 0 else signalNumber? s

def setTraps (arguments : List String) : Sh Nat := do
  match arguments with
  | [] => return 0
  | "--" :: action :: names => setTo action names
  | [name] => setTo "-" [name]
  | action :: names => setTo action names
where
  setTo (action : String) (names : List String) : Sh Nat := do
    let numbers := names.filterMap trapNumber?
    modify fun s =>
      { s with
        traps :=
          (if action = "-" then [] else numbers.map (·, action)) ++
            s.traps.filter fun t => !numbers.contains t.1 }
    return if numbers.length = names.length then 0 else 1

def codeNamed (s : Shell) (arguments : List String) : Nat :=
  match arguments with
  | [] => s.last
  | w :: _ => ((w.toNat?).getD 2) % 256

def ownCommand? (name : String) (arguments : List String) : Option (Sh Nat) :=
  match name with
  | ":" => some (return 0)
  | "cd" => some do
      let home := (← get).valueOf "HOME".toList
      changeDirectory (arguments.headD (String.ofList home))
  | "exit" => some do
      let code := (← get).codeNamed arguments
      jump (.halted (.left code))
  | "return" => some do
      let code := (← get).codeNamed arguments
      jump (.returned code)
  | "break" => some (jump .broke)
  | "continue" => some (jump .continued)
  | "set" => some (setOptions arguments)
  | "export" => some (exportAll arguments)
  | "unset" => some do
      modify fun s => (options arguments).2.foldl forget s
      return 0
  | "shift" => some do
      let n := ((arguments.headD "1").toNat?).getD 1
      modify fun s => { s with words := s.words.drop n }
      return 0
  | "read" => some (readLine arguments)
  | "local" => some (assignEach arguments)
  | "trap" => some (setTraps arguments)
  | "umask" => some (return 0)
  | "ulimit" => some (return 0)
  | "echo" => some do ownEcho (← get).context arguments
  | name => (ownTools.lookup name).map fun tool => do tool (← get).context arguments

end Overseer.Execution.Shell
