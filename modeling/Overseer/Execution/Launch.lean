import Overseer.Execution.Shell.Run

set_option autoImplicit false

namespace Overseer.Execution

open Host (Machine Command Duration Ending Waited)

def depth : Nat := 20000

def startDirectory (m : Machine) : Option String → Except Refusal Files.Location
  | none => .ok m.work
  | some d =>
    match m.tree.find m.work true d with
    | .error r => .error r
    | .ok (.free _) => .error .missing
    | .ok (.taken place .directory) => .ok place
    | .ok (.taken _ _) => .error .notDirectory

def holdsNul (s : String) : Bool := s.toList.contains '\x00'

def hasNul (c : Command) : Bool :=
  holdsNul c.program || c.arguments.any holdsNul || (c.directory.map holdsNul).getD false

def prepare (m : Machine) (c : Command) : Except Refusal (Files.Location × Image) :=
  if hasNul c then .error .nulInArgument
  else match startDirectory m c.directory with
  | .error r => .error r
  | .ok work =>
    match search m.tree work (m.valueOf "PATH") c.program c.arguments with
    | .error r => .error r
    | .ok image => .ok (work, image)

def endingOf (number : Nat) : Except Halt Nat → Option Ending
  | .ok code => some (.exited code)
  | .error (.left code) => some (.exited code)
  | .error (.killed n signal) => if n = number then some (.killed signal) else some (.exited 0)
  | .error .overdue => none

def launch : Machine.Launcher := fun c limit m =>
  match prepare m c with
  | .error r => (.error (.unstarted r), m)
  | .ok (work, image) =>
    let number := supervisorNumber + 1
    let context : Context :=
      { number, parent := supervisorNumber, input := 0, output := .printer, errors := .complaints
        work, environment := m.environment, ignored := [] }
    let world : World :=
      { machine := m, pipes := [ByteArray.empty], latest := number
        deadline := limit.map (m.time + ·) }
    let (result, world) := (Shell.process depth context image).run.run world
    match endingOf number result with
    | none => (.ok .overdue, world.machine)
    | some ending => (.ok (.ended ending (world.machine.time - m.time)), world.machine)

def place (path : String) : Files.Location :=
  ((Files.pieces '/' path.toList).filter (· ≠ [])).reverse.map fun n => .text (String.ofList n)

def system : List (Files.Location × Files.Node) :=
  [(place "/usr", .directory), (place "/usr/bin", .directory), (place "/bin", .link "usr/bin"),
   (place "/dev", .directory), (place "/dev/null", .sinkDevice), (place "/dev/full", .fullDevice),
   (place "/tmp", .directory)] ++
  (Shell.shells ++ "env" :: tools.map (·.1)).map fun name => (.text name :: place "/usr/bin", .tool name)

end Overseer.Execution
