import Overseer.Files.Tree
import Overseer.Host.Call
/-!
A machine as a value: its files, its clock, its environment and what it has printed. It answers
every call but those that start programs, which are left to a table of programs.
-/
set_option autoImplicit false

namespace Overseer.Host

structure Machine where
  tree : Files.Tree
  work : Files.Location
  environment : List (String × String)
  -- Since 1970.
  time : Duration
  printed : ByteArray
  printerFull : Bool
  complaints : String
  records : List Diagnostic
  listener : Listener
  -- An interrupt asks for a stop and does not end the program.
  awaiting : Bool
  stopping : Bool

namespace Machine

def fresh : Machine where
  tree := .empty
  work := []
  environment := []
  time := 0
  printed := ByteArray.empty
  printerFull := false
  complaints := ""
  records := []
  listener := .upTo .trace
  awaiting := false
  stopping := false

def instant (m : Machine) : Time.Instant :=
  ⟨Int.ofNat (m.time / 1000000), m.time % 1000000 * 1000⟩

def valueOf (m : Machine) (name : String) : Option String :=
  if name = "" || name.toList.contains '=' || name.toList.contains '\x00' then none
  else m.environment.lookup name

def settle (m : Machine) : Except Refusal Files.Tree → Except Refusal Unit × Machine
  | .ok tree => (.ok (), { m with tree })
  | .error r => (.error r, m)

def print (m : Machine) (bytes : ByteArray) : Except Refusal Unit × Machine :=
  if m.printerFull && !bytes.isEmpty then (.error .noSpace, m)
  else (.ok (), { m with printed := m.printed ++ bytes })

def note (m : Machine) (record : Diagnostic) : Machine :=
  if m.listener.hears record then { m with records := m.records ++ [record] } else m

def interrupt (m : Machine) : Machine :=
  if m.awaiting && !m.stopping then
    { m.note ⟨.info, "Received interrupt, stopping after the current attempt"⟩ with stopping := true }
  else m

def elapse (m : Machine) (length : Duration) : Machine := { m with time := m.time + length }

def pause (m : Machine) (length : Duration) (limit : Option Duration) : Waited Unit × Machine :=
  match limit with
  | none => (.ended () length, m.elapse length)
  | some l => if length ≤ l then (.ended () length, m.elapse length) else (.overdue, m.elapse l)

-- Printing takes no time, so that no limit comes first.
def mark (m : Machine) (line : String) : Waited (Except Refusal Unit) × Machine :=
  let (told, m) := m.print line.toUTF8
  (.ended told 0, m)

abbrev Launcher :=
  Command → Option Duration → Machine → Except Unended (Waited Ending) × Machine

def answer (launch : Launcher) : (c : Call) → Machine → Answer c × Machine
  | .makePath p, m => m.settle (m.tree.makePath m.work p)
  | .list p, m => (m.tree.list m.work p, m)
  | .isPresent p, m => (m.tree.isPresent m.work p, m)
  | .read p, m => (m.tree.read m.work p, m)
  | .create p, m => m.settle (m.tree.create m.work p)
  | .openEnd p, m => m.settle (m.tree.openEnd m.work p)
  | .extend p bytes, m => m.settle (m.tree.extend m.work p bytes)
  | .sync p, m => m.settle (m.tree.sync m.work p)
  | .rename p q, m => m.settle (m.tree.rename m.work p q)
  | .remove p, m => m.settle (m.tree.remove m.work p)
  | .clock, m => (m.instant, m)
  | .variable name, m => (m.valueOf name, m)
  | .workingDirectory, m => (some m.work.text, m)
  | .print text, m => m.print text.toUTF8
  | .complain text, m => ((), { m with complaints := m.complaints ++ text })
  | .note record, m => ((), m.note record)
  | .listen _ listener, m => ((), { m with listener })
  | .awaitInterrupt, m => ((), { m with awaiting := true })
  | .stopRequested, m => (m.stopping, m)
  | .launch command limit, m => launch command limit m
  | .pause length limit, m => m.pause length limit
  | .mark line _, m => m.mark line
  | .post _, m => (none, m)

def perform {α : Type} (launch : Launcher) (action : Action α) (m : Machine) : α × Machine :=
  action.run (answer launch) m

def noPrograms : Launcher := fun _ _ m => (.error (.unstarted .missing), m)

end Machine

end Overseer.Host
