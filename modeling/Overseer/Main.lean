import Std.Time.DateTime.Timestamp
import Overseer.CommandLine.Run
import Overseer.Journal.Entry
/-!
The command line on a real machine: each call of the program is passed on to the system. Programs
are not started and nothing is posted from here, so those calls are declined.
-/
set_option autoImplicit false

namespace Overseer.Terminal

open Host (Call Answer Waited)

abbrev DiagnosticLog := IO.Ref (Option (String × Listener))

def refusalOf : IO.Error → Refusal
  | .alreadyExists _ code _ => .os code.toNat
  | .otherError code _ => .os code.toNat
  | .resourceBusy code _ => .os code.toNat
  | .resourceVanished code _ => .os code.toNat
  | .unsupportedOperation code _ => .os code.toNat
  | .hardwareFault code _ => .os code.toNat
  | .unsatisfiedConstraints code _ => .os code.toNat
  | .illegalOperation code _ => .os code.toNat
  | .protocolError code _ => .os code.toNat
  | .timeExpired code _ => .os code.toNat
  | .interrupted _ code _ => .os code.toNat
  | .noFileOrDirectory _ code _ => .os code.toNat
  | .invalidArgument _ code _ => .os code.toNat
  | .permissionDenied _ code _ => .os code.toNat
  | .resourceExhausted _ code _ => .os code.toNat
  | .inappropriateType _ code _ => .os code.toNat
  | .noSuchThing _ code _ => .os code.toNat
  | .unexpectedEof => .other "unexpected end of file"
  | .userError text => .other text

def tried {α : Type} (action : IO α) : IO (Except Refusal α) := do
  try return .ok (← action) catch e => return .error (refusalOf e)

def declined : Refusal := .os 38

def now : IO Time.Instant := do
  let nanoseconds := (← Std.Time.Timestamp.now).toNanosecondsSinceUnixEpoch.val
  return ⟨nanoseconds / 1000000000, (nanoseconds % 1000000000).toNat⟩

def append (path : String) (bytes : ByteArray) : IO Unit := do
  let handle ← IO.FS.Handle.mk path .append
  handle.write bytes
  handle.flush

def names (path : String) : IO (List Files.Name) := do
  let entries ← ((← IO.currentDir) / path).readDir
  return entries.toList.map fun e => .text e.fileName

def isPresent (path : String) : IO Bool := do
  ((← IO.currentDir) / path).pathExists

def nap : Nat := 1000000

def sleep (milliseconds : Nat) : IO Unit := do
  for _ in [0:milliseconds / nap] do
    IO.sleep nap.toUInt32
  IO.sleep (milliseconds % nap).toUInt32

def pause (length : Host.Duration) (limit : Option Host.Duration) : IO (Waited Unit) := do
  match limit with
  | none =>
    sleep (length / 1000)
    return .ended () length
  | some l =>
    sleep (min length l / 1000)
    return if length ≤ l then .ended () length else .overdue

def note (log : DiagnosticLog) (d : Diagnostic) : IO Unit := do
  match ← log.get with
  | none => return
  | some (path, listener) =>
    if listener.hears d then
      let entry : Journal.Entry := ⟨← now, d.line⟩
      let _ ← tried (append path entry.line.toUTF8)

def answer (log : DiagnosticLog) : (c : Call) → IO (Answer c)
  | .makePath path => if path = "" then return .ok () else tried (IO.FS.createDirAll path)
  | .list path => tried (names path)
  | .isPresent path => isPresent path
  | .read path => tried (IO.FS.readBinFile path)
  | .create path => tried (IO.FS.writeBinFile path ByteArray.empty)
  | .openEnd path => tried (append path ByteArray.empty)
  | .extend path bytes => tried (append path bytes)
  | .sync path => tried (append path ByteArray.empty)
  | .rename source target => tried (IO.FS.rename source target)
  | .remove path => tried (IO.FS.removeFile path)
  | .clock => now
  | .variable name => IO.getEnv name
  | .workingDirectory => return some (← IO.currentDir).toString
  | .print text => tried (do IO.print text; (← IO.getStdout).flush)
  | .complain text => IO.eprint text
  | .note record => note log record
  | .listen path listener => log.set (some (path, listener))
  | .awaitInterrupt => return
  | .stopRequested => return false
  | .launch _ _ => return .error (.unstarted declined)
  | .pause length limit => pause length limit
  | .mark line _ => return .ended (← tried (do IO.print line; (← IO.getStdout).flush)) 0
  | .post _ => return none

end Overseer.Terminal

def main (words : List String) : IO UInt32 := do
  let log ← IO.mkRef none
  let code ← (Overseer.CommandLine.run words).within (Overseer.Terminal.answer log)
  return code.toUInt32
