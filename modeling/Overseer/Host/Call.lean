import Overseer.Diagnostic
import Overseer.Program
import Overseer.Refusal
import Overseer.Files.Path
import Overseer.Time.Stamp

set_option autoImplicit false

namespace Overseer.Host

-- Microseconds.
abbrev Duration := Nat

structure Command where
  program : String
  arguments : List String
  directory : Option String
deriving DecidableEq, Repr

inductive Ending where
  | exited (code : Nat)
  | killed (signal : Nat)
deriving DecidableEq, Repr

inductive Waited (α : Type) where
  | ended (result : α) (spent : Duration)
  | overdue
deriving DecidableEq, Repr

inductive Unended where
  | unstarted (cause : Refusal)
  | unwatched (cause : Refusal)
deriving DecidableEq, Repr

structure Post where
  address : String
  bearer : String
  contentType : String
  body : String
  timeout : Duration
deriving DecidableEq, Repr

structure Reply where
  status : Nat
  body : String
deriving DecidableEq, Repr

inductive Call where
  | makePath (path : String)
  | list (path : String)
  | isPresent (path : String)
  | read (path : String)
  | create (path : String)
  | openEnd (path : String)
  | extend (path : String) (bytes : ByteArray)
  | sync (path : String)
  | rename (source target : String)
  | remove (path : String)
  | clock
  | variable (name : String)
  | workingDirectory
  | print (text : String)
  | complain (text : String)
  | note (record : Diagnostic)
  -- From now on records go to the end of a file, as far as the listener hears them.
  | listen (path : String) (listener : Listener)
  -- From now on an interrupt asks for a stop and does not end the program.
  | awaitInterrupt
  | stopRequested
  | launch (command : Command) (limit : Option Duration)
  | pause (length : Duration) (limit : Option Duration)
  | mark (line : String) (limit : Option Duration)
  | post (message : Post)

abbrev Answer : Call → Type
  | .makePath _ => Except Refusal Unit
  | .list _ => Except Refusal (List Files.Name)
  | .isPresent _ => Bool
  | .read _ => Except Refusal ByteArray
  | .create _ => Except Refusal Unit
  | .openEnd _ => Except Refusal Unit
  | .extend _ _ => Except Refusal Unit
  | .sync _ => Except Refusal Unit
  | .rename _ _ => Except Refusal Unit
  | .remove _ => Except Refusal Unit
  | .clock => Time.Instant
  | .variable _ => Option String
  | .workingDirectory => Option String
  | .print _ => Except Refusal Unit
  | .complain _ => Unit
  | .note _ => Unit
  | .listen _ _ => Unit
  | .awaitInterrupt => Unit
  | .stopRequested => Bool
  | .launch _ _ => Except Unended (Waited Ending)
  | .pause _ _ => Waited Unit
  | .mark _ _ => Waited (Except Refusal Unit)
  | .post _ => Option Reply

abbrev Action := Program Answer

def ask (c : Call) : Action (Answer c) := Program.call c

def note (level : Level) (text : String) : Action Unit := ask (.note ⟨level, text⟩)

end Overseer.Host
