import Overseer.CommandLine.Invocation

set_option autoImplicit false

namespace Overseer.CommandLine

open Text (Numeral.Error)

inductive Stop where
  | unknown (word : String)
  | noSuchTask (word : String)
  | missingValue (key : Key)
  | badValue (key : Key) (value reason : String)
  | unwantedValue (key : Key) (value : String)
  | repeated (key : Key)
  | help (about : Level)
  | version
deriving DecidableEq, Repr

structure Given where
  config : Option String
  verbose : Bool
  ceiling : Option UInt32
  directory : Option String
  logPath : Option String
  timeout : Option UInt64
  session : Option UInt64
deriving DecidableEq, Repr

def Given.nothing : Given := ⟨none, false, none, none, none, none, none⟩

def readPath (k : Key) (value : String) : Except Stop String :=
  if value = "" then .error (.missingValue k) else .ok value

-- The ceiling is read as an integer first, so a zero may have a minus sign.
def readCeiling (k : Key) (value : String) : Except Stop UInt32 :=
  let number :=
    match value.toList with
    | '-' :: c :: cs => Text.Numeral.scan 1 0 (c :: cs)
    | cs => Text.Numeral.read UInt32.size cs
  match number with
  | .ok n => .ok (UInt32.ofNat n)
  | .error e => .error (.badValue k value e.message)

def readWord (k : Key) (value : String) : Except Stop UInt64 :=
  (Text.Numeral.readWord64 value).mapError fun e => .badValue k value e.message

def once {α : Type} (k : Key) (old : Option α) (new : Except Stop α) : Except Stop (Option α) :=
  if old.isSome then .error (.repeated k) else new.map some

namespace Given

def set (g : Given) (about : Level) (k : Key) (value : String) : Except Stop Given :=
  match k with
  | .config => (once k g.config (readPath k value)).map fun v => { g with config := v }
  | .ceiling => (once k g.ceiling (readCeiling k value)).map fun v => { g with ceiling := v }
  | .directory => (once k g.directory (readPath k value)).map fun v => { g with directory := v }
  | .logPath => (once k g.logPath (readPath k value)).map fun v => { g with logPath := v }
  | .timeout => (once k g.timeout (readWord k value)).map fun v => { g with timeout := v }
  | .session => (once k g.session (readWord k value)).map fun v => { g with session := v }
  | .verbose => if g.verbose then .error (.repeated k) else .ok { g with verbose := true }
  | .help => .error (.help about)
  | .version => .error .version

end Given

structure Reading where
  level : Level
  given : Given
  -- An option whose value has not come, or has come and not been looked at.
  pending : Option (Key × Option String)
deriving DecidableEq, Repr

namespace Reading

def fresh (level : Level) : Reading := ⟨level, .nothing, none⟩

def awaits (r : Reading) : Bool :=
  match r.pending with
  | some (_, none) => true
  | _ => false

def settle (r : Reading) : Except Stop Given :=
  match r.pending with
  | none => .ok r.given
  | some (k, none) => .error (.missingValue k)
  | some (k, some value) => r.given.set r.level k value

def set (r : Reading) (k : Key) (value : String) : Except Stop Reading :=
  match r.settle with
  | .error s => .error s
  | .ok g => (g.set r.level k value).map fun g => ⟨r.level, g, none⟩

def await (r : Reading) (k : Key) : Except Stop Reading :=
  r.settle.map fun g => ⟨r.level, g, some (k, none)⟩

def long (r : Reading) (name : String) (value : Option String) : Except Stop Reading :=
  match r.level.keys.find? fun k => k.name = name with
  | none => .error (.unknown ("--" ++ name))
  | some k =>
    match k.takesValue, value with
    | true, none => r.await k
    | true, some v => r.set k v
    | false, none => r.set k ""
    | false, some v => .error (.unwantedValue k v)

def attached : List Char → Option String
  | [] => none
  | '=' :: cs => some (String.ofList cs)
  | cs => some (String.ofList cs)

def letters (r : Reading) : List Char → Except Stop Reading
  | [] => .ok r
  | c :: cs =>
    match r.level.keys.find? fun k => k.letter? = some c with
    | none => .error (.unknown (String.ofList ['-', c]))
    | some k =>
      if k.takesValue then
        match attached cs with
        | none => r.await k
        | some v => r.set k v
      else
        match r.set k "" with
        | .error s => .error s
        | .ok r => letters r cs

end Reading

inductive Word where
  | separator
  | long (name : String) (value : Option String)
  | letters (cs : List Char)
  | plain
deriving DecidableEq, Repr

def parted (cs : List Char) : Word :=
  match cs.dropWhile (· ≠ '=') with
  | [] => .long (String.ofList cs) none
  | _ :: value => .long (String.ofList (cs.takeWhile (· ≠ '='))) (some (String.ofList value))

def Word.ofChars : List Char → Word
  | ['-', '-'] => .separator
  | '-' :: '-' :: cs => parted cs
  | '-' :: c :: cs => .letters (c :: cs)
  | _ => .plain

inductive Rest where
  -- Words after a separator.
  | trailing (words : List String)
  | task (level : Level) (words : List String)
  | help (words : List String)
deriving DecidableEq, Repr

def Rest.words : Rest → List String
  | trailing ws => ws
  | task _ ws => ws
  | help ws => ws

def task? (word : String) (rest : List String) : Option Rest :=
  if word = runWord then some (.task .run rest)
  else if word = statusWord then some (.task .status rest)
  else if word = helpWord then some (.help rest)
  else none

def surplus (level : Level) (word : String) : Stop :=
  if level = .top then .noSuchTask word else .unknown word

-- Reads the options of a level. On the top a task ends them, unless a value is awaited.
def scan (r : Reading) : List String → Except Stop (Reading × Rest)
  | [] => .ok (r, .trailing [])
  | w :: rest =>
    match if r.level = .top && !r.awaits then task? w rest else none with
    | some task => .ok (r, task)
    | none =>
      match Word.ofChars w.toList with
      | .separator => .ok (r, .trailing rest)
      | .long name value =>
        match r.long name value with
        | .error s => .error s
        | .ok r => scan r rest
      | .letters cs =>
        match r.letters cs with
        | .error s => .error s
        | .ok r => scan r rest
      | .plain =>
        match r.pending with
        | some (k, none) => scan { r with pending := some (k, some w) } rest
        | _ => .error (surplus r.level w)

def scanTask (level : Level) (words : List String) : Except Stop (Given × List String) :=
  match scan (.fresh level) words with
  | .error s => .error s
  | .ok (r, rest) =>
    match level, rest.words with
    | .status, w :: _ => .error (.unknown w)
    | _, ws => r.settle.map (·, ws)

def taskOf (level : Level) (g : Given) (command : List String) : Task :=
  match level with
  | .status => .status ⟨g.session, g.directory⟩
  | _ => .run ⟨g.ceiling, g.directory, g.logPath, g.timeout, command⟩

def helpOn : List String → Stop
  | [] => .help .top
  | [w] =>
    match task? w [] with
    | some (.task level _) => .help level
    | some _ => .help .top
    | none => .noSuchTask w
  | w :: w' :: _ => if (task? w []).isSome then .noSuchTask w' else .noSuchTask w

-- Reads a command line without the name of the program. An option that every level knows counts where
-- it is set last.
def parse (words : List String) : Except Stop Invocation :=
  match scan (.fresh .top) words with
  | .error s => .error s
  | .ok (top, .trailing []) => top.settle.map fun g => ⟨g.config, g.verbose, none⟩
  | .ok (_, .trailing (w :: _)) =>
    .error (if (task? w []).isSome then .unknown w else .noSuchTask w)
  | .ok (_, .help ws) => .error (helpOn ws)
  | .ok (top, .task level ws) =>
    match scanTask level ws with
    | .error s => .error s
    | .ok (inner, command) =>
      top.settle.map fun outer =>
        ⟨inner.config <|> outer.config, inner.verbose || outer.verbose,
          some (taskOf level inner command)⟩

end Overseer.CommandLine
