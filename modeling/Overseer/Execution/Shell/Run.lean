import Overseer.Execution.Loading
import Overseer.Execution.Shell.Arithmetic
import Overseer.Execution.Shell.Own
import Overseer.Execution.Shell.Reader
/-!
Running scripts. The commands that are not the shell's own are programs, of which another shell may
be one. All of it is bounded by a depth, beyond which a script is taken to go on for ever.
-/
set_option autoImplicit false

namespace Overseer.Execution

def startLength : Host.Duration := 2000

def goOn : Running Nat := do
  let w ← get
  match w.deadline with
  | none => halt (.left 2)
  | some d =>
    elapse (d + 1 - w.machine.time)
    halt .overdue

def reap (number : Nat) (p : Running Nat) : Running Nat := ExceptT.mk do
  match ← p.run with
  | .error (.left code) => return .ok code
  | .error (.killed n signal) =>
    if n = number then return .ok (128 + signal) else return .error (.killed n signal)
  | r => return r

namespace Shell

def settle (looked : Bool) (code : Nat) : Sh Nat := do
  modify fun s => { s with last := code }
  if (← get).strict && !looked && code ≠ 0 then jump (.halted (.left code)) else return code

def codeOfEnd : Except Jump Nat → Sh Nat
  | .ok code => return code
  | .error (.halted (.left code)) => return code
  | .error (.returned code) => return code
  | .error (.halted h) => jump (.halted h)
  | .error _ => return 0

def apart (body : Sh Nat) : Sh Nat := do
  let s ← get
  let r ← observe body
  set s
  codeOfEnd r

def patternOf : List Mark → Field
  | [] => []
  | .char c isLive :: ms => (c, isLive) :: patternOf ms
  | .gap :: ms => (' ', false) :: patternOf ms
  | .here :: ms => patternOf ms

def codeOfMissing (r : Refusal) : Nat := if r = .missing || r = .notDirectory then 127 else 126

def knownAs (name : String) : Sh Nat := do
  let s ← get
  if (s.functions.lookup name).isSome || (ownCommand? name []).isSome then say s.context (name ++ "\n")
  else match search (← (files : Running Files.Tree)) s.context.work (s.values.lookup "PATH") name [] with
  | .error _ => return 127
  | .ok _ => say s.context ("/usr/bin/" ++ name ++ "\n")

-- How long a script in the background is followed after the shell has ended.
def grace : Host.Duration := 20000

def asProcess (s : Shell) (body : Sh Nat) : Running Nat := ExceptT.mk do
  let (r, _) ← (body.run.run s : StateM World (Except Jump Nat × Shell))
  match r with
  | .ok code => return .ok code
  | .error (.halted h) => return .error h
  | .error (.returned code) => return .ok code
  | .error _ => return .ok 0

mutual

def marks : Nat → Word → Sh (List Mark)
  | 0, _ => do
    let _ ← (goOn : Running Nat)
    return []
  | _, [] => return []
  | depth + 1, p :: w => do
    let first ← match p with
      | .output source isQuoted => do
        let text ← output depth source
        pure (valueMarks isQuoted text)
      | .arithmetic source isQuoted => do
        let s ← get
        match calculate s.number source with
        | some n => pure (valueMarks isQuoted (integerText n).toList)
        | none => jump (.halted (.left 2))
      | p => do
        let s ← get
        pure (s.pieceMarks p)
    let others ← marks depth w
    return first ++ others

def output : Nat → List Char → Sh (List Char)
  | 0, _ => do
    let _ ← (goOn : Running Nat)
    return []
  | depth + 1, source => do
    let pipe ← (openPipe ByteArray.empty : Running Nat)
    let code ← within depth do
      modify fun s => { s with context := { s.context with output := .pipe pipe } }
      runSource depth source
    modify fun s => { s with last := code }
    return chomped (← (drain pipe : Running ByteArray))

def expand : Nat → List Word → Sh (List String)
  | 0, _ => do
    let _ ← (goOn : Running Nat)
    return []
  | _, [] => return []
  | depth + 1, w :: ws => do
    let fs := fields none (← marks depth w)
    let t ← (files : Running Files.Tree)
    let work := (← get).context.work
    let others ← expand depth ws
    return fs.flatMap (filesOf t work) ++ others

def expandOne : Nat → Word → Sh String
  | 0, _ => do
    let _ ← (goOn : Running Nat)
    return ""
  | depth + 1, w => do return String.ofList (plainText (← marks depth w))

def assignAll : Nat → List (String × Word) → Sh Unit
  | 0, _ => do
    let _ ← (goOn : Running Nat)
  | _, [] => return
  | depth + 1, (name, w) :: rest => do
    let value ← expandOne depth w
    modify fun s => s.assign name value
    assignAll depth rest

def redirect : Nat → List Redirection → Sh Bool
  | 0, _ => do
    let _ ← (goOn : Running Nat)
    return false
  | _, [] => return true
  | depth + 1, r :: rs => do
    if ← turn r (← expandOne depth r.target) then redirect depth rs else return false

def runSource : Nat → List Char → Sh Nat
  | 0, _ => goOn
  | depth + 1, source =>
    match Script.read? source with
    | none => return 2
    | some script => run depth false script

def within : Nat → Sh Nat → Sh Nat
  | 0, _ => goOn
  | depth + 1, body => apart do
    modify fun s => ofFrame s.toFrame.within
    let code ← codeOfEnd (← observe body)
    finish depth code

def finish : Nat → Nat → Sh Nat
  | 0, _ => goOn
  | depth + 1, code => do
    let code ←
      match (← get).traps.lookup 0 with
      | none => pure code
      | some action => do
        modify fun s => { s with traps := s.traps.filter fun t => t.1 ≠ 0 }
        match ← observe (runSource depth action.toList) with
        | .ok _ => pure code
        | .error (.halted (.left code)) => pure code
        | .error j => jump j
    leave depth (← get).jobs
    return code

def leave : Nat → List Job → Sh Unit
  | 0, _ => do
    let _ ← (goOn : Running Nat)
  | _, [] => return
  | depth + 1, j :: js => do
    let now := (← getThe World).machine.time
    let _ ← follow depth j (some (now + grace))
    modifyThe World (World.at now)
    leave depth js

def follow : Nat → Job → Option Host.Duration → Sh (Except Jump Nat)
  | 0, _, _ => do
    let _ ← (goOn : Running Nat)
    return .ok 0
  | depth + 1, j, limit => do
    let s ← get
    let deadline := (← getThe World).deadline
    modifyThe World fun w => { w.at j.began with deadline := limit }
    set (ofFrame j.frame.within)
    let r ← observe (run depth true j.script)
    set s
    modifyThe World fun w => { w with deadline := deadline }
    return r

def await : Nat → List Job → Nat → Sh Nat
  | 0, _, _ => goOn
  | _, [], code => return code
  | depth + 1, j :: js, _ => do
    let before ← getThe World
    let r ← follow depth j before.deadline
    modifyThe World fun w => w.at (max before.machine.time w.machine.time)
    modify fun s => { s with jobs := s.jobs.filter fun other => other.number ≠ j.number }
    let code ← codeOfEnd r
    modify fun s => { s with ended := (j.number, code) :: s.ended }
    await depth js code

def heed : Nat → Nat → Nat → Sh Nat
  | 0, _, _ => goOn
  | depth + 1, target, signal => do
    let s ← get
    if target = s.context.number then
      match if signal = 9 then none else s.traps.lookup signal with
      | none => jump (.halted (.killed target signal))
      | some action => do
        let _ ← runSource depth action.toList
        return 0
    else match s.jobs.find? fun j => j.number = target with
      | none => jump (.halted (.killed target signal))
      | some j => do
        let now := (← getThe World).machine.time
        let _ ← follow depth j (some now)
        modifyThe World (World.at now)
        modify fun s =>
          { s with
            jobs := s.jobs.filter fun other => other.number ≠ target
            ended := (target, 128 + signal) :: s.ended }
        return 0

-- Runs a script; `looked` says that somebody looks at its code.
def run : Nat → Bool → Script → Sh Nat
  | 0, _, _ => goOn
  | depth + 1, looked, script =>
    match script with
    | .nothing => do return (← get).last
    | .simple settings words rs => do
      let code ← simple depth settings words rs
      settle looked code
    | .group inner isApart rs => do
      let context := (← get).context
      let r ← observe do
        if ← redirect depth rs then
          if isApart then within depth (run depth looked inner) else run depth looked inner
        else return 2
      modify fun s => { s with context := { context with work := s.context.work } }
      match r with
      | .error j => jump j
      | .ok code => settle looked code
    | .sequence a b => do
      let _ ← run depth looked a
      run depth looked b
    | .both a b => do
      let code ← run depth true a
      if code = 0 then run depth looked b else return code
    | .either a b => do
      let code ← run depth true a
      if code = 0 then return 0 else run depth looked b
    | .negated inner => do
      let code ← run depth true inner
      settle true (if code = 0 then 1 else 0)
    | .piped a b => do
      let pipe ← (openPipe ByteArray.empty : Running Nat)
      let _ ← within depth do
        modify fun s => { s with context := { s.context with output := .pipe pipe } }
        run depth true a
      let code ← within depth do
        modify fun s => { s with context := { s.context with input := pipe } }
        run depth true b
      settle looked code
    | .background inner => do
      let w ← getThe World
      let number := w.latest + 1
      modifyThe World fun w => { w with latest := number }
      modify fun s =>
        { s with
          jobs := s.jobs ++ [⟨number, w.machine.time, inner, s.toFrame⟩]
          latestJob := some number }
      settle looked 0
    | .choice condition yes no => do
      if (← run depth true condition) = 0 then run depth looked yes
      else
        modify fun s => { s with last := 0 }
        run depth looked no
    | .byCase word branches => do
      let value ← expandOne depth word
      choose depth looked value branches
    | .define name body => do
      modify fun s => { s with functions := (name, body) :: s.functions }
      settle looked 0
    | .loop untilTrue condition body => loop depth looked untilTrue condition body 0
    | .each name words body => do
      let values ← expand depth words
      each depth looked name values body 0

def choose : Nat → Bool → String → List (List Word × Script) → Sh Nat
  | 0, _, _, _ => goOn
  | _, _, _, [] => settle true 0
  | depth + 1, looked, value, (patterns, body) :: branches => do
    if ← anyFits depth value patterns then
      modify fun s => { s with last := 0 }
      run depth looked body
    else choose depth looked value branches

def anyFits : Nat → String → List Word → Sh Bool
  | 0, _, _ => do
    let _ ← (goOn : Running Nat)
    return false
  | _, _, [] => return false
  | depth + 1, value, p :: ps => do
    let pattern := patternOf (← marks depth p)
    if fits (pattern.length + value.length + 1) pattern value.toList then return true
    else anyFits depth value ps

def loop : Nat → Bool → Bool → Script → Script → Nat → Sh Nat
  | 0, _, _, _, _, _ => goOn
  | depth + 1, looked, untilTrue, condition, body, latest => do
    let code ← run depth true condition
    if (code = 0) ≠ untilTrue then
      match ← observe (run depth looked body) with
      | .ok latest => loop depth looked untilTrue condition body latest
      | .error .continued => loop depth looked untilTrue condition body 0
      | .error .broke => settle true 0
      | .error j => jump j
    else settle true latest

def each : Nat → Bool → String → List String → Script → Nat → Sh Nat
  | 0, _, _, _, _, _ => goOn
  | _, _, _, [], _, latest => settle true latest
  | depth + 1, looked, name, value :: values, body, _ => do
    modify fun s => s.assign name value
    match ← observe (run depth looked body) with
    | .ok latest => each depth looked name values body latest
    | .error .continued => each depth looked name values body 0
    | .error .broke => settle true 0
    | .error j => jump j

def simple : Nat → List (String × Word) → List Word → List Redirection → Sh Nat
  | 0, _, _, _ => goOn
  | depth + 1, settings, words, rs => do
    modify fun s => if words.isEmpty then { s with last := 0 } else s
    let ws ← expand depth words
    let before ← get
    if !(← redirect depth rs) then
      modify fun s => { s with context := before.context }
      return 2
    assignAll depth settings
    match ws with
    | [] =>
      modify fun s => { s with context := before.context }
      return (← get).last
    | name :: arguments =>
      let given := settings.map (·.1)
      modify fun s => given.foldl publish s
      let r ← observe (command depth name arguments)
      modify fun s =>
        { s with
          values := if given.isEmpty then s.values else before.values
          exported := if given.isEmpty then s.exported else before.exported
          context :=
            if name = "exec" then s.context else { before.context with work := s.context.work } }
      match r with
      | .ok code => return code
      | .error (.halted (.killed target signal)) => heed depth target signal
      | .error j => jump j

def command : Nat → String → List String → Sh Nat
  | 0, _, _ => goOn
  | depth + 1, name, arguments => do
    let s ← get
    match s.functions.lookup name, name, arguments with
    | some body, _, _ => do
      modify fun s => { s with words := arguments }
      let r ← observe (run depth false body)
      modify fun now => { now with words := s.words }
      match r with
      | .ok code => return code
      | .error (.returned code) => return code
      | .error j => jump j
    | none, "eval", ws => runSource depth (String.intercalate " " ws).toList
    | none, ".", path :: _ => do
      match (← (files : Running Files.Tree)).read s.context.work path with
      | .error _ => return 2
      | .ok bytes => runSource depth ((String.fromUTF8? bytes).getD "").toList
    | none, "exec", [] => return 0
    | none, "exec", name :: arguments => do
      let code ← external depth name arguments
      jump (.halted (.left code))
    | none, "command", "-v" :: name :: _ => knownAs name
    | none, "command", name :: arguments => command depth name arguments
    | none, "wait", [] => do
      let _ ← await depth s.jobs 0
      return 0
    | none, "wait", w :: _ =>
      let target := (w.toNat?).getD 0
      match s.jobs.find? fun j => j.number = target with
      | some j => await depth [j] 0
      | none => return (s.ended.lookup target).getD 127
    | none, name, arguments =>
      match ownCommand? name arguments with
      | some own => own
      | none => external depth name arguments

def external : Nat → String → List String → Sh Nat
  | 0, _, _ => goOn
  | depth + 1, name, arguments => do
    let s ← get
    let t ← (files : Running Files.Tree)
    let context := { s.context with environment := s.environment, ignored := s.ignored }
    match search t context.work (s.values.lookup "PATH") name arguments with
    | .ok image => start depth context image
    | .error r =>
      if r = .badFormat && name.toList.contains '/' then
        start depth context ⟨"sh", name :: arguments⟩
      else return codeOfMissing r

def start : Nat → Context → Image → Running Nat
  | 0, _, _ => goOn
  | depth + 1, context, image => do
    let number := (← get).latest + 1
    modify fun w => { w with latest := number }
    reap number (process depth { context with number, parent := context.number } image)

def process : Nat → Context → Image → Running Nat
  | 0, _, _ => goOn
  | depth + 1, context, image => do
    elapse startLength
    if shells.contains image.tool then interpret depth context image.tool image.arguments
    else if image.tool = "env" then withVariables depth context image.arguments
    else match tools.lookup image.tool with
    | some tool => tool context image.arguments
    | none => return 127

def withVariables : Nat → Context → List String → Running Nat
  | 0, _, _ => goOn
  | _, c, [] => say c (String.join (c.environment.map fun v => v.1 ++ "=" ++ v.2 ++ "\n"))
  | depth + 1, c, w :: ws =>
    if w = "-i" then withVariables depth { c with environment := [] } ws
    else if w.toList.contains '=' then
      let value := String.ofList (w.toList.drop ((nameIn w).length + 1))
      let others := c.environment.filter fun v => v.1 ≠ nameIn w
      withVariables depth { c with environment := others ++ [(nameIn w, value)] } ws
    else do
      match search (← files) c.work (c.environment.lookup "PATH") w ws with
      | .ok image => process depth c image
      | .error r => return codeOfMissing r

def interpret : Nat → Context → String → List String → Running Nat
  | 0, _, _, _ => goOn
  | depth + 1, context, title, arguments => do
    let (letters, rest) := options arguments
    let fresh := Shell.fresh context title (letters.contains 'e')
    let code (s : Shell) (source : List Char) : Running Nat :=
      asProcess (s.assign "PWD" context.work.text) do
        let code ← codeOfEnd (← observe (runSource depth source))
        finish depth code
    if letters.contains 'c' then
      match rest with
      | [] => return 2
      | source :: ws => code { fresh with title := ws.headD title, words := ws.drop 1 } source.toList
    else match rest with
    | [] =>
      let bytes ← drain context.input
      code fresh ((String.fromUTF8? bytes).getD "").toList
    | path :: ws =>
      match (← files).read context.work path with
      | .error _ => return 2
      | .ok bytes =>
        code { fresh with title := path, words := ws } ((String.fromUTF8? bytes).getD "").toList

end

end Shell

end Overseer.Execution
