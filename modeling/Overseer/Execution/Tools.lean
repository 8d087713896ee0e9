import Overseer.Execution.Basic
import Overseer.Execution.Condition
import Overseer.Execution.Pattern

set_option autoImplicit false

namespace Overseer.Execution

open Text (Numeral.text Numeral.aligned)

abbrev Tool := Context → List String → Running Nat

def codeOf (ok : Bool) : Nat := if ok then 0 else 1

def say (c : Context) (s : String) : Running Nat := do
  return codeOf (← writeText c.output s)

def forEach (f : String → Running Nat) : List String → Running Nat
  | [] => return 0
  | w :: ws => do
    let first ← f w
    let others ← forEach f ws
    return max first others

def options : List String → List Char × List String
  | [] => ([], [])
  | w :: ws =>
    match w.toList with
    | ['-', '-'] => ([], ws)
    | '-' :: c :: cs =>
      let (letters, rest) := options ws
      (c :: cs ++ letters, rest)
    | _ => ([], w :: ws)

def echo (c : Context) (arguments : List String) : Running Nat :=
  match arguments with
  | "-n" :: ws => say c (String.intercalate " " ws)
  | "-e" :: ws => say c (String.ofList (unescaped true (String.intercalate " " ws).toList) ++ "\n")
  | ws => say c (String.intercalate " " ws ++ "\n")

def printfTool (c : Context) (arguments : List String) : Running Nat :=
  match arguments with
  | [] => return 2
  | pattern :: ws => do
    let (text, sound) := printf pattern ws
    return max (← say c text) (codeOf sound)

def test (c : Context) (arguments : List String) : Running Nat := do
  return (View.mk (← files) c.work).testCode arguments

def bracket (c : Context) (arguments : List String) : Running Nat :=
  if arguments.getLast? = some "]" then test c arguments.dropLast else return 2

def seconds? (s : String) : Option Nat :=
  let (number, unit) :=
    match s.toList.reverse with
    | 's' :: cs => (cs.reverse, 1)
    | 'm' :: cs => (cs.reverse, 60)
    | 'h' :: cs => (cs.reverse, 3600)
    | 'd' :: cs => (cs.reverse, 86400)
    | cs => (cs.reverse, 1)
  let whole := number.takeWhile Char.isDigit
  let value (ds : List Char) : Nat := Nat.ofDigitChars 10 ds 0
  match number.drop whole.length with
  | [] => if whole.isEmpty then none else some (value whole * 1000000 * unit)
  | '.' :: fraction =>
    if (whole.isEmpty && fraction.isEmpty) || !fraction.all Char.isDigit then none
    else
      let micros := (fraction ++ List.replicate 6 '0').take 6
      some ((value whole * 1000000 + value micros) * unit)
  | _ => none

def sleep (_ : Context) (arguments : List String) : Running Nat :=
  match arguments, arguments.mapM seconds? with
  | [], _ => return 1
  | _, none => return 1
  | _, some lengths => do
    elapse (lengths.foldl (· + ·) 0)
    return 0

def pwd (c : Context) (_ : List String) : Running Nat := say c (c.work.text ++ "\n")

def touch (c : Context) (arguments : List String) : Running Nat :=
  let (_, names) := options arguments
  if names.isEmpty then return 1
  else forEach (fun name => do
    if (← files).isPresent c.work name then return 0
    else return codeOf (← change (·.openEnd c.work name))) names

def remove (c : Context) (arguments : List String) : Running Nat :=
  let (letters, names) := options arguments
  let forced := letters.contains 'f'
  let deep := letters.contains 'r' || letters.contains 'R'
  if names.isEmpty && !forced then return 1
  else forEach (fun name => do
    let tree ← files
    match tree.find c.work false name with
    | .ok (.taken _ .directory) =>
      if deep then return codeOf (← change (·.removeAll c.work name)) else return 1
    | .ok (.taken _ _) => return codeOf (← change (·.remove c.work name))
    | _ => return codeOf forced) names

def makeDirectory (c : Context) (arguments : List String) : Running Nat :=
  let (letters, names) := options arguments
  if names.isEmpty then return 1
  else forEach (fun name => do
    if letters.contains 'p' then return codeOf (← change (·.makePath c.work name))
    else return codeOf (← change fun t =>
      match Files.Path.ofText name with
      | .ok p => t.makeDirectory c.work p
      | .error r => .error r)) names

def removeDirectory (c : Context) (arguments : List String) : Running Nat :=
  if arguments.isEmpty then return 1
  else forEach (fun name => do
    return codeOf (← change fun t =>
      match t.find c.work false name with
      | .ok (.taken place .directory) =>
        if (t.names place).isEmpty then .ok (t.erase place) else .error .notEmpty
      | .ok _ => .error .notDirectory
      | .error r => .error r)) arguments

def baseName (path : String) : String :=
  match ((Files.pieces '/' path.toList).filter (· ≠ [])).getLast? with
  | some name => String.ofList name
  | none => "/"

def directoryName (path : String) : String :=
  match (path.toList.reverse.dropWhile (· = '/')).dropWhile (· ≠ '/') with
  | [] => if path.toList.head? = some '/' then "/" else "."
  | cs =>
    match cs.dropWhile (· = '/') with
    | [] => "/"
    | rest => String.ofList rest.reverse

def goal (t : Files.Tree) (work : Files.Location) (source target : String) : String :=
  match t.find work true target with
  | .ok (.taken _ .directory) => Files.Path.join target (baseName source)
  | _ => target

def move (c : Context) (arguments : List String) : Running Nat :=
  match (options arguments).2.reverse with
  | target :: source :: sources => forEach (fun name => do
      return codeOf (← change fun t => t.rename c.work name (goal t c.work name target)))
    (source :: sources).reverse
  | _ => return 1

def copy (c : Context) (arguments : List String) : Running Nat :=
  match (options arguments).2.reverse with
  | target :: source :: sources => forEach (fun name => do
      return codeOf (← change fun t =>
        match t.read c.work name with
        | .error r => .error r
        | .ok content =>
          match t.create c.work (goal t c.work name target) with
          | .error r => .error r
          | .ok t => t.extend c.work (goal t c.work name target) content))
    (source :: sources).reverse
  | _ => return 1

def link (c : Context) (arguments : List String) : Running Nat :=
  let (letters, names) := options arguments
  match names with
  | [target, path] => do
    if letters.contains 'f' then
      let _ ← change (·.remove c.work path)
    if letters.contains 's' then return codeOf (← change (·.makeLink c.work target path))
    else return 1
  | _ => return 1

def setMode (c : Context) (arguments : List String) : Running Nat :=
  match arguments with
  | mode :: names =>
    let bits : Option (Nat → Nat) :=
      if mode = "+x" || mode = "a+x" || mode = "u+x" then some (· ||| 0o111)
      else if mode = "-x" || mode = "a-x" then some (· &&& 0o666)
      else if !mode.isEmpty && mode.toList.all isOctal then some fun _ => octal mode.toList
      else none
    match bits with
    | none => return 1
    | some bits => forEach (fun name => do
        return codeOf (← change fun t =>
          match t.find c.work true name with
          | .ok (.taken place (.file content old)) => .ok (t.put place (.file content (bits old)))
          | .ok (.taken _ _) => .ok t
          | .ok (.free _) => .error .missing
          | .error r => .error r)) names
  | [] => return 1

def source (c : Context) (name : String) : Running (Option ByteArray) := do
  if name = "-" then return some (← drain c.input)
  else return ((← files).read c.work name).toOption

def onSources (c : Context) (names : List String) (f : Option String → ByteArray → Running Nat) :
    Running Nat :=
  match names with
  | [] => do f none (← drain c.input)
  | names => forEach (fun name => do
    match ← source c name with
    | none => return 1
    | some bytes => f (some name) bytes) names

def concatenate (c : Context) (arguments : List String) : Running Nat :=
  onSources c (options arguments).2 fun _ bytes => do return codeOf (← write c.output bytes)

def lineCount (bytes : ByteArray) : Nat := bytes.data.toList.count 10

def wordCount : Bool → List UInt8 → Nat
  | _, [] => 0
  | inside, b :: bs =>
    if b = 32 || (9 ≤ b && b ≤ 13) then wordCount false bs
    else (if inside then 0 else 1) + wordCount true bs

def count (c : Context) (arguments : List String) : Running Nat :=
  let (letters, names) := options arguments
  let chosen := if letters.isEmpty then ['l', 'w', 'c'] else ['l', 'w', 'm', 'c'].filter letters.contains
  onSources c names fun name bytes =>
    let number : Char → Nat
      | 'l' => lineCount bytes
      | 'w' => wordCount false bytes.data.toList
      | 'm' => ((String.fromUTF8? bytes).map String.length).getD bytes.size
      | _ => bytes.size
    let width := if chosen.length = 1 then 0
      else if name.isNone then 7 else (Numeral.text bytes.size).length
    say c (String.intercalate " " (chosen.map (Numeral.aligned width ∘ number)) ++
      (match name with
       | some n => " " ++ n
       | none => "") ++ "\n")

def lines (bytes : List UInt8) : List (List UInt8) :=
  let ls := Files.pieces 10 bytes
  let whole := ls.dropLast.map (· ++ [10])
  match ls.getLast? with
  | some last => if last.isEmpty then whole else whole ++ [last]
  | none => whole

def lineLimit : List String → Nat × List String
  | "-n" :: w :: ws => ((w.toNat?).getD 10, ws)
  | w :: ws =>
    match w.toList with
    | '-' :: 'n' :: cs => (((String.ofList cs).toNat?).getD 10, ws)
    | '-' :: c :: cs => (((String.ofList (c :: cs)).toNat?).getD 10, ws)
    | _ => (10, w :: ws)
  | [] => (10, [])

def head (c : Context) (arguments : List String) : Running Nat :=
  let (n, names) := lineLimit arguments
  onSources c names fun _ bytes => do
    return codeOf (← write c.output ⟨((lines bytes.data.toList).take n).flatten.toArray⟩)

def tail (c : Context) (arguments : List String) : Running Nat :=
  let (n, names) := lineLimit arguments
  onSources c names fun _ bytes => do
    let ls := lines bytes.data.toList
    return codeOf (← write c.output ⟨(ls.drop (ls.length - n)).flatten.toArray⟩)

def selectLines (c : Context) (arguments : List String) : Running Nat := do
  let (letters, words) := options arguments
  match words with
  | [] => return 2
  | pattern :: names =>
    let p :=
      if letters.contains 'F' then Pattern.literal pattern else Pattern.ofText pattern
    let p := if letters.contains 'x' then { p with fromStart := true, toEnd := true } else p
    let several := 1 < names.length
    let look (name : Option String) (bytes : ByteArray) : Running Nat := do
      let texts := (lines bytes.data.toList).map fun l =>
        (String.fromUTF8? ⟨(l.filter (· ≠ 10)).toArray⟩).getD "\ufffd"
      let chosen := texts.filter fun t => p.isIn t ≠ letters.contains 'v'
      let title := if several then (name.getD "") ++ ":" else ""
      let shown :=
        if letters.contains 'q' then ""
        else if letters.contains 'c' then title ++ Numeral.text chosen.length ++ "\n"
        else String.join (chosen.map fun t => title ++ t ++ "\n")
      let _ ← say c shown
      return if chosen.isEmpty then 1 else 0
    match names with
    | [] => do look none (← drain c.input)
    | names =>
      let codes ← names.mapM fun name => do
        match ← source c name with
        | none => return 2
        | some bytes => look (some name) bytes
      return if codes.contains 2 then 2 else if codes.contains 0 then 0 else 1

def branch (c : Context) (arguments : List String) : Running Nat := do
  let (letters, names) := options arguments
  let bytes ← drain c.input
  let code ← forEach (fun name => do
    let opened ← change fun t =>
      if letters.contains 'a' then t.openEnd c.work name else t.create c.work name
    if opened then return codeOf (← change (·.extend c.work name bytes)) else return 1) names
  return max code (codeOf (← write c.output bytes))

def sortedNames (names : List Files.Name) : List (List UInt8) :=
  (names.map Files.Name.bytes).mergeSort fun a b => !decide (b < a)

def listing (t : Files.Tree) (place : Files.Location) (all : Bool) : List UInt8 :=
  ((sortedNames (t.names place)).filter fun n => all || n.head? ≠ some 46).flatMap (· ++ [10])

def list (c : Context) (arguments : List String) : Running Nat := do
  let (letters, names) := options arguments
  let all := letters.contains 'a' || letters.contains 'A'
  let names := if names.isEmpty then ["."] else names
  let several := 1 < names.length
  forEach (fun name => do
    let t ← files
    match t.find c.work true name with
    | .ok (.taken place .directory) =>
      let title := if several then name ++ ":\n" else ""
      return codeOf (← write c.output (title.toUTF8 ++ ⟨(listing t place all).toArray⟩))
    | .ok (.taken _ _) => say c (name ++ "\n")
    | _ => return 2) names

def sequence (c : Context) (arguments : List String) : Running Nat :=
  let between (a b : Int) : Running Nat :=
    say c (String.join ((List.range (b - a + 1).toNat).map fun (i : Nat) =>
      integerText (a + i) ++ "\n"))
  match arguments.mapM integer? with
  | some [b] => between 1 b
  | some [a, b] => between a b
  | _ => return 1

def showVariable (c : Context) (arguments : List String) : Running Nat :=
  match arguments with
  | [] => say c (String.join (c.environment.map fun v => v.1 ++ "=" ++ v.2 ++ "\n"))
  | names => forEach (fun name =>
    match c.environment.lookup name with
    | some value => say c (value ++ "\n")
    | none => return 1) names

def signalNumber? (s : String) : Option Nat :=
  let names := ["HUP", "INT", "QUIT", "ILL", "TRAP", "ABRT", "BUS", "FPE", "KILL", "USR1", "SEGV",
    "USR2", "PIPE", "ALRM", "TERM", "STKFLT", "CHLD", "CONT", "STOP", "TSTP", "TTIN", "TTOU", "URG",
    "XCPU", "XFSZ", "VTALRM", "PROF", "WINCH", "IO", "PWR", "SYS"]
  let bare := if s.startsWith "SIG" then String.ofList (s.toList.drop 3) else s
  match names.findIdx? (· = bare) with
  | some i => some (i + 1)
  | none => s.toNat?

def kill (_ : Context) (arguments : List String) : Running Nat :=
  let (signal, targets) :=
    match arguments with
    | "-s" :: name :: ws => (signalNumber? name, ws)
    | "-n" :: name :: ws => (signalNumber? name, ws)
    | "--" :: ws => (some 15, ws)
    | w :: ws =>
      match w.toList with
      | '-' :: cs => (signalNumber? (String.ofList cs), ws)
      | _ => (some 15, w :: ws)
    | [] => (some 15, [])
  match signal with
  | none => return 1
  | some n =>
    if targets.isEmpty then return 1
    else forEach (fun target => do
      match target.toNat? with
      | none => return 1
      | some t => return codeOf (← send t n)) targets

def expression (c : Context) (arguments : List String) : Running Nat :=
  match arguments with
  | [w] => do
    let _ ← say c (w ++ "\n")
    return codeOf (w ≠ "" && w ≠ "0")
  | [a, operator, b] =>
    match integer? a, integer? b with
    | some x, some y =>
      let truth (p : Bool) : Option Int := some (if p then 1 else 0)
      let result : Option Int :=
        match operator with
        | "+" => some (x + y)
        | "-" => some (x - y)
        | "*" => some (x * y)
        | "/" => if y = 0 then none else some (x.tdiv y)
        | "%" => if y = 0 then none else some (x.tmod y)
        | "=" => truth (x = y)
        | "!=" => truth (x ≠ y)
        | "<" => truth (x < y)
        | "<=" => truth (x ≤ y)
        | ">" => truth (x > y)
        | ">=" => truth (x ≥ y)
        | _ => none
      match result with
      | none => return 2
      | some n => do
        let _ ← say c (integerText n ++ "\n")
        return codeOf (n ≠ 0)
    | _, _ => return 2
  | _ => return 2

def tools : List (String × Tool) :=
  [("true", fun _ _ => return 0), ("false", fun _ _ => return 1), ("echo", echo),
   ("printf", printfTool), ("test", test), ("[", bracket), ("sleep", sleep), ("pwd", pwd),
   ("touch", touch), ("rm", remove), ("mkdir", makeDirectory), ("rmdir", removeDirectory),
   ("mv", move), ("cp", copy), ("ln", link), ("chmod", setMode), ("cat", concatenate), ("wc", count),
   ("grep", selectLines),
   ("tee", branch), ("head", head), ("tail", tail), ("ls", list), ("seq", sequence), ("printenv", showVariable),
   ("kill", kill), ("expr", expression),
   ("basename", fun c ws => say c (baseName (ws.headD "") ++ "\n")),
   ("dirname", fun c ws => say c (directoryName (ws.headD "") ++ "\n"))]

end Overseer.Execution
