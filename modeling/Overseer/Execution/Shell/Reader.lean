import Overseer.Execution.Shell.Token

set_option autoImplicit false

namespace Overseer.Execution.Shell

namespace Reader

def plain? : Word → Option (List Char)
  | [] => some []
  | .bare cs :: w => (plain? w).map (cs ++ ·)
  | _ => none

def keywords : List String :=
  ["if", "then", "elif", "else", "fi", "while", "until", "do", "done", "for", "in", "case",
   "esac", "\x7b", "\x7d", "!"]

def keyword? : List Token → Option String
  | .word w :: _ => ((plain? w).map String.ofList).filter keywords.contains
  | _ => none

def closers : List String := ["then", "elif", "else", "fi", "do", "done", "esac", "\x7d"]

def isOver (ts : List Token) : Bool :=
  match ts with
  | [] => true
  | .operator o :: _ => o = ")" || o = ";;"
  | ts => ((keyword? ts).map closers.contains).getD false

def skipLines : List Token → List Token
  | .operator o :: ts => if o = "\n" then skipLines ts else .operator o :: ts
  | ts => ts

def expect (word : String) (ts : List Token) : Option (List Token) :=
  if keyword? ts = some word then some (ts.drop 1) else none

def turnOf (operator : String) : Turn :=
  if operator = "<" then .from
  else if operator = ">" then .onto
  else if operator = ">>" then .after
  else .descriptor

def setting? (w : Word) : Option (String × Word) :=
  let rec go : List Char → Word → Option (String × Word)
    | name, .bare [c] :: w =>
      if c = '=' then if name.isEmpty then none else some (String.ofList name, w)
      else if (if name.isEmpty then startsName c else inName c) then go (name ++ [c]) w
      else none
    | _, _ => none
  go [] w

def redirections : List Token → List Redirection × List Token
  | .redirect n o :: .word w :: ts =>
    let (rs, rest) := redirections ts
    (⟨n, turnOf o, w⟩ :: rs, rest)
  | ts => ([], ts)

def simpleParts : List (String × Word) → List Word → List Redirection → List Token →
    Option (Script × List Token)
  | settings, words, rs, .word w :: ts =>
    match if words.isEmpty then setting? w else none with
    | some s => simpleParts (settings ++ [s]) words rs ts
    | none => simpleParts settings (words ++ [w]) rs ts
  | settings, words, rs, .redirect n o :: .word w :: ts =>
    simpleParts settings words (rs ++ [⟨n, turnOf o, w⟩]) ts
  | _, _, _, .redirect _ _ :: _ => none
  | settings, words, rs, ts =>
    if settings.isEmpty && words.isEmpty && rs.isEmpty then none
    else some (.simple settings words rs, ts)

def listed : List Token → List Word × List Token
  | .word w :: ts =>
    let (ws, rest) := listed ts
    (w :: ws, rest)
  | ts => ([], ts)

def patterns : List Token → Option (List Word × List Token)
  | .word w :: .operator o :: ts =>
    if o = ")" then some ([w], ts)
    else if o = "|" then (patterns ts).map fun (ws, ts) => (w :: ws, ts)
    else none
  | _ => none

def afterOpening : List Token → List Token
  | .operator o :: ts => if o = "(" then ts else .operator o :: ts
  | ts => ts

def afterWords : List Token → List Token
  | .operator o :: ts => if o = ";" || o = "\n" then skipLines ts else .operator o :: ts
  | ts => ts

mutual

def list : Nat → List Token → Option (Script × List Token)
  | 0, _ => none
  | fuel + 1, ts =>
    let ts := skipLines ts
    if isOver ts then some (.nothing, ts)
    else match joined fuel ts with
    | none => none
    | some (a, .operator o :: rest) =>
      if o = ";" || o = "\n" then (list fuel rest).map fun (b, rest) => (.sequence a b, rest)
      else if o = "&" then
        (list fuel rest).map fun (b, rest) => (.sequence (.background a) b, rest)
      else some (a, .operator o :: rest)
    | some (a, rest) => some (a, rest)

def joined : Nat → List Token → Option (Script × List Token)
  | 0, _ => none
  | fuel + 1, ts =>
    match pipe fuel ts with
    | none => none
    | some (a, rest) => joinedTo fuel a rest

def joinedTo : Nat → Script → List Token → Option (Script × List Token)
  | 0, _, _ => none
  | fuel + 1, a, .operator o :: ts =>
    if o = "&&" || o = "||" then
      match pipe fuel (skipLines ts) with
      | none => none
      | some (b, rest) => joinedTo fuel (if o = "&&" then .both a b else .either a b) rest
    else some (a, .operator o :: ts)
  | _ + 1, a, ts => some (a, ts)

def pipe : Nat → List Token → Option (Script × List Token)
  | 0, _ => none
  | fuel + 1, ts =>
    if keyword? ts = some "!" then
      (pipe fuel (ts.drop 1)).map fun (a, rest) => (.negated a, rest)
    else match command fuel ts with
    | none => none
    | some (a, .operator o :: rest) =>
      if o = "|" then (pipe fuel (skipLines rest)).map fun (b, rest) => (.piped a b, rest)
      else some (a, .operator o :: rest)
    | some (a, rest) => some (a, rest)

def command : Nat → List Token → Option (Script × List Token)
  | 0, _ => none
  | fuel + 1, ts =>
    match ts, keyword? ts with
    | .word w :: .operator "(" :: .operator ")" :: rest, none =>
      match plain? w with
      | none => none
      | some name =>
        (command fuel (skipLines rest)).map fun (a, rest) => (.define (String.ofList name) a, rest)
    | .operator o :: rest, _ =>
      if o = "(" then
        match list fuel rest with
        | some (a, .operator o :: rest) =>
          if o = ")" then
            let (rs, rest) := redirections rest
            some (.group a true rs, rest)
          else none
        | _ => none
      else none
    | ts, some k =>
      match compound fuel k (ts.drop 1) with
      | none => none
      | some (a, rest) =>
        let (rs, rest) := redirections rest
        some (if rs.isEmpty then a else .group a false rs, rest)
    | ts, none => simpleParts [] [] [] ts

def compound : Nat → String → List Token → Option (Script × List Token)
  | 0, _, _ => none
  | fuel + 1, k, ts =>
    if k = "\x7b" then do
      let (a, ts) ← list fuel ts
      let ts ← expect "\x7d" ts
      return (.group a false [], ts)
    else if k = "if" then branches fuel ts
    else if k = "while" || k = "until" then do
      let (a, ts) ← list fuel ts
      let ts ← expect "do" ts
      let (b, ts) ← list fuel ts
      let ts ← expect "done" ts
      return (.loop (k = "until") a b, ts)
    else if k = "case" then
      match ts with
      | .word w :: ts => do
        let ts ← expect "in" (skipLines ts)
        let (branches, ts) ← caseBranches fuel ts
        return (.byCase w branches, ts)
      | _ => none
    else if k = "for" then
      match ts with
      | .word w :: ts =>
        match plain? w with
        | none => none
        | some name =>
          let own : List Word := [[.parameter ['@'] true]]
          let (words, ts) :=
            if keyword? (skipLines ts) = some "in" then listed ((skipLines ts).drop 1) else (own, ts)
          do
            let ts ← expect "do" (afterWords ts)
            let (body, ts) ← list fuel ts
            let ts ← expect "done" ts
            return (.each (String.ofList name) words body, ts)
      | _ => none
    else none

def caseBranches : Nat → List Token → Option (List (List Word × Script) × List Token)
  | 0, _ => none
  | fuel + 1, ts =>
    let ts := skipLines ts
    if keyword? ts = some "esac" then some ([], ts.drop 1)
    else do
      let (ps, ts) ← patterns (afterOpening ts)
      let (body, ts) ← list fuel ts
      match ts with
      | .operator ";;" :: ts =>
        let (others, ts) ← caseBranches fuel ts
        return ((ps, body) :: others, ts)
      | ts =>
        let ts ← expect "esac" ts
        return ([(ps, body)], ts)

def branches : Nat → List Token → Option (Script × List Token)
  | 0, _ => none
  | fuel + 1, ts => do
    let (condition, ts) ← list fuel ts
    let ts ← expect "then" ts
    let (yes, ts) ← list fuel ts
    if keyword? ts = some "elif" then
      let (no, ts) ← branches fuel (ts.drop 1)
      return (.choice condition yes no, ts)
    else if keyword? ts = some "else" then
      let (no, ts) ← list fuel (ts.drop 1)
      let ts ← expect "fi" ts
      return (.choice condition yes no, ts)
    else
      let ts ← expect "fi" ts
      return (.choice condition yes .nothing, ts)

end

end Reader

def Script.read? (source : List Char) : Option Script :=
  match tokens (source.length + 1) source with
  | none => none
  | some ts =>
    match Reader.list (8 * ts.length + 8) ts with
    | some (s, []) => some s
    | _ => none

end Overseer.Execution.Shell
