import Overseer.Diagnostic
import Overseer.Files.Path
import Overseer.Text.Blank

set_option autoImplicit false

namespace Overseer.Diagnostic

open Files (pieces)

-- With no limit, nothing is heard.
structure Rule where
  source : String
  limit : Option Level
deriving DecidableEq, Repr

structure Filter where
  rules : List Rule
  word : String
deriving DecidableEq, Repr

namespace Filter

def standard : Filter := ⟨[⟨"", some .error⟩], ""⟩

-- Of two rules the one with the longer name counts, and of two with one name the second.
def closer (best : Option Rule) (r : Rule) : Option Rule :=
  match best with
  | none => some r
  | some b => if r.source.length < b.source.length then some b else some r

def ruleFor (f : Filter) (source : String) : Option Rule :=
  (f.rules.filter fun r => r.source.toList.isPrefixOf source.toList).foldl closer none

def listener (f : Filter) (source : String) : Listener :=
  ⟨(f.ruleFor source).bind Rule.limit, f.word⟩

def limit? (word : String) : Option (Option Level) :=
  let upper := word.toUpper
  if upper = "OFF" then some none
  else (([.error, .warn, .info, .debug, .trace] : List Level).find? fun l => l.label = upper).map some

-- A word alone is a limit for every source, or a source that is heard to the full. What cannot be read
-- is no rule.
def rule? (text : String) : Option Rule :=
  match (pieces '=' text.toList).map fun p => Text.trim (String.ofList p) with
  | [word] =>
    if word = "" then none
    else match limit? word with
    | some limit => some ⟨"", limit⟩
    | none => some ⟨word, some .trace⟩
  | [source, word] =>
    if word = "" then some ⟨source, some .trace⟩ else (limit? word).map (Rule.mk source)
  | _ => none

def ofRules (rules : List Rule) (word : String) : Filter :=
  ⟨if rules = [] then standard.rules else rules, word⟩

def ofText (text : String) : Filter :=
  let rules (cs : List Char) := (pieces ',' cs).filterMap fun p => rule? (String.ofList p)
  match pieces '/' text.toList with
  | [cs] => ofRules (rules cs) ""
  | [cs, word] => ofRules (rules cs) (String.ofList word)
  | _ => standard

def ofVariable : Option String → Filter
  | none => standard
  | some text => ofText text

end Filter

end Overseer.Diagnostic
