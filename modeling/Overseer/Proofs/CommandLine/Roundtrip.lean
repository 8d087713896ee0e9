import Mathlib.Data.List.Nodup
import Overseer.CommandLine.Arguments
import Overseer.Proofs.Text.Numeral

set_option autoImplicit false

namespace Overseer.CommandLine

open Text (Numeral.word32 Numeral.word64)

inductive Setting where
  | config (path : String)
  | verbose
  | ceiling (n : UInt32)
  | directory (path : String)
  | logPath (path : String)
  | timeout (n : UInt64)
  | session (n : UInt64)
deriving DecidableEq, Repr

namespace Setting

def key : Setting → Key
  | config _ => .config
  | verbose => .verbose
  | ceiling _ => .ceiling
  | directory _ => .directory
  | logPath _ => .logPath
  | timeout _ => .timeout
  | session _ => .session

def value : Setting → String
  | config path => path
  | verbose => ""
  | ceiling n => Numeral.word32 n
  | directory path => path
  | logPath path => path
  | timeout n => Numeral.word64 n
  | session n => Numeral.word64 n

def word (s : Setting) : String := if s.key.takesValue then settingWord s.key s.value else flagWord s.key

def Named : Setting → Prop
  | config path => path ≠ ""
  | directory path => path ≠ ""
  | logPath path => path ≠ ""
  | _ => True

end Setting

def Given.has (g : Given) : Key → Bool
  | .config => g.config.isSome
  | .verbose => g.verbose
  | .ceiling => g.ceiling.isSome
  | .directory => g.directory.isSome
  | .logPath => g.logPath.isSome
  | .timeout => g.timeout.isSome
  | .session => g.session.isSome
  | .help => false
  | .version => false

def Given.put (g : Given) : Setting → Given
  | .config path => { g with config := some path }
  | .verbose => { g with verbose := true }
  | .ceiling n => { g with ceiling := some n }
  | .directory path => { g with directory := some path }
  | .logPath path => { g with logPath := some path }
  | .timeout n => { g with timeout := some n }
  | .session n => { g with session := some n }

theorem put_has (g : Given) (s : Setting) (k : Key) (other : k ≠ s.key) : (g.put s).has k = g.has k := by
  cases s <;> cases k <;> first | rfl | exact absurd rfl other

theorem read_path (k : Key) (path : String) (named : path ≠ "") : readPath k path = .ok path := if_neg named

theorem read_ceiling (k : Key) (n : UInt32) : readCeiling k (Numeral.word32 n) = .ok n := by
  have read : Text.Numeral.read UInt32.size (Numeral.word32 n).toList = .ok n.toNat :=
    Text.Numeral.read_text UInt32.size n.toNat n.toNat_lt
  have digits : ∀ c ∈ (Numeral.word32 n).toList, c.isDigit = true := by
    rw [Numeral.word32, Text.Numeral.text_digits]
    exact Text.Numeral.digits_digit n.toNat
  unfold readCeiling
  split
  · next signed =>
      rw [signed] at digits
      exact absurd (digits '-' List.mem_cons_self) (by decide)
  · rw [read]
    exact congrArg Except.ok UInt32.ofNat_toNat

theorem read_word (k : Key) (n : UInt64) : readWord k (Numeral.word64 n) = .ok n := by
  rw [readWord, Numeral.word64, Text.Numeral.text,
    Text.Numeral.read_word64 _ (Text.Numeral.digits_digit n.toNat) Nat.toDigits_ne_nil n Nat.ofDigitChars_ten_toDigits]
  rfl

theorem set_setting (g : Given) (about : Level) (s : Setting) (free : g.has s.key = false) (named : s.Named) :
    g.set about s.key s.value = .ok (g.put s) := by
  have unset {α : Type} (k : Key) (old : Option α) (v : α) (free : old.isSome = false) : once k old (.ok v) = .ok (some v) := by
    rw [once, free]
    rfl
  cases s with
  | config path => simp only [Given.set, Setting.key, Setting.value, read_path _ path named, unset _ _ _ free]; rfl
  | verbose => exact if_neg (Bool.eq_false_iff.mp free)
  | ceiling n => simp only [Given.set, Setting.key, Setting.value, read_ceiling, unset _ _ _ free]; rfl
  | directory path => simp only [Given.set, Setting.key, Setting.value, read_path _ path named, unset _ _ _ free]; rfl
  | logPath path => simp only [Given.set, Setting.key, Setting.value, read_path _ path named, unset _ _ _ free]; rfl
  | timeout n => simp only [Given.set, Setting.key, Setting.value, read_word, unset _ _ _ free]; rfl
  | session n => simp only [Given.set, Setting.key, Setting.value, read_word, unset _ _ _ free]; rfl

theorem keys_found (level : Level) : ∀ k ∈ level.keys, (level.keys.find? fun j => j.name = k.name) = some k := by
  cases level <;> decide

theorem name_parted (k : Key) (value : List Char) :
    parted (k.name.toList ++ '=' :: value) = .long k.name (some (String.ofList value)) := by
  have plain : (k.name.toList.all fun c => decide (c ≠ '=')) = true := by cases k <;> decide
  have free := List.all_eq_true.mp plain
  rw [parted, List.dropWhile_append_of_pos free, List.takeWhile_append_of_pos free]
  simp

theorem long_chars (cs : List Char) (some : cs ≠ []) : Word.ofChars ('-' :: '-' :: cs) = parted cs := by
  cases cs with
  | nil => exact absurd rfl some
  | cons c rest => rfl

theorem setting_chars (k : Key) (value : String) :
    (settingWord k value).toList = '-' :: '-' :: (k.name.toList ++ '=' :: value.toList) := by
  simp [settingWord, String.toList_append]

theorem setting_word (k : Key) (value : String) : Word.ofChars (settingWord k value).toList = .long k.name (some value) := by
  rw [setting_chars, long_chars _ (by simp), name_parted, String.ofList_toList]

theorem flag_word (k : Key) : Word.ofChars (flagWord k).toList = .long k.name none := by
  cases k <;> decide

theorem word_dashed (s : Setting) : s.word.toList.head? = some '-' := by
  unfold Setting.word
  split
  · rw [setting_chars]
    rfl
  · generalize s.key = k
    cases k <;> decide

theorem no_task (s : Setting) (rest : List String) : task? s.word rest = none := by
  have other (w : String) (plain : w.toList.head? ≠ some '-') : s.word ≠ w := fun same => plain (same ▸ word_dashed s)
  rw [task?, if_neg (other runWord (by decide)), if_neg (other statusWord (by decide)), if_neg (other helpWord (by decide))]

theorem long_setting (r : Reading) (s : Setting) (own : s.key ∈ r.level.keys) (ready : r.pending = none)
    (free : r.given.has s.key = false) (named : s.Named) :
    ∃ value, Word.ofChars s.word.toList = .long s.key.name value ∧
      r.long s.key.name value = .ok ⟨r.level, r.given.put s, none⟩ := by
  have settled : r.settle = .ok r.given := by rw [Reading.settle, ready]
  have set : r.set s.key s.value = .ok ⟨r.level, r.given.put s, none⟩ := by
    rw [Reading.set, settled]
    simp only [set_setting r.given r.level s free named]
    rfl
  unfold Setting.word
  cases takes : s.key.takesValue with
  | true =>
      refine ⟨some s.value, setting_word s.key s.value, ?_⟩
      rw [Reading.long, keys_found r.level _ own]
      simp only [takes, set]
  | false =>
      refine ⟨none, flag_word s.key, ?_⟩
      have empty : s.value = "" := by
        cases s with
        | verbose => rfl
        | _ => cases takes
      rw [Reading.long, keys_found r.level _ own]
      simp only [takes, ← empty, set]

theorem scan_setting (r : Reading) (s : Setting) (rest : List String) (own : s.key ∈ r.level.keys) (ready : r.pending = none)
    (free : r.given.has s.key = false) (named : s.Named) :
    scan r (s.word :: rest) = scan ⟨r.level, r.given.put s, none⟩ rest := by
  obtain ⟨value, long, taken⟩ := long_setting r s own ready free named
  rw [scan, no_task s rest, ite_self]
  simp only [long, taken]

theorem scan_settings (settings : List Setting) (level : Level) (g : Given) (rest : List String)
    (own : ∀ s ∈ settings, s.key ∈ level.keys) (named : ∀ s ∈ settings, s.Named) (free : ∀ s ∈ settings, g.has s.key = false)
    (apart : (settings.map Setting.key).Nodup) :
    scan ⟨level, g, none⟩ (settings.map Setting.word ++ rest) = scan ⟨level, settings.foldl Given.put g, none⟩ rest := by
  induction settings generalizing g with
  | nil => rfl
  | cons s later ih =>
      obtain ⟨first, others⟩ := List.forall_mem_cons.mp own
      obtain ⟨name, names⟩ := List.forall_mem_cons.mp named
      obtain ⟨now, after⟩ := List.forall_mem_cons.mp free
      obtain ⟨alone, between⟩ := List.nodup_cons.mp apart
      rw [List.map_cons, List.cons_append, scan_setting _ s _ first rfl now name, List.foldl_cons]
      refine ih _ others names (fun t member => ?_) between
      rw [put_has g s t.key fun same => alone (same ▸ List.mem_map_of_mem member)]
      exact after t member

theorem put_comm (g : Given) (s t : Setting) (apart : s.key ≠ t.key) : (g.put s).put t = (g.put t).put s := by
  cases s <;> cases t <;> first | rfl | exact absurd rfl apart

theorem put_permuted (settings order : List Setting) (g : Given) (permuted : order.Perm settings)
    (apart : (settings.map Setting.key).Nodup) : order.foldl Given.put g = settings.foldl Given.put g := by
  refine permuted.foldl_eq' (fun s inside t inside' h => ?_) g
  by_cases same : s.key = t.key
  · have equal : s = t := List.inj_on_of_nodup_map apart (permuted.subset inside) (permuted.subset inside') same
    rw [equal]
  · exact put_comm h s t same

-- What is given inside counts over what is given outside.
def Given.over (inner outer : Given) : Given where
  config := inner.config <|> outer.config
  verbose := inner.verbose || outer.verbose
  ceiling := inner.ceiling <|> outer.ceiling
  directory := inner.directory <|> outer.directory
  logPath := inner.logPath <|> outer.logPath
  timeout := inner.timeout <|> outer.timeout
  session := inner.session <|> outer.session

theorem put_over (inner outer : Given) (s : Setting) : (inner.over outer).put s = (inner.put s).over outer := by
  cases s <;> rfl

theorem settings_over (settings : List Setting) (inner outer : Given) :
    settings.foldl Given.put (inner.over outer) = (settings.foldl Given.put inner).over outer := by
  induction settings generalizing inner with
  | nil => rfl
  | cons s later ih => rw [List.foldl_cons, put_over, ih, List.foldl_cons]

theorem settings_parted (before inside : List Setting) :
    (before ++ inside).foldl Given.put .nothing =
      (inside.foldl Given.put .nothing).over (before.foldl Given.put .nothing) := by
  rw [List.foldl_append, ← settings_over]
  rfl

theorem settings_without (settings : List Setting) (g : Given) (k : Key) (without : ∀ s ∈ settings, k ≠ s.key) :
    (settings.foldl Given.put g).has k = g.has k := by
  induction settings generalizing g with
  | nil => rfl
  | cons s later ih =>
      obtain ⟨other, others⟩ := List.forall_mem_cons.mp without
      rw [List.foldl_cons, ih _ others, put_has g s k other]

def Setting.optional {α : Type} (make : α → Setting) (v : Option α) : List Setting := (v.map make).toList

def RunOptions.chosen (o : RunOptions) : List Setting :=
  Setting.optional .ceiling o.ceiling ++ Setting.optional .directory o.directory ++ Setting.optional .logPath o.logPath ++
    Setting.optional .timeout o.timeout

def StatusOptions.chosen (o : StatusOptions) : List Setting :=
  Setting.optional .session o.session ++ Setting.optional .directory o.directory

namespace Task

def chosen : Task → List Setting
  | run o => o.chosen
  | status o => o.chosen

def level : Task → Level
  | run _ => .run
  | status _ => .status

def word : Task → String
  | run _ => runWord
  | status _ => statusWord

def command : Task → List String
  | run o => o.command
  | status _ => []

end Task

namespace Invocation

def general (i : Invocation) : List Setting := Setting.optional .config i.config ++ if i.verbose then [.verbose] else []

def chosen (i : Invocation) : List Setting := i.general ++ (i.task.map Task.chosen).getD []

end Invocation

-- The words after the options. The separator may be left out where nothing comes after it.
inductive Tail : Task → List String → Prop where
  | command (o : RunOptions) : Tail (.run o) (separator :: o.command)
  | none (t : Task) (empty : t.command = []) : Tail t []

-- The command lines for an invocation: its options in any order, of which those that every level knows may stand
-- before the task or after it.
inductive Written (i : Invocation) : List String → Prop where
  | bare (idle : i.task = none) (order : List Setting) (permuted : order.Perm i.chosen) : Written i (order.map Setting.word)
  | tasked (t : Task) (own : i.task = some t) (before inside : List Setting) (permuted : (before ++ inside).Perm i.chosen)
      (general : ∀ s ∈ before, s ∈ i.general) (tail : List String) (after : Tail t tail) :
      Written i (before.map Setting.word ++ t.word :: (inside.map Setting.word ++ tail))

theorem optional_keys {α : Type} (make : α → Setting) (k : Key) (keyed : ∀ a, (make a).key = k) (v : Option α) :
    ((Setting.optional make v).map Setting.key).Sublist [k] := by
  cases v with
  | none => exact List.nil_sublist _
  | some a =>
      rw [← keyed a]
      exact .refl _

theorem general_keys (i : Invocation) : (i.general.map Setting.key).Sublist [.config, .verbose] := by
  have verbosity : ((if i.verbose then [Setting.verbose] else []).map Setting.key).Sublist [.verbose] := by
    cases i.verbose <;> decide
  rw [Invocation.general, List.map_append]
  exact (optional_keys _ .config (fun _ => rfl) i.config).append verbosity

theorem run_keys (o : RunOptions) : (o.chosen.map Setting.key).Sublist [.ceiling, .directory, .logPath, .timeout] := by
  simp only [RunOptions.chosen, List.map_append]
  exact (((optional_keys _ .ceiling (fun _ => rfl) o.ceiling).append
    (optional_keys _ .directory (fun _ => rfl) o.directory)).append
      (optional_keys _ .logPath (fun _ => rfl) o.logPath)).append (optional_keys _ .timeout (fun _ => rfl) o.timeout)

theorem status_keys (o : StatusOptions) : (o.chosen.map Setting.key).Sublist [.session, .directory] := by
  rw [StatusOptions.chosen, List.map_append]
  exact (optional_keys _ .session (fun _ => rfl) o.session).append (optional_keys _ .directory (fun _ => rfl) o.directory)

theorem settings_apart (i : Invocation) : (i.chosen.map Setting.key).Nodup := by
  obtain ⟨config, verbose, task⟩ := i
  rw [Invocation.chosen, List.map_append]
  cases task with
  | none => exact ((general_keys _).append (List.Sublist.refl [])).nodup (by decide)
  | some t =>
      cases t with
      | run o => exact ((general_keys _).append (run_keys o)).nodup (by decide)
      | status o => exact ((general_keys _).append (status_keys o)).nodup (by decide)

theorem settings_known (i : Invocation) (t : Task) (own : i.task = some t) : ∀ s ∈ i.chosen, s.key ∈ t.level.keys := by
  have general : ∀ k ∈ [Key.config, .verbose], k ∈ Level.run.keys ∧ k ∈ Level.status.keys := by decide
  have running : ∀ k ∈ [Key.ceiling, .directory, .logPath, .timeout], k ∈ Level.run.keys := by decide
  have asking : ∀ k ∈ [Key.session, .directory], k ∈ Level.status.keys := by decide
  intro s member
  rw [Invocation.chosen, own] at member
  rcases List.mem_append.mp member with shared | special
  · have key := general _ ((general_keys i).subset (List.mem_map_of_mem shared))
    cases t with
    | run o => exact key.1
    | status o => exact key.2
  · cases t with
    | run o => exact running _ ((run_keys o).subset (List.mem_map_of_mem special))
    | status o => exact asking _ ((status_keys o).subset (List.mem_map_of_mem special))

theorem general_known (i : Invocation) (s : Setting) (member : s ∈ i.general) : s.key = .config ∨ s.key = .verbose := by
  have key := (general_keys i).subset (List.mem_map_of_mem member)
  simpa using key

theorem settings_whole (i : Invocation) :
    i.chosen.foldl Given.put .nothing =
      match i.task with
      | none => ⟨i.config, i.verbose, none, none, none, none, none⟩
      | some (.run o) => ⟨i.config, i.verbose, o.ceiling, o.directory, o.logPath, o.timeout, none⟩
      | some (.status o) => ⟨i.config, i.verbose, none, o.directory, none, none, o.session⟩ := by
  have general : i.general.foldl Given.put .nothing = { Given.nothing with config := i.config, verbose := i.verbose } := by
    obtain ⟨config, verbose, task⟩ := i
    cases config <;> cases verbose <;> rfl
  rw [Invocation.chosen, List.foldl_append, general]
  obtain ⟨config, verbose, task⟩ := i
  cases task with
  | none => rfl
  | some t =>
      cases t with
      | run o =>
          obtain ⟨ceiling, directory, logPath, timeout, command⟩ := o
          cases ceiling <;> cases directory <;> cases logPath <;> cases timeout <;> rfl
      | status o =>
          obtain ⟨session, directory⟩ := o
          cases session <;> cases directory <;> rfl

theorem scan_task (g : Given) (t : Task) (rest : List String) :
    scan ⟨.top, g, none⟩ (t.word :: rest) = .ok (⟨.top, g, none⟩, .task t.level rest) := by
  cases t <;> rfl

theorem scan_tail (g : Given) (t : Task) (tail : List String) (after : Tail t tail) :
    scan ⟨t.level, g, none⟩ tail = .ok (⟨t.level, g, none⟩, .trailing t.command) := by
  cases after with
  | command o => rfl
  | none _ empty =>
      rw [empty]
      rfl

theorem task_settings (t : Task) (order : List Setting) (tail : List String) (known : ∀ s ∈ order, s.key ∈ t.level.keys)
    (named : ∀ s ∈ order, s.Named) (apart : (order.map Setting.key).Nodup) (after : Tail t tail) :
    scanTask t.level (order.map Setting.word ++ tail) = .ok (order.foldl Given.put .nothing, t.command) := by
  have free : ∀ s ∈ order, Given.nothing.has s.key = false := fun s _ => by cases s <;> rfl
  rw [scanTask, Reading.fresh, scan_settings order t.level _ tail known named free apart, scan_tail _ t tail after]
  cases t <;> rfl

theorem bare_settings (order : List Setting) (rest : List String) (known : ∀ s ∈ order, s.key ∈ Level.top.keys)
    (named : ∀ s ∈ order, s.Named) (apart : (order.map Setting.key).Nodup) :
    scan (.fresh .top) (order.map Setting.word ++ rest) = scan ⟨.top, order.foldl Given.put .nothing, none⟩ rest :=
  scan_settings order .top _ rest known named (fun s _ => by cases s <;> rfl) apart

theorem over_general (inner outer : Given) (general : ∀ k, k ≠ .config → k ≠ .verbose → outer.has k = false) :
    inner.over outer =
      { inner with config := inner.config <|> outer.config, verbose := inner.verbose || outer.verbose } := by
  have none {α : Type} (v w : Option α) (empty : w.isSome = false) : (v <|> w) = v := by
    cases w with
    | none => cases v <;> rfl
    | some a => cases empty
  rw [Given.over, none _ _ (general .ceiling nofun nofun), none _ _ (general .directory nofun nofun),
    none _ _ (general .logPath nofun nofun), none _ _ (general .timeout nofun nofun), none _ _ (general .session nofun nofun)]

-- The options before a task and those after it make what all of them make.
theorem settings_read (i : Invocation) (t : Task) (own : i.task = some t) (before inside : List Setting)
    (permuted : (before ++ inside).Perm i.chosen) (general : ∀ s ∈ before, s ∈ i.general) :
    (⟨(inside.foldl Given.put .nothing).config <|> (before.foldl Given.put .nothing).config,
      (inside.foldl Given.put .nothing).verbose || (before.foldl Given.put .nothing).verbose,
      some (taskOf t.level (inside.foldl Given.put .nothing) t.command)⟩ : Invocation) = i := by
  have outside (k : Key) (one : k ≠ .config) (two : k ≠ .verbose) : (before.foldl Given.put .nothing).has k = false := by
    rw [settings_without before .nothing k fun s member same => ?_]
    · cases k <;> rfl
    · rcases general_known i s (general s member) with config | verbose
      · exact one (same.trans config)
      · exact two (same.trans verbose)
  have whole := settings_parted before inside
  rw [put_permuted _ _ _ permuted (settings_apart i), settings_whole, own, over_general _ _ outside] at whole
  generalize inside.foldl Given.put .nothing = inner at whole ⊢
  generalize before.foldl Given.put .nothing = outer at whole ⊢
  obtain ⟨config, verbose, task⟩ := i
  obtain rfl : task = some t := own
  cases t with
  | run o =>
      obtain ⟨rfl, rfl, ceiling, directory, logPath, timeout, -⟩ := Given.mk.inj whole
      obtain ⟨_, _, _, _, command⟩ := o
      subst ceiling directory logPath timeout
      rfl
  | status o =>
      obtain ⟨rfl, rfl, -, directory, -, -, session⟩ := Given.mk.inj whole
      obtain ⟨_, _⟩ := o
      subst directory session
      rfl

theorem written_parses (i : Invocation) (ws : List String) (named : ∀ s ∈ i.chosen, s.Named) (written : Written i ws) :
    parse ws = .ok i := by
  have top : ∀ s ∈ i.general, s.key ∈ Level.top.keys := by
    intro s member
    rcases general_known i s member with config | verbose
    · rw [config]
      decide
    · rw [verbose]
      decide
  cases written with
  | bare idle order permuted =>
      have bare : i.chosen = i.general := by rw [Invocation.chosen, idle]; exact List.append_nil _
      have apart : (order.map Setting.key).Nodup := (permuted.map _).nodup_iff.mpr (settings_apart i)
      have read := bare_settings order [] (fun s member => top s (bare ▸ permuted.subset member))
        (fun s member => named s (permuted.subset member)) apart
      have whole := settings_whole i
      rw [idle, ← put_permuted _ _ _ permuted (settings_apart i)] at whole
      rw [List.append_nil] at read
      rw [parse, read, whole]
      obtain ⟨config, verbose, task⟩ := i
      obtain rfl : task = none := idle
      rfl
  | tasked t own before inside permuted general tail after =>
      have apart : ((before ++ inside).map Setting.key).Nodup := (permuted.map _).nodup_iff.mpr (settings_apart i)
      rw [List.map_append, List.nodup_append] at apart
      have within (s : Setting) (member : s ∈ before ++ inside) := permuted.subset member
      have outer := bare_settings before (t.word :: (inside.map Setting.word ++ tail)) (fun s member => top s (general s member))
        (fun s member => named s (within s (List.mem_append_left _ member))) apart.1
      have inner := task_settings t inside tail
        (fun s member => settings_known i t own s (within s (List.mem_append_right _ member)))
        (fun s member => named s (within s (List.mem_append_right _ member))) apart.2.1 after
      rw [scan_task] at outer
      simp only [parse, outer, inner]
      exact congrArg Except.ok (settings_read i t own before inside permuted general)

theorem optional_words {α : Type} (make : α → Setting) (k : Key) (text : α → String)
    (own : ∀ a, (make a).word = settingWord k (text a)) (v : Option α) :
    (Setting.optional make v).map Setting.word = settingWords k (v.map text) := by
  cases v with
  | none => rfl
  | some a => exact congrArg (fun w => [w]) (own a)

theorem general_words (i : Invocation) : i.general.map Setting.word = i.shared := by
  have flag : (if i.verbose then [Setting.verbose] else []).map Setting.word = if i.verbose then [flagWord .verbose] else [] := by
    cases i.verbose <;> rfl
  rw [Invocation.general, Invocation.shared, List.map_append, flag, optional_words .config .config id fun _ => rfl, Option.map_id]
  rfl

theorem run_words (o : RunOptions) : o.chosen.map Setting.word = o.words := by
  simp only [RunOptions.chosen, RunOptions.words, List.map_append]
  rw [optional_words .ceiling .ceiling Numeral.word32 fun _ => rfl, optional_words .directory .directory id fun _ => rfl,
    optional_words .logPath .logPath id fun _ => rfl, optional_words .timeout .timeout Numeral.word64 fun _ => rfl,
    Option.map_id]
  rfl

theorem status_words (o : StatusOptions) : o.chosen.map Setting.word = o.words := by
  rw [StatusOptions.chosen, StatusOptions.words, List.map_append,
    optional_words .session .session Numeral.word64 fun _ => rfl, optional_words .directory .directory id fun _ => rfl,
    Option.map_id]
  rfl

def trailing (command : List String) : List String := if command = [] then [] else separator :: command

theorem trailing_tail (o : RunOptions) : Tail (.run o) (trailing o.command) := by
  unfold trailing
  split
  · next empty => exact .none _ empty
  · exact .command o

theorem task_written (i : Invocation) (t : Task) (own : i.task = some t) (tail : List String) (after : Tail t tail) :
    Written i (i.shared ++ t.word :: (t.chosen.map Setting.word ++ tail)) ∧
      Written i (t.word :: (t.chosen.map Setting.word ++ i.shared ++ tail)) := by
  have whole : i.chosen = i.general ++ t.chosen := by rw [Invocation.chosen, own]; rfl
  have swapped : (t.chosen ++ i.general).Perm i.chosen := by
    rw [whole]
    exact List.perm_append_comm
  have first := Written.tasked t own i.general t.chosen (.of_eq whole.symm) (fun _ => id) tail after
  have second := Written.tasked t own [] (t.chosen ++ i.general) swapped (List.forall_mem_nil _) tail after
  rw [List.map_append, general_words] at second
  rw [general_words] at first
  exact ⟨first, second⟩

theorem words_written (i : Invocation) (sharedFirst : Bool) : Written i (i.words sharedFirst) := by
  obtain ⟨config, verbose, task⟩ := i
  cases task with
  | none =>
      have bare := Written.bare (i := ⟨config, verbose, none⟩) rfl _ (.refl _)
      rw [Invocation.chosen, List.map_append, general_words] at bare
      simpa [Invocation.words] using bare
  | some t =>
      cases t with
      | run o =>
          obtain ⟨first, second⟩ := task_written ⟨config, verbose, some (.run o)⟩ (.run o) rfl _ (trailing_tail o)
          rw [Task.chosen, run_words] at first second
          cases sharedFirst with
          | true => simpa [Invocation.words, trailing, Task.word] using first
          | false => simpa [Invocation.words, trailing, Task.word] using second
      | status o =>
          obtain ⟨first, second⟩ := task_written ⟨config, verbose, some (.status o)⟩ (.status o) rfl [] (.none _ rfl)
          rw [Task.chosen, status_words] at first second
          cases sharedFirst with
          | true => simpa [Invocation.words, Task.word] using first
          | false => simpa [Invocation.words, Task.word] using second

theorem command_lines_parse_back :
    (∀ (i : Invocation) (ws : List String), (∀ s ∈ i.chosen, s.Named) → Written i ws → parse ws = .ok i) ∧
    (∀ (i : Invocation) (sharedFirst : Bool), Written i (i.words sharedFirst)) ∧
    ∀ o : RunOptions, o.overrides.directory = o.directory ∧ o.overrides.logPath = o.logPath ∧
      o.overrides.ceiling = o.ceiling ∧ o.overrides.timeout = o.timeout ∧
      ∀ command, o.overrides.command = some command ↔ command = o.command ∧ command ≠ [] := by
  refine ⟨written_parses, words_written, fun o => ⟨rfl, rfl, rfl, rfl, fun command => ?_⟩⟩
  unfold RunOptions.overrides
  split
  · next empty =>
      rw [empty]
      exact ⟨nofun, fun both => absurd both.1 both.2⟩
  · next some =>
      rw [Option.some.injEq]
      exact ⟨fun same => ⟨same.symm, same ▸ some⟩, fun both => both.1.symm⟩

def deceptive : Invocation :=
  ⟨some "a=--", true, some (.run ⟨some 4294967295, some "--", some "-v", some 18446744073709551615, ["--", "-c", "run"]⟩)⟩

theorem deceptive_parses_back :
    parse ["--verbose", "run", "--log-path=-v", "--attempt-timeout-ms=18446744073709551615", "--config=a=--",
      "--storage-dir=--", "--retry-ceiling=4294967295", "--", "--", "-c", "run"] = .ok deceptive := by
  have named : ∀ s ∈ deceptive.chosen, s.Named := by
    simp [deceptive, Invocation.chosen, Invocation.general, Task.chosen, RunOptions.chosen, Setting.optional, Setting.Named]
  have written : Written deceptive _ :=
    .tasked _ rfl [.verbose]
      [.logPath "-v", .timeout 18446744073709551615, .config "a=--", .directory "--", .ceiling 4294967295]
      (by decide) (by decide) _ (.command ⟨some 4294967295, some "--", some "-v", some 18446744073709551615, ["--", "-c", "run"]⟩)
  have words := command_lines_parse_back.1 deceptive _ named written
  exact words

end Overseer.CommandLine
