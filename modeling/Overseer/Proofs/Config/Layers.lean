import Overseer.CommandLine.Invocation

set_option autoImplicit false

namespace Overseer.Config.Overrides

open CommandLine (RunOptions)

def merged (layers : List Overrides) : Overrides := layers.foldr above empty

inductive Bracketing where
  | layer (o : Overrides)
  | stacked (higher lower : Bracketing)

def Bracketing.layers : Bracketing → List Overrides
  | layer o => [o]
  | stacked higher lower => higher.layers ++ lower.layers

def Bracketing.merged : Bracketing → Overrides
  | layer o => o
  | stacked higher lower => above higher.merged lower.merged

def Runnable (o : Overrides) : Prop := o.command ≠ some []

instance (o : Overrides) : Decidable (Runnable o) := inferInstanceAs (Decidable (o.command ≠ some []))

-- Each setting that can be overridden is that of the first layer that has it, and all else stays.
structure Layered (layers : List Overrides) (c d : Config) : Prop where
  directory : d.storage.directory = (layers.findSome? directory).getD c.storage.directory
  logPath : d.log.path = (layers.findSome? logPath).getD c.log.path
  ceiling : d.retry.ceiling = (layers.findSome? ceiling).getD c.retry.ceiling
  timeout : d.work.timeout = (layers.findSome? timeout).or c.work.timeout
  steps : (∃ program arguments, layers.findSome? command = some (program :: arguments) ∧
      d.work.steps = [.command program arguments]) ∨
    ((∀ o ∈ layers, o.command = none) ∧ d.work.steps = c.work.steps)
  stem : d.storage.stem = c.storage.stem
  console : d.log.console = c.log.console
  workplace : d.work.directory = c.work.directory
  notify : d.notify = c.notify

@[simp]
theorem empty_above (o : Overrides) : empty.above o = o := by
  simp [above, empty]

@[simp]
theorem above_empty (o : Overrides) : o.above empty = o := by
  simp [above, empty]

theorem above_assoc (a b c : Overrides) : (a.above b).above c = a.above (b.above c) := by
  simp [above, Option.or_assoc]

theorem merged_cons (o : Overrides) (layers : List Overrides) :
    merged (o :: layers) = o.above (merged layers) := rfl

theorem merged_append (higher lower : List Overrides) :
    merged (higher ++ lower) = (merged higher).above (merged lower) := by
  induction higher with
  | nil => exact (empty_above _).symm
  | cons o rest previous =>
    rw [List.cons_append, merged_cons, merged_cons, previous, above_assoc]

theorem merged_filter (layers : List Overrides) : merged (layers.filter (· ≠ empty)) = merged layers := by
  induction layers with
  | nil => rfl
  | cons o rest previous =>
    by_cases blank : o = empty
    · rw [List.filter_cons_of_neg (by simp [blank]), previous, merged_cons, blank, empty_above]
    · rw [List.filter_cons_of_pos (by simp [blank]), merged_cons, merged_cons, previous]

theorem bracketing_merged (b : Bracketing) : b.merged = merged b.layers := by
  induction b with
  | layer o => exact (above_empty o).symm
  | stacked higher lower first second =>
    rw [Bracketing.merged, Bracketing.layers, merged_append, first, second]

theorem merged_first {α : Type} (field : Overrides → Option α) (layers : List Overrides)
    (blank : field empty = none)
    (stacked : ∀ higher lower, field (above higher lower) = (field higher).or (field lower)) :
    field (merged layers) = layers.findSome? field := by
  induction layers with
  | nil => exact blank
  | cons o rest previous =>
    rw [merged_cons, stacked, previous, List.findSome?_cons]
    cases field o with
    | none => rfl
    | some value => rfl

-- A higher command that names no program would hide the lower one and yet leave the steps as they are.
theorem steps_above {higher : Option (List String)} (lower : Option (List String))
    (runnable : higher ≠ some []) : steps? (higher.or lower) = (steps? higher).or (steps? lower) := by
  cases higher with
  | none => rfl
  | some command =>
    cases command with
    | nil => exact absurd rfl runnable
    | cons program arguments => rfl

theorem apply_above {higher : Overrides} (lower : Overrides) (c : Config) (runnable : Runnable higher) :
    (higher.above lower).apply c = higher.apply (lower.apply c) := by
  simp [apply, above, steps_above lower.command runnable, Option.or_assoc, Option.getD_or]

theorem apply_empty (c : Config) : empty.apply c = c := by
  simp [apply, empty, steps?]

theorem apply_merged (layers : List Overrides) (c : Config) (runnable : ∀ o ∈ layers, Runnable o) :
    (merged layers).apply c = layers.foldr apply c := by
  induction layers with
  | nil => exact apply_empty c
  | cons o rest previous =>
    obtain ⟨first, others⟩ := List.forall_mem_cons.1 runnable
    rw [merged_cons, apply_above _ _ first, previous others, List.foldr_cons]

theorem layered_merged (layers : List Overrides) (c : Config) (runnable : ∀ o ∈ layers, Runnable o) :
    Layered layers c ((merged layers).apply c) := by
  have first {α : Type} (field : Overrides → Option α) := merged_first field layers
  have command := first Overrides.command rfl fun _ _ => by simp [above]
  have steps : ((merged layers).apply c).work.steps =
      (steps? (layers.findSome? Overrides.command)).getD c.work.steps := by
    rw [← command]
    rfl
  refine ⟨?_, ?_, ?_, ?_, ?_, rfl, rfl, rfl, rfl⟩
  · rw [← first Overrides.directory rfl fun _ _ => by simp [above]]
    rfl
  · rw [← first Overrides.logPath rfl fun _ _ => by simp [above]]
    rfl
  · rw [← first Overrides.ceiling rfl fun _ _ => by simp [above]]
    rfl
  · rw [← first Overrides.timeout rfl fun _ _ => by simp [above]]
    simp [apply]
  · rw [steps]
    cases found : layers.findSome? Overrides.command with
    | none => exact .inr ⟨by simpa using found, rfl⟩
    | some words =>
      obtain ⟨o, member, own⟩ := List.exists_of_findSome?_eq_some found
      cases words with
      | nil => exact absurd own (runnable o member)
      | cons program arguments => exact .inl ⟨program, arguments, rfl, rfl⟩

theorem variables_runnable {lookup : String → Option String} {o : Overrides}
    (read : ofVariables lookup = .ok o) : Runnable o := by
  cases ceiling : readCeiling (lookup ceilingVariable) with
  | error bad => simp [ofVariables, ofValues, ceiling, Except.map] at read
  | ok n =>
    simp only [ofVariables, ofValues, ceiling, Except.map, Except.ok.injEq] at read
    simp [Runnable, ← read, empty]

theorem options_runnable (o : RunOptions) : Runnable o.overrides := by
  unfold Runnable RunOptions.overrides
  split <;> simp [*]

theorem layers_apply_in_turn (layers : List Overrides) (c : Config)
    (runnable : ∀ o ∈ layers, Runnable o) :
    (merged layers).apply c = layers.foldr apply c ∧
    (∀ b : Bracketing, b.layers.filter (· ≠ empty) = layers.filter (· ≠ empty) →
      b.merged = merged layers) ∧
    Layered layers c ((merged layers).apply c) ∧
    (∀ lookup o, ofVariables lookup = .ok o → Runnable o) ∧
    ∀ o : RunOptions, Runnable o.overrides := by
  refine ⟨apply_merged layers c runnable, ?_, layered_merged layers c runnable,
    fun _ _ => variables_runnable, options_runnable⟩
  intro b same
  rw [bracketing_merged, ← merged_filter b.layers, same, merged_filter]

theorem layers_apply_in_turn_run :
    (∀ o ∈ [⟨none, some "a.log", some 3, none, none⟩, empty, ⟨some "kept", none, some 5, some 9, none⟩,
        ⟨none, none, none, none, some ["make", "-k"]⟩], Runnable o) ∧
      [⟨none, some "a.log", some 3, none, none⟩, empty, ⟨some "kept", none, some 5, some 9, none⟩,
        ⟨none, none, none, none, some ["make", "-k"]⟩].foldr apply (Config.standard none) =
      { Config.standard none with
        storage := ⟨"kept", (Config.standard none).storage.stem⟩
        log := ⟨"a.log", (Config.standard none).log.console⟩
        retry := ⟨3⟩
        work := ⟨[.command "make" ["-k"]], some 9, none⟩ } := by
  refine ⟨by decide, ?_⟩
  rw [← (layers_apply_in_turn _ _ (by decide)).1]
  decide

-- A command without a program hides the ones below and does nothing itself.
example : (merged [⟨none, none, none, none, some []⟩, ⟨none, none, none, none, some ["make"]⟩]).apply
    (Config.standard none) ≠
      [⟨none, none, none, none, some []⟩, ⟨none, none, none, none, some ["make"]⟩].foldr apply
        (Config.standard none) := by
  decide

end Overseer.Config.Overrides
