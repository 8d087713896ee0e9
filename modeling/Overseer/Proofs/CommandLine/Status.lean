import Overseer.CommandLine.Run
import Overseer.Proofs.Config.Layers
import Overseer.Proofs.Counter.Sketch
import Overseer.Proofs.Session.Recording

set_option autoImplicit false

namespace Overseer.CommandLine

open Config (BadCeiling Overrides Overrides.ofVariables Overrides.ofValues)
open Counter (Alone Bears Site Spared Stem Unlinked)
open Host (Action)
open Program (Along)

variable {σ τ : Type} {site : Site σ}

def settled (layer : Overrides) (lookup : String → Option String) (c : Config) : Except BadCeiling Config :=
  (Overrides.ofVariables lookup).map fun environment => (layer.above environment).apply c

theorem settings_run (site : Site σ) (layer : Overrides) (c : Config) (s : σ) :
    ((settings layer c).run site.answer s).1 = (settled layer site.environment c).mapError .badCeiling := by
  unfold settings Overrides.ofEnvironment settled Overrides.ofVariables
  simp only [Program.bind_eq, Program.run_bind, Host.ask, Program.run_call, site.unaltered]
  cases Overrides.ofValues (site.environment Config.directoryVariable) (site.environment Config.logPathVariable)
      (site.environment Config.ceilingVariable) with
  | error b => rfl
  | ok environment => rfl

-- Both commands put the same directory and ceiling over the file's, unless a run is given a ceiling of its own.
theorem settled_alike (o : RunOptions) (session : Option UInt64) (lookup : String → Option String) (c d : Config)
    (unlimited : o.ceiling = none) (running : settled o.overrides lookup c = .ok d) :
    ∃ e, settled (StatusOptions.overrides ⟨session, o.directory⟩) lookup c = .ok e ∧ e.storage = d.storage ∧
      e.retry = d.retry := by
  unfold settled at running ⊢
  cases read : Overrides.ofVariables lookup with
  | error b =>
      rw [read] at running
      cases running
  | ok environment =>
      rw [read] at running
      obtain rfl := Except.ok.inj running
      refine ⟨_, rfl, rfl, ?_⟩
      simp [Overrides.apply, Overrides.above, RunOptions.overrides, StatusOptions.overrides, Overrides.empty, unlimited]

theorem settled_stem (layer : Overrides) (lookup : String → Option String) (c d : Config)
    (running : settled layer lookup c = .ok d) : d.storage.stem = c.storage.stem := by
  unfold settled at running
  cases read : Overrides.ofVariables lookup with
  | error b =>
      rw [read] at running
      cases running
  | ok environment =>
      rw [read] at running
      obtain rfl := Except.ok.inj running
      rfl

theorem asks_settings {Q : Host.Call → Prop} (layer : Overrides) (c : Config) (own : ∀ name, Q (.variable name)) :
    (settings layer c).Asks Q := by
  have looking : Overrides.ofEnvironment.Asks Q :=
    ⟨own _, fun _ => ⟨own _, fun _ => ⟨own _, fun _ => trivial⟩⟩⟩
  refine Program.asks_bind looking fun read => ?_
  cases read with
  | error b => trivial
  | ok environment => trivial

theorem assembled (c : Config) (s : σ) (sup : Session.Supervisor)
    (told : ((Session.Supervisor.assemble c).run site.answer s).1 = .ok sup) :
    sup.store = storeOf c ∧ sup.sink.path = c.log.path ∧ sup.ceiling = c.retry.ceiling := by
  unfold Session.Supervisor.assemble at told
  split at told
  · cases told
  · rw [Program.bind_eq, Program.run_bind] at told
    cases prepared : ((Notify.prepare c.notify).run site.answer s).1 with
    | error lack =>
        rw [prepared] at told
        cases told
    | ok notifier =>
        rw [prepared] at told
        obtain rfl := Except.ok.inj told
        exact ⟨rfl, rfl, rfl⟩

-- The report's count is in the directory of the store, under the report's number, and nobody else's is.
def Records (c : Config) (report : Session.Report) (m : Host.Machine) : Prop :=
  report.session.ceiling = c.retry.ceiling ∧
    ∃ shelf, Bears (storeOf c) report.session.id (some report.session.failures) m shelf

section Recorded

variable {d : Config} {report : Session.Report} (plain : Stem d.storage.stem)
  (outside : ∀ id, d.log.path ≠ (storeOf d).temporaryPath id)

include plain outside

theorem supervised_records (s : σ)
    (alone : Along site.answer (Alone site (storeOf d)) s ((supervised d).history site.answer s))
    (unlinked : Along site.answer (Unlinked site (storeOf d)) s ((supervised d).history site.answer s))
    (ended : ((supervised d).run site.answer s).1 = .reported report) :
    Records d report (site.machine ((supervised d).run site.answer s).2) := by
  unfold supervised at alone unlinked ended ⊢
  obtain ⟨-, alone⟩ := (Program.along_call_bind _ _ _).mp alone
  obtain ⟨-, unlinked⟩ := (Program.along_call_bind _ _ _).mp unlinked
  obtain ⟨-, alone⟩ := (Program.along_bind _ _ _).mp alone
  obtain ⟨-, unlinked⟩ := (Program.along_bind _ _ _).mp unlinked
  rw [Program.bind_eq, Program.run_bind, Program.bind_eq, Program.run_bind, Host.ask, Program.run_call] at ended ⊢
  generalize (site.answer .awaitInterrupt s).2 = begun at alone unlinked ended ⊢
  cases built : ((Session.Supervisor.assemble d).run site.answer begun).1 with
  | error defect =>
      rw [built] at ended
      cases ended
  | ok sup =>
      rw [built] at alone unlinked ended
      obtain ⟨store, log, ceiling⟩ := assembled d begun sup built
      have running := ((Program.along_bind _ _ _).mp alone).1
      have creating := ((Program.along_bind _ _ _).mp unlinked).1
      dsimp only at ended ⊢
      rw [Program.bind_eq, Program.run_bind] at ended ⊢
      generalize ((Session.Supervisor.assemble d).run site.answer begun).2 = ready at running creating ended ⊢
      have result : (sup.run.run site.answer ready).1 = .ok report := by
        cases told : (sup.run.run site.answer ready).1 with
        | error f =>
            rw [told] at ended
            cases ended
        | ok own =>
            rw [told] at ended
            exact congrArg Except.ok (Outcome.reported.inj ended)
      rw [← store] at running creating outside
      rw [← log] at outside
      have own : Stem sup.store.stem := store ▸ plain
      obtain ⟨limit, shelf, bears⟩ := Session.run_records sup own outside ready report running creating result
      rw [store] at bears
      exact ⟨limit.trans ceiling, shelf, bears⟩

theorem perform_records (o : RunOptions) (verbose painting : Bool) (c : Config) (s : σ)
    (settled : settled o.overrides site.environment c = .ok d)
    (alone : Along site.answer (Alone site (storeOf d)) s ((o.perform verbose painting c).history site.answer s))
    (unlinked : Along site.answer (Unlinked site (storeOf d)) s ((o.perform verbose painting c).history site.answer s))
    (ended : ((o.perform verbose painting c).run site.answer s).1 = .reported report) :
    Records d report (site.machine ((o.perform verbose painting c).run site.answer s).2) := by
  unfold RunOptions.perform at alone unlinked ended ⊢
  obtain ⟨-, alone⟩ := (Program.along_bind _ _ _).mp alone
  obtain ⟨-, unlinked⟩ := (Program.along_bind _ _ _).mp unlinked
  rw [Program.bind_eq, Program.run_bind] at ended ⊢
  have told : ((settings o.overrides c).run site.answer s).1 = .ok d := by
    rw [settings_run, settled]
    rfl
  generalize ((settings o.overrides c).run site.answer s).2 = begun at alone unlinked ended ⊢
  rw [told] at alone unlinked ended ⊢
  obtain ⟨-, alone⟩ := (Program.along_bind _ _ _).mp alone
  obtain ⟨-, unlinked⟩ := (Program.along_bind _ _ _).mp unlinked
  dsimp only at alone unlinked ended ⊢
  rw [Program.bind_eq, Program.run_bind] at ended ⊢
  generalize (printLines (if verbose then [announcement painting d] else [])).run site.answer begun = announced
    at alone unlinked ended ⊢
  obtain ⟨printed, ready⟩ := announced
  cases printed with
  | false => cases ended
  | true => exact supervised_records plain outside ready alone unlinked ended

end Recorded

def Silent (c : Host.Call) : Prop := ∀ text, c ≠ .print text

theorem artifacts_silent (store : Counter.Store) : store.artifacts.Asks Silent := by
  have notes (names : List String) (text : String → String) :
      (names.forM fun name => Host.note .trace (text name)).Asks Silent := by
    induction names with
    | nil => trivial
    | cons name names ih => exact Program.asks_bind ⟨nofun, fun _ => trivial⟩ fun _ => ih
  refine Program.asks_bind (Program.asks_call nofun) fun listed => ?_
  cases listed with
  | error r => trivial
  | ok names => exact Program.asks_bind (notes _ _) fun _ => trivial

theorem read_silent (store : Counter.Store) (id : UInt64) : (store.read id).Asks Silent := by
  have reading (path : String) : (Counter.Store.readAt path).Asks Silent := by
    refine Program.asks_bind (Program.asks_call nofun) fun told => ?_
    cases told with
    | error r => trivial
    | ok bytes => trivial
  refine Program.asks_bind (artifacts_silent store) fun found => ?_
  cases found with
  | error f => trivial
  | ok all =>
      dsimp only
      split
      · exact reading _
      · exact reading _

theorem counts_silent (store : Counter.Store) (id : UInt64) : (counts store (some id)).Asks Silent := by
  refine Program.asks_bind (read_silent store id) fun told => ?_
  cases told with
  | error f => trivial
  | ok count => trivial

theorem counts_told {e : Config} {id : UInt64} {count : UInt32} {shelf : Counter.Shelf} (plain : Stem e.storage.stem) (s : σ)
    (alone : Along site.answer (Alone site (storeOf e)) s ((counts (storeOf e) (some id)).history site.answer s))
    (bears : Bears (storeOf e) id (some count) (site.machine s) shelf) :
    ((counts (storeOf e) (some id)).run site.answer s).1 = .ok [(id, count)] := by
  unfold counts at alone ⊢
  dsimp only at alone ⊢
  rw [Program.bind_eq, Program.run_bind, Counter.read_alone plain count ((Program.along_bind _ _ _).mp alone).1 bears]
  rfl

-- One line is printed, and nothing before it, and the command succeeds where the line can be.
def Shows (site : Site σ) (o : StatusOptions) (painting : Bool) (c : Config) (s : σ) (line : String) : Prop :=
  ∃ looks told, (o.perform painting c).history site.answer s = looks ++ [⟨.print (line ++ "\n"), told⟩] ∧
    (∀ e ∈ looks, Silent e.1) ∧ ((o.perform painting c).run site.answer s).1 = if told.isOk then .shown else .unprinted

theorem perform_shows (o : StatusOptions) (painting : Bool) (c e : Config) (id : UInt64) (count : UInt32) (s : σ)
    (own : o.session = some id) (told : ((settings o.overrides c).run site.answer s).1 = .ok e)
    (counted : ((counts (storeOf e) (some id)).run site.answer ((settings o.overrides c).run site.answer s).2).1 =
      .ok [(id, count)]) :
    Shows site o painting c s (countLine painting e.retry.ceiling id count) := by
  have first : ∀ e ∈ (settings o.overrides c).history site.answer s, Silent e.1 :=
    Program.asks_history _ (asks_settings o.overrides c fun _ _ => nofun) s
  have second : ∀ x ∈ (counts (storeOf e) (some id)).history site.answer ((settings o.overrides c).run site.answer s).2,
      Silent x.1 :=
    Program.asks_history _ (counts_silent (storeOf e) id) _
  unfold Shows StatusOptions.perform
  rw [Program.bind_eq, Program.run_bind, Program.history_bind, told, own]
  dsimp only
  rw [Program.bind_eq, Program.run_bind, Program.history_bind, counted]
  generalize ((counts (storeOf e) (some id)).run site.answer ((settings o.overrides c).run site.answer s).2).2 = looked
  let line := countLine painting e.retry.ceiling id count
  refine ⟨_ ++ _, (site.answer (.print (line ++ "\n")) looked).1, ?_, List.forall_mem_append.mpr ⟨first, second⟩, ?_⟩
  · rw [List.append_assoc]
    congr 2
    change (⟨.print (line ++ "\n"), _⟩ : Program.Exchange Host.Answer) :: _ = _
    cases (site.answer (.print (line ++ "\n")) looked).1 with
    | error r => rfl
    | ok done => rfl
  · change (Program.run site.answer (Program.bind (Program.bind (Host.ask (.print (line ++ "\n"))) _) _) looked).1 = _
    rw [Program.run_bind, Program.run_bind, Host.ask, Program.run_call]
    cases (site.answer (.print (line ++ "\n")) looked).1 with
    | error r => rfl
    | ok done => rfl

-- A run and a look at its session later on, with nobody but the store at work in its directory: the process
-- log lies elsewhere, and nothing is changed there from the beginning of the run until it has been looked at.
structure Followed (site : Site σ) (later : Site τ) (d : Config) (s : σ) (running : Action Outcome) (t : τ)
    (looking : Action Outcome) : Prop where
  outside : ∀ id, d.log.path ≠ (storeOf d).temporaryPath id
  alone : Along site.answer (Alone site (storeOf d)) s (running.history site.answer s)
  between : Spared (storeOf d).home (site.machine (running.run site.answer s).2) (later.machine t)
  still : Along later.answer (Alone later (storeOf d)) t (looking.history later.answer t)

theorem status_tells_recorded (site : Site σ) (later : Site τ) (c : Config) (o : RunOptions) (verbose painting painting' : Bool) (s : σ) (t : τ)
    (report : Session.Report) (unlimited : o.ceiling = none) (plain : Stem c.storage.stem)
    (same : later.environment = site.environment)
    (followed : ∀ d, ((settings o.overrides c).run site.answer s).1 = .ok d →
      Followed site later d s (o.perform verbose painting c) t
        (StatusOptions.perform ⟨some report.session.id, o.directory⟩ painting' c))
    (unlinked : ∀ d, ((settings o.overrides c).run site.answer s).1 = .ok d →
      Along site.answer (Unlinked site (storeOf d)) s ((o.perform verbose painting c).history site.answer s))
    (ended : ((o.perform verbose painting c).run site.answer s).1 = .reported report) :
    ∃ d e, ((settings o.overrides c).run site.answer s).1 = .ok d ∧
      ((settings (StatusOptions.overrides ⟨some report.session.id, o.directory⟩) c).run later.answer t).1 = .ok e ∧
      e.storage = d.storage ∧ e.retry = d.retry ∧ report.session.ceiling = d.retry.ceiling ∧
      ((counts (storeOf e) (some report.session.id)).run later.answer
        ((settings (StatusOptions.overrides ⟨some report.session.id, o.directory⟩) c).run later.answer t).2).1 =
          .ok [(report.session.id, report.session.failures)] ∧
      Shows later ⟨some report.session.id, o.directory⟩ painting' c t
        (countLine painting' report.session.ceiling report.session.id report.session.failures) := by
  cases resolved : settled o.overrides site.environment c with
  | error b =>
      have told := settings_run site o.overrides c s
      rw [resolved] at told
      unfold RunOptions.perform at ended
      rw [Program.bind_eq, Program.run_bind, told] at ended
      cases ended
  | ok d =>
      have told := settings_run site o.overrides c s
      rw [resolved] at told
      obtain ⟨outside, alone, between, still⟩ := followed d told
      have stem : Stem d.storage.stem := settled_stem _ _ c d resolved ▸ plain
      obtain ⟨limit, shelf, bears⟩ :=
        perform_records stem outside o verbose painting c s resolved alone (unlinked d told) ended
      obtain ⟨e, alike, storage, retry⟩ := settled_alike o (some report.session.id) _ c d unlimited resolved
      have shown := settings_run later (StatusOptions.overrides ⟨some report.session.id, o.directory⟩) c t
      rw [same, alike] at shown
      have store : storeOf d = storeOf e := by rw [storeOf, storeOf, storage]
      rw [store] at bears between still
      unfold StatusOptions.perform at still
      obtain ⟨resolving, looking⟩ := (Program.along_bind _ _ _).mp still
      rw [shown] at looking
      have kept := Counter.spared_run _ (asks_settings _ c fun _ => nofun) t resolving
      have there := Counter.bears_spared kept (Counter.bears_spared between bears)
      have counted := counts_told (storage ▸ stem) _ ((Program.along_bind _ _ _).mp looking).1 there
      refine ⟨d, e, told, shown, storage, retry, limit, counted, ?_⟩
      rw [limit, ← retry]
      exact perform_shows _ painting' c e _ _ t rfl shown counted

theorem sketch_followed {k : Counter.Sketch} (sound : k.Sound) {d : Config} (store : storeOf d = k.store)
    (log : d.log.path = k.log) (running looking : Action Outcome) (s : Files.Tree)
    (first : Along k.site.answer (fun c t => k.covers c t = true) s (running.history k.site.answer s))
    (second : Along k.site.answer (fun c t => k.covers c t = true) (running.run k.site.answer s).2
      (looking.history k.site.answer (running.run k.site.answer s).2)) :
    Followed k.site k.site d s running (running.run k.site.answer s).2 looking where
  outside := by
    rw [store, log]
    exact sound.outside
  alone := store ▸ Program.along_mono (Counter.Sketch.sketch_alone sound) _ _ first
  between := Counter.spared_refl _
  still := store ▸ Program.along_mono (Counter.Sketch.sketch_alone sound) _ _ second

def littered : Counter.Sketch := ⟨⟨"d", "f"⟩, 1, "log", 1⟩

def litter : Files.Tree := ⟨[([.text "d"], .directory), ([.text "f2.old", .text "d"], .file "junk".toUTF8 0)]⟩

def brief : Config :=
  { Config.standard none with
    storage := ⟨"d", "f"⟩
    log := ⟨"log", false⟩
    retry := ⟨1⟩
    work := ⟨[.command "job" []], none, none⟩ }

def briefly : Action Outcome := RunOptions.none.perform false false brief

def looked : Action Outcome := StatusOptions.perform ⟨some 1, none⟩ false brief

theorem littered_sound : littered.Sound where
  directory := by constructor <;> decide
  path := by decide
  short := by decide
  stem := by constructor <;> decide
  fits := by constructor <;> decide
  outside := Counter.Sketch.sound_outside (by constructor <;> decide) (by constructor <;> decide) (by decide)

theorem brief_settled (k : Counter.Sketch) (t : Files.Tree) (d : Config)
    (told : ((settings RunOptions.none.overrides brief).run k.site.answer t).1 = .ok d) : d = brief := by
  rw [settings_run] at told
  exact (Except.ok.inj told).symm

theorem status_tells_recorded_littered :
    Followed littered.site littered.site brief litter briefly (briefly.run littered.site.answer litter).2 looked ∧
      Along littered.site.answer (Unlinked littered.site littered.store) litter (briefly.history littered.site.answer litter) ∧
      (briefly.run littered.site.answer litter).1 = .reported ⟨⟨1, 1, 1⟩, .exhausted⟩ ∧
      Shows littered.site ⟨some 1, none⟩ false brief (briefly.run littered.site.answer litter).2 (countLine false 1 1 1) := by
  have ended : (briefly.run littered.site.answer litter).1 = .reported ⟨⟨1, 1, 1⟩, .exhausted⟩ := by
    decide +kernel
  have running : Along littered.site.answer (fun c t => littered.covers c t = true) litter
      (briefly.history littered.site.answer litter) := by
    decide +kernel
  have looking : Along littered.site.answer (fun c t => littered.covers c t = true) (briefly.run littered.site.answer litter).2
      (looked.history littered.site.answer (briefly.run littered.site.answer litter).2) := by
    decide +kernel
  have linkless : Along littered.site.answer
      (fun c t => littered.covers c t = true ∧ Files.Tree.Linkless (t.node? littered.temporary)) litter
      (briefly.history littered.site.answer litter) := by
    decide +kernel
  have unlinked : Along littered.site.answer (Unlinked littered.site littered.store) litter
      (briefly.history littered.site.answer litter) :=
    Program.along_mono (fun c t covers => Counter.Sketch.sketch_unlinked littered_sound c t covers.1 covers.2) _ _ linkless
  have followed : Followed littered.site littered.site brief litter briefly (briefly.run littered.site.answer litter).2 looked :=
    sketch_followed littered_sound rfl rfl briefly looked litter running looking
  have told := status_tells_recorded littered.site littered.site brief .none false false false litter
    (briefly.run littered.site.answer litter).2 ⟨⟨1, 1, 1⟩, .exhausted⟩ rfl littered_sound.stem rfl
    (fun d told => by
      obtain rfl := brief_settled littered litter d told
      exact followed)
    (fun d told => by
      obtain rfl := brief_settled littered litter d told
      exact unlinked) ended
  obtain ⟨d, e, told⟩ := told
  exact ⟨followed, unlinked, ended, told.2.2.2.2.2.2⟩

-- Where the temporary is to be, a link to the artifact: the count goes through it, and the link itself is then named.
def linked : Counter.Sketch := ⟨⟨"d", "f"⟩, 1, "log", 0⟩

def link : Files.Tree := ⟨[([.text "d"], .directory), ([.text ".f00001.tmp", .text "d"], .link "f00001")]⟩

theorem linked_temporary_unread :
    ((settings RunOptions.none.overrides brief).run linked.site.answer link).1 = .ok brief ∧
      Followed linked.site linked.site brief link briefly (briefly.run linked.site.answer link).2 looked ∧
      (briefly.run linked.site.answer link).1 = .reported ⟨⟨1, 0, 1⟩, .succeeded⟩ ∧
      (looked.run linked.site.answer (briefly.run linked.site.answer link).2).1 =
        .troubled (.unread 1 (.unreadable "d/f00001" .tooManyLinks)) := by
  have sound : linked.Sound := ⟨littered_sound.directory, littered_sound.path, littered_sound.short, littered_sound.stem,
    littered_sound.fits, littered_sound.outside⟩
  have running : Along linked.site.answer (fun c t => linked.covers c t = true) link
      (briefly.history linked.site.answer link) := by
    decide +kernel
  have looking : Along linked.site.answer (fun c t => linked.covers c t = true) (briefly.run linked.site.answer link).2
      (looked.history linked.site.answer (briefly.run linked.site.answer link).2) := by
    decide +kernel
  refine ⟨rfl, sketch_followed sound rfl rfl briefly looked link running looking, ?_, ?_⟩
  · decide +kernel
  · decide +kernel

end Overseer.CommandLine
