import Overseer.Proofs.Counter.Holding
import Overseer.Proofs.Counter.Looking
import Overseer.Proofs.Program.Along

set_option autoImplicit false

namespace Overseer.Counter

open Files (Fits Name Path Proper)
open Files.Tree (Blocked IsDevice Linkless)
open Host (Action Listing Machine)
open Program (Along Asks Given leave)
open Text (Numeral.word32)

structure Site (σ : Type) where
  answer : (c : Host.Call) → σ → Host.Answer c × σ
  machine : σ → Machine
  listing : Listing
  environment : String → Option String
  unaltered : ∀ name s, (answer (.variable name) s).1 = environment name

inductive Touches (store : Store) : Host.Call → Prop where
  | makePath : Touches store (.makePath store.directory)
  | list : Touches store (.list store.directory)
  | read (name : String) : Touches store (.read (Path.join store.directory name))
  | create (id : UInt64) : Touches store (.create (store.temporaryPath id))
  | extend (id : UInt64) (bytes : ByteArray) : Touches store (.extend (store.temporaryPath id) bytes)
  | sync (id : UInt64) : Touches store (.sync (store.temporaryPath id))
  | rename (id : UInt64) : Touches store (.rename (store.temporaryPath id) (store.artifactPath id))
  | remove (id : UInt64) : Touches store (.remove (store.temporaryPath id))

variable {σ : Type} {site : Site σ} {store : Store} {shelf : Shelf} {id : UInt64} {c : Host.Call} {s : σ}

-- Nobody but the store changes what its directory holds, neither by a call nor while one is answered.
inductive Alone (site : Site σ) (store : Store) (c : Host.Call) (s : σ) : Prop where
  | elsewhere (other : ¬Touches store c) (spared : Spared store.home (site.machine s) (site.machine (site.answer c s).2))
  | here (touches : Touches store c) (m : Machine) (before : Spared store.home (site.machine s) m)
      (told : (site.answer c s).1 = (site.listing.answer c m).1)
      (after : Spared store.home (site.listing.answer c m).2 (site.machine (site.answer c s).2))

-- No temporary is created where a link stands, which would be followed to another file.
def Unlinked (site : Site σ) (store : Store) (c : Host.Call) (s : σ) : Prop :=
  ∀ id shelf, c = .create (store.temporaryPath id) → holding store.home (site.machine s) = some shelf →
    Linkless (shelf [.text (temporaryName store.stem id)])

theorem alone_elsewhere (alone : Alone site store c s) (other : ¬Touches store c) :
    Spared store.home (site.machine s) (site.machine (site.answer c s).2) := by
  cases alone with
  | elsewhere other spared => exact spared
  | here touches => exact absurd touches other

theorem alone_here (alone : Alone site store c s) (touches : Touches store c)
    (held : holding store.home (site.machine s) = some shelf) :
    ∃ m, holding store.home m = some shelf ∧ (site.answer c s).1 = (site.listing.answer c m).1 ∧
      Spared store.home (site.listing.answer c m).2 (site.machine (site.answer c s).2) := by
  cases alone with
  | elsewhere other => exact absurd touches other
  | here touches m before told after => exact ⟨m, before shelf held, told, after⟩

theorem spared_run {α : Type} (p : Action α) (asks : p.Asks fun c => ¬Touches store c) (s : σ)
    (along : Along site.answer (Alone site store) s (p.history site.answer s)) :
    Spared store.home (site.machine s) (site.machine (p.run site.answer s).2) := by
  have step (c : Host.Call) (t : σ) (other : ¬Touches store c) (alone : Alone site store c t)
      (before : Spared store.home (site.machine s) (site.machine t)) :
      Spared store.home (site.machine s) (site.machine (site.answer c t).2) :=
    spared_trans before (alone_elsewhere alone other)
  exact Program.run_keeps (fun t => Spared store.home (site.machine s) (site.machine t)) step p asks s along (spared_refl _)

theorem asks_note (level : Level) (text : String) : (Host.note level text).Asks fun c => ¬Touches store c :=
  ⟨nofun, fun _ => trivial⟩

theorem asks_notes (level : Level) (text : String → String) (names : List String) :
    (names.forM fun name => Host.note level (text name)).Asks fun c => ¬Touches store c := by
  induction names with
  | nil => trivial
  | cons name names ih => exact Program.asks_bind (asks_note level _) fun _ => ih

-- What the store takes for artifacts: nothing in the working directory without a name.
theorem artifacts_alone (along : Along site.answer (Alone site store) s (store.artifacts.history site.answer s))
    (held : holding store.home (site.machine s) = some shelf) :
    ∃ all, (store.artifacts.run site.answer s).1 = .ok all ∧
      holding store.home (site.machine (store.artifacts.run site.answer s).2) = some shelf ∧
      (store.directory = "" → all = []) ∧
      (store.directory ≠ "" → ∃ names, all = sorted store.stem names ∧ ∀ n, n ∈ names ↔ shelf [n] ≠ none) := by
  unfold Store.artifacts at along ⊢
  obtain ⟨alone, along⟩ := (Program.along_call_bind _ _ _).mp along
  obtain ⟨m, there, told, after⟩ := alone_here alone .list held
  rw [Program.bind_eq, Program.run_bind, Host.ask, Program.run_call]
  have later := after shelf there
  have lists := @held_list store site.listing m shelf there
  rcases lists with ⟨empty, missing⟩ | ⟨some, names, named, all⟩
  · rw [missing] at told
    rw [told]
    exact ⟨[], rfl, later, fun _ => rfl, fun some => absurd empty some⟩
  · rw [named] at told
    rw [told] at along ⊢
    have noting := ((Program.along_bind _ _ _).mp along).1
    dsimp only
    rw [Program.bind_eq, Program.run_bind]
    exact ⟨_, rfl, spared_run _ (asks_notes _ _ _) _ noting shelf later, fun empty => absurd empty some,
      fun _ => ⟨names, rfl, all⟩⟩

-- No other name in the directory has the number, and its artifact is out of the way to the directory.
structure Reserved (store : Store) (id : UInt64) (shelf : Shelf) : Prop where
  sole : store.directory ≠ "" → ∀ name, shelf.Has name → ordinal? store.stem name = some id → name = artifactName store.stem id
  aloof : Aloof store.home (shelf [.text (artifactName store.stem id)])

theorem allocate_alone (along : Along site.answer (Alone site store) s (store.allocate.history site.answer s))
    (granted : (store.allocate.run site.answer s).1 = .ok id) :
    ∃ shelf, holding store.home (site.machine (store.allocate.run site.answer s).2) = some shelf ∧ Reserved store id shelf := by
  unfold Store.allocate at along granted ⊢
  rw [Program.bind_eq, Program.run_bind, Host.ask, Program.run_call] at granted ⊢
  obtain ⟨alone, along⟩ := (Program.along_call_bind _ _ _).mp along
  cases made : (site.answer (.makePath store.directory) s).1 with
  | error r =>
      rw [made] at granted
      cases granted
  | ok done =>
      rw [made] at granted along
      obtain ⟨shelf, held⟩ : ∃ shelf, holding store.home (site.machine (site.answer (.makePath store.directory) s).2) = some shelf := by
        cases alone with
        | elsewhere other => exact absurd .makePath other
        | here touches m before told after =>
            obtain ⟨shelf, held⟩ := held_make (told.symm.trans made)
            exact ⟨shelf, after shelf held⟩
      obtain ⟨looking, choosing⟩ := (Program.along_bind _ _ _).mp along
      obtain ⟨all, found, later, empty, listed⟩ := artifacts_alone looking held
      dsimp only at granted ⊢
      rw [Program.bind_eq, Program.run_bind, found] at granted ⊢
      rw [found] at choosing
      dsimp only at granted choosing ⊢
      cases next : nextId all with
      | error f =>
          rw [next] at granted
          cases granted
      | ok own =>
          rw [next] at granted choosing
          obtain rfl := Except.ok.inj granted
          have last := spared_run _ (asks_note _ _) _ ((Program.along_bind _ _ _).mp choosing).1 shelf later
          refine ⟨shelf, last, ?_, ?_⟩
          · intro some name taken numbered
            obtain ⟨names, rfl, members⟩ := listed some
            have member := (mem_sorted store.stem names ⟨own, name⟩).mpr ⟨(members _).mpr taken, numbered⟩
            exact absurd (next_above _ names _ next _ member) Std.lt_irrefl
          · by_cases bare : store.directory = ""
            · exact .inr (if_pos bare)
            · obtain ⟨names, rfl, members⟩ := listed bare
              cases node : shelf [.text (artifactName store.stem own)] with
              | none => exact .inl trivial
              | some held =>
                  have member := (mem_sorted store.stem names ⟨own, artifactName store.stem own⟩).mpr
                    ⟨(members _).mpr (by simp [node]), ordinal_artifact _ _⟩
                  exact absurd (next_above _ names _ next _ member) Std.lt_irrefl

theorem reserved_filed (bytes : ByteArray) (mode : Nat) (reserved : Reserved store id shelf) :
    Reserved store id (shelf.filed store.stem id bytes mode) where
  sole some name taken numbered := by
    by_cases artifact : name = artifactName store.stem id
    · exact artifact
    · by_cases temporary : name = temporaryName store.stem id
      · rw [temporary, ordinal_temporary] at numbered
        cases numbered
      · rw [Shelf.Has, Shelf.filed_other _ _ _ _ (by simpa using artifact) (by simpa using temporary)] at taken
        exact reserved.sole some name taken numbered
  aloof := by
    rw [Shelf.filed_artifact]
    exact .inl trivial

theorem wrote_alone (plain : Stem store.stem) (bytes : ByteArray) (h : List Exchange)
    (wrote : Wrote (store.temporaryPath id) (store.artifactPath id) bytes h (.ok ())) (given : Given site.answer s h)
    (along : Along site.answer (Alone site store) s h) (unlinked : Along site.answer (Unlinked site store) s h)
    (held : holding store.home (site.machine s) = some shelf) (reserved : Reserved store id shelf) :
    Fits store.home (artifactName store.stem id) ∧ ∃ mode,
      holding store.home (site.machine (leave site.answer s h)) = some (shelf.filed store.stem id bytes mode) := by
  have own := temporary_proper plain id
  generalize result : Except.ok () = r at wrote
  cases wrote with
  | uncreated r => cases result
  | unextended r => cases result
  | unsynced r => cases result
  | named told =>
      subst result
      obtain ⟨creating, extending, syncing, naming, -⟩ := given
      obtain ⟨first, second, third, fourth, -⟩ := along
      have linkless := unlinked.1 id shelf rfl held
      obtain ⟨m₁, held₁, told₁, after₁⟩ := alone_here first (.create id) held
      rw [told₁] at creating
      rcases held_create held₁ own linkless creating with ⟨still, device⟩ | ⟨mode, created⟩
      · have same : holding store.home (site.machine (site.answer (.create (store.temporaryPath id)) s).2) = some shelf :=
          after₁ shelf (by rw [Store.temporaryPath, still, held₁])
        obtain ⟨m₂, held₂, told₂, after₂⟩ := alone_here second (.extend id bytes) same
        rw [told₂] at extending
        have stillAgain := held_extend_device held₂ own device bytes extending
        have again := after₂ shelf (by rw [Store.temporaryPath, stillAgain, held₂])
        obtain ⟨m₃, held₃, told₃, -⟩ := alone_here third (.sync id) again
        rw [told₃] at syncing
        exact absurd syncing (held_sync_device held₃ own device)
      · obtain ⟨m₂, held₂, told₂, after₂⟩ := alone_here second (.extend id bytes) (after₁ _ created)
        rw [told₂] at extending
        have extended := held_extend held₂ own .empty bytes mode (Shelf.set_same _ _ _) extending
        rw [ByteArray.empty_append, Shelf.set_set] at extended
        obtain ⟨m₃, held₃, told₃, after₃⟩ := alone_here third (.sync id) (after₂ _ extended)
        rw [told₃] at syncing
        obtain ⟨m₄, held₄, told₄, after₄⟩ := alone_here fourth (.rename id) (after₃ _ (held_sync _ held₃ syncing))
        rw [told₄] at naming
        have aloof : Aloof store.home ((shelf.set (temporaryName store.stem id) (some (.file bytes mode)))
            [.text (artifactName store.stem id)]) := by
          rw [set_temporary]
          exact reserved.aloof
        obtain ⟨fits, renamed⟩ := held_rename held₄ own (artifactName store.stem id) (artifact_proper plain id)
          (artifact_ne_temporary _ _ _).symm bytes mode (Shelf.set_same _ _ _) aloof naming
        rw [Shelf.set_set] at renamed
        exact ⟨fits, mode, after₄ _ renamed⟩

structure Bears (store : Store) (id : UInt64) (count : Option UInt32) (m : Machine) (shelf : Shelf) : Prop where
  held : holding store.home m = some shelf
  reserved : Reserved store id shelf
  counted : ∀ n, count = some n → Fits store.home (artifactName store.stem id) ∧
    ∃ mode, shelf [.text (artifactName store.stem id)] = some (.file (Numeral.word32 n).toUTF8 mode)

theorem bears_spared {m m' : Machine} {count : Option UInt32} (spared : Spared store.home m m')
    (bears : Bears store id count m shelf) : Bears store id count m' shelf :=
  ⟨spared shelf bears.held, bears.reserved, bears.counted⟩

theorem update_alone (plain : Stem store.stem) (count : Option UInt32) (next : UInt32)
    (along : Along site.answer (Alone site store) s ((store.update id next).history site.answer s))
    (unlinked : Along site.answer (Unlinked site store) s ((store.update id next).history site.answer s))
    (bears : Bears store id count (site.machine s) shelf)
    (granted : ((store.update id next).run site.answer s).1 = .ok ()) :
    ∃ shelf', Bears store id (some next) (site.machine ((store.update id next).run site.answer s).2) shelf' := by
  have given := Program.history_given site.answer (store.update id next) s
  have updated := update_course store id next _ _ (Program.runs_history site.answer (store.update id next) s)
  rw [granted] at updated
  rw [← Program.leave_history]
  generalize (store.update id next).history site.answer s = h at given along unlinked updated ⊢
  generalize result : Except.ok () = r at updated
  cases updated with
  | written h wrote =>
      obtain ⟨fits, mode, held⟩ := wrote_alone plain _ h wrote given along unlinked bears.held bears.reserved
      refine ⟨_, held, reserved_filed _ mode bears.reserved, ?_⟩
      rintro n ⟨⟩
      exact ⟨fits, mode, Shelf.filed_artifact _ _ _⟩
  | unwritten h r removed wrote => cases result

theorem begin_alone (plain : Stem store.stem) (count : Option UInt32)
    (along : Along site.answer (Alone site store) s ((store.begin id).history site.answer s))
    (unlinked : Along site.answer (Unlinked site store) s ((store.begin id).history site.answer s))
    (bears : Bears store id count (site.machine s) shelf)
    (granted : ((store.begin id).run site.answer s).1 = .ok ()) :
    ∃ shelf', Bears store id (some 0) (site.machine ((store.begin id).run site.answer s).2) shelf' := by
  unfold Store.begin at along unlinked granted ⊢
  rw [Program.bind_eq, Program.run_bind, Host.ask, Program.run_call] at granted ⊢
  obtain ⟨alone, along⟩ := (Program.along_call_bind _ _ _).mp along
  obtain ⟨-, unlinked⟩ := (Program.along_call_bind _ _ _).mp unlinked
  have seen := bears_spared (alone_elsewhere alone (by rintro ⟨⟩)) bears
  cases present : (site.answer (.isPresent (store.artifactPath id)) s).1 with
  | false =>
      rw [present] at granted along unlinked
      exact update_alone plain count 0 along unlinked seen granted
  | true =>
      rw [present] at granted along unlinked
      obtain ⟨noting, along⟩ := (Program.along_bind _ _ _).mp along
      obtain ⟨-, unlinked⟩ := (Program.along_bind _ _ _).mp unlinked
      have noted := bears_spared (spared_run _ (asks_note _ _) _ noting) seen
      simp only [if_true, Program.bind_eq, Program.run_bind] at granted ⊢
      exact update_alone plain count 0 along unlinked noted granted

theorem read_at_alone (plain : Stem store.stem) (count : UInt32)
    (along : Along site.answer (Alone site store) s ((Store.readAt (store.artifactPath id)).history site.answer s))
    (bears : Bears store id (some count) (site.machine s) shelf) :
    ((Store.readAt (store.artifactPath id)).run site.answer s).1 = .ok count := by
  obtain ⟨fits, mode, file⟩ := bears.counted count rfl
  unfold Store.readAt at along ⊢
  obtain ⟨alone, -⟩ := (Program.along_call_bind _ _ _).mp along
  obtain ⟨m, there, told, -⟩ := alone_here alone (.read _) bears.held
  have content : (site.answer (.read (store.artifactPath id)) s).1 = .ok (Numeral.word32 count).toUTF8 :=
    told.trans (held_read there (artifact_proper plain id) fits _ mode file)
  rw [Program.bind_eq, Program.run_bind, Host.ask, Program.run_call, content]
  exact count_of_numeral _ count

-- Whether it is listed or not, the artifact that is read is the one with the padded number.
theorem read_alone (plain : Stem store.stem) (count : UInt32)
    (along : Along site.answer (Alone site store) s ((store.read id).history site.answer s))
    (bears : Bears store id (some count) (site.machine s) shelf) :
    ((store.read id).run site.answer s).1 = .ok count := by
  unfold Store.read at along ⊢
  obtain ⟨looking, along⟩ := (Program.along_bind _ _ _).mp along
  obtain ⟨all, found, later, empty, listed⟩ := artifacts_alone looking bears.held
  rw [Program.bind_eq, Program.run_bind]
  rw [found] at along ⊢
  dsimp only at along ⊢
  have still : Bears store id (some count) (site.machine (store.artifacts.run site.answer s).2) shelf :=
    ⟨later, bears.reserved, bears.counted⟩
  cases first : all.find? fun a => a.id == id with
  | none =>
      rw [first] at along
      exact read_at_alone plain count along still
  | some a =>
      rw [first] at along
      dsimp only at along ⊢
      have named : a.name = artifactName store.stem id := by
        have member := List.mem_of_find?_eq_some first
        have number : a.id = id := by simpa using List.find?_some first
        by_cases bare : store.directory = ""
        · rw [empty bare] at member
          cases member
        · obtain ⟨names, rfl, members⟩ := listed bare
          obtain ⟨named, numbered⟩ := (mem_sorted store.stem names a).mp member
          exact bears.reserved.sole bare a.name ((members _).mp named) (number ▸ numbered)
      rw [named] at along ⊢
      exact read_at_alone plain count along still

end Overseer.Counter
