import Overseer.Proofs.Counter.Replacing
import Overseer.Proofs.Files.Home

set_option autoImplicit false

namespace Overseer.Counter

open Files (Fits Location Name Node Path Proper)
open Files.Tree (Blocked IsDevice Linkless Resolved blocked_ordinary)
open Host (Listing Machine)
open Program (Given leave)
open Text (Numeral.word32)

-- The empty path, which names the working directory, is no directory's that could be listed.
def Store.home (store : Store) : String := if store.directory = "" then "." else store.directory

def entries (t : Files.Tree) (place : Location) : Shelf
  | [n] => t.node? (n :: place)
  | _ => none

def holding (directory : String) (m : Machine) : Option Shelf :=
  match m.tree.find m.work true directory with
  | .ok (.taken place .directory) => some (entries m.tree place)
  | _ => none

def Spared (directory : String) (m m' : Machine) : Prop :=
  ∀ shelf, holding directory m = some shelf → holding directory m' = some shelf

variable {store : Store} {listing : Listing} {m m' : Machine} {directory name : String} {shelf : Shelf} {place : Location}

theorem spared_refl (m : Machine) : Spared directory m m := fun _ held => held

theorem spared_trans {m'' : Machine} (first : Spared directory m m') (second : Spared directory m' m'') : Spared directory m m'' :=
  fun shelf held => second shelf (first shelf held)

theorem holding_opens (opens : m.tree.Opens m.work directory place) :
    holding directory m = some (entries m.tree place) := by
  unfold holding
  rw [opens]

theorem opens_holding (held : holding directory m = some shelf) :
    ∃ place, m.tree.Opens m.work directory place ∧ shelf = entries m.tree place := by
  unfold holding at held
  split at held
  · next place found => exact ⟨place, found, (Option.some.inj held).symm⟩
  · cases held

theorem entries_put (t : Files.Tree) (node : Node) :
    entries (t.put (.text name :: place) node) place = (entries t place).set name (some node) := by
  funext q
  match q with
  | [] => simp [entries, Shelf.set]
  | [n] => by_cases same : n = .text name <;> simp [entries, Shelf.set, Files.Tree.node_put, same]
  | _ :: _ :: _ => simp [entries, Shelf.set]

theorem entries_erase (t : Files.Tree) :
    entries (t.erase (.text name :: place)) place = (entries t place).set name none := by
  funext q
  match q with
  | [] => simp [entries, Shelf.set]
  | [n] => by_cases same : n = .text name <;> simp [entries, Shelf.set, Files.Tree.node_erase, same]
  | _ :: _ :: _ => simp [entries, Shelf.set]

-- A change of an entry that the way to the directory does not go through.
def Aloof (directory : String) (node : Option Node) : Prop := Blocked node ∨ directory = "."

theorem aloof_opens {t : Files.Tree} {work : Location} (opens : m.tree.Opens m.work directory place) (changed : Location)
    (aloof : Aloof directory (m.tree.node? changed)) (same : ∀ q, q ≠ changed → t.node? q = m.tree.node? q)
    (there : work = m.work) : t.Opens work directory place := by
  subst there
  rcases aloof with blocked | rfl
  · exact Files.Tree.opens_elsewhere opens changed blocked same
  · rw [Files.Tree.opens_unique (Files.Tree.opens_here m.tree m.work) opens]
    exact Files.Tree.opens_here t m.work

theorem holding_put (opens : m.tree.Opens m.work directory place)
    (aloof : Aloof directory (entries m.tree place [.text name])) (node : Node) :
    holding directory { m with tree := m.tree.put (.text name :: place) node } =
      some ((entries m.tree place).set name (some node)) := by
  rw [← entries_put]
  apply holding_opens
  exact aloof_opens opens _ aloof (fun q other => by rw [Files.Tree.node_put, if_neg other]) rfl

theorem holding_erase (opens : m.tree.Opens m.work directory place)
    (aloof : Aloof directory (entries m.tree place [.text name])) :
    holding directory { m with tree := m.tree.erase (.text name :: place) } =
      some ((entries m.tree place).set name none) := by
  rw [← entries_erase]
  apply holding_opens
  exact aloof_opens opens _ aloof (fun q other => by rw [Files.Tree.node_erase, if_neg other]) rfl

theorem home_same {α : Type} (store : Store) (m : Machine) (proper : Proper name) (f : String → α)
    (same : ∀ s s', Resolved m.work m.tree s s' → f s = f s') :
    f (Path.join store.directory name) = f (Path.join store.home name) := by
  unfold Store.home
  by_cases empty : store.directory = ""
  · rw [if_pos empty, empty]
    exact same _ _ (Files.Tree.name_resolved m.tree m.work proper)
  · rw [if_neg empty]

theorem home_rename {other : String} (store : Store) (m : Machine) (proper : Proper name) (properOther : Proper other) :
    m.tree.rename m.work (Path.join store.directory name) (Path.join store.directory other) =
      m.tree.rename m.work (Path.join store.home name) (Path.join store.home other) := by
  unfold Store.home
  by_cases empty : store.directory = ""
  · rw [if_pos empty, empty]
    exact Files.Tree.rename_resolved (Files.Tree.name_resolved m.tree m.work proper)
      (Files.Tree.name_resolved m.tree m.work properOther)
  · rw [if_neg empty]

theorem home_made (opens : m.tree.Opens m.work store.home place) : m.tree.makePath m.work store.directory = .ok m.tree := by
  unfold Store.home at opens
  by_cases empty : store.directory = ""
  · rw [empty]
    rfl
  · rw [if_neg empty] at opens
    exact Files.Tree.make_opens opens

section Granted

variable (held : holding store.home m = some shelf) (proper : Proper name)

include held proper

theorem held_create (linkless : Linkless (shelf [.text name]))
    (granted : (listing.answer (.create (Path.join store.directory name)) m).1 = .ok ()) :
    (listing.answer (.create (Path.join store.directory name)) m).2 = m ∧ IsDevice (shelf [.text name]) ∨
      ∃ mode, holding store.home (listing.answer (.create (Path.join store.directory name)) m).2 =
        some (shelf.set name (some (.file ByteArray.empty mode))) := by
  obtain ⟨place, opens, rfl⟩ := opens_holding held
  obtain ⟨t, created, after⟩ := Host.settle_granted granted
  have whole : m.tree.create m.work (Path.join store.home name) = .ok t :=
    (home_same store m proper (m.tree.create m.work) fun _ _ => Files.Tree.create_resolved).symm.trans created
  change (m.settle _).2 = m ∧ _ ∨ ∃ mode, holding store.home (m.settle _).2 = _
  rw [after]
  rcases Files.Tree.create_linkless opens proper linkless whole with ⟨rfl, device⟩ | ⟨blocked, mode, rfl⟩
  · exact .inl ⟨rfl, device⟩
  · exact .inr ⟨mode, holding_put opens (.inl blocked) _⟩

theorem held_extend (content bytes : ByteArray) (mode : Nat) (file : shelf [.text name] = some (.file content mode))
    (granted : (listing.answer (.extend (Path.join store.directory name) bytes) m).1 = .ok ()) :
    holding store.home (listing.answer (.extend (Path.join store.directory name) bytes) m).2 =
      some (shelf.set name (some (.file (content ++ bytes) mode))) := by
  obtain ⟨place, opens, rfl⟩ := opens_holding held
  obtain ⟨t, extended, after⟩ := Host.settle_granted granted
  have whole : m.tree.extend m.work (Path.join store.home name) bytes = .ok t :=
    (home_same store m proper (m.tree.extend m.work · bytes) fun _ _ resolved => Files.Tree.extend_resolved resolved bytes).symm.trans extended
  change holding store.home (m.settle _).2 = _
  rw [after, Files.Tree.extend_granted opens proper content bytes mode file whole]
  exact holding_put opens (.inl (file ▸ trivial)) _

theorem held_extend_device (device : IsDevice (shelf [.text name])) (bytes : ByteArray)
    (granted : (listing.answer (.extend (Path.join store.directory name) bytes) m).1 = .ok ()) :
    (listing.answer (.extend (Path.join store.directory name) bytes) m).2 = m := by
  obtain ⟨place, opens, rfl⟩ := opens_holding held
  obtain ⟨t, extended, after⟩ := Host.settle_granted granted
  have whole : m.tree.extend m.work (Path.join store.home name) bytes = .ok t :=
    (home_same store m proper (m.tree.extend m.work · bytes) fun _ _ resolved => Files.Tree.extend_resolved resolved bytes).symm.trans extended
  change (m.settle _).2 = _
  rw [after, Files.Tree.extend_device opens proper device bytes whole]

theorem held_sync_device (device : IsDevice (shelf [.text name])) :
    (listing.answer (.sync (Path.join store.directory name)) m).1 ≠ .ok () := by
  intro granted
  obtain ⟨place, opens, rfl⟩ := opens_holding held
  obtain ⟨t, synced, -⟩ := Host.settle_granted granted
  have whole : m.tree.sync m.work (Path.join store.home name) = .ok t :=
    (home_same store m proper (m.tree.sync m.work) fun _ _ => Files.Tree.sync_resolved).symm.trans synced
  exact Files.Tree.sync_device opens proper device whole

theorem held_rename (other : String) (properOther : Proper other) (different : name ≠ other) (content : ByteArray)
    (mode : Nat) (file : shelf [.text name] = some (.file content mode)) (aloof : Aloof store.home (shelf [.text other]))
    (granted : (listing.answer (.rename (Path.join store.directory name) (Path.join store.directory other)) m).1 = .ok ()) :
    Fits store.home other ∧
      holding store.home (listing.answer (.rename (Path.join store.directory name) (Path.join store.directory other)) m).2 =
        some ((shelf.set name none).set other (some (.file content mode))) := by
  obtain ⟨place, opens, rfl⟩ := opens_holding held
  obtain ⟨t, renamed, after⟩ := Host.settle_granted granted
  have whole : m.tree.rename m.work (Path.join store.home name) (Path.join store.home other) = .ok t :=
    (home_rename store m proper properOther).symm.trans renamed
  obtain ⟨fits, -, rfl⟩ := Files.Tree.rename_over other opens proper properOther different content mode file whole
  refine ⟨fits, ?_⟩
  change holding store.home (m.settle _).2 = _
  rw [after]
  have erased : holding store.home { m with tree := m.tree.erase (.text name :: place) } =
      some ((entries m.tree place).set name none) := holding_erase opens (.inl (file ▸ trivial))
  have opens' : (m.tree.erase (.text name :: place)).Opens m.work store.home place :=
    Files.Tree.opens_erase opens _ _ (by change Blocked (entries m.tree place [.text name]); rw [file]; trivial)
  have still : Aloof store.home (entries (m.tree.erase (.text name :: place)) place [.text other]) := by
    rw [entries_erase, Shelf.set_other _ _ _ _ (by simpa using Ne.symm different)]
    exact aloof
  have put := holding_put (m := { m with tree := m.tree.erase (.text name :: place) }) opens' still (.file content mode)
  rw [entries_erase] at put
  exact put

theorem held_read (fits : Fits store.home name) (content : ByteArray) (mode : Nat)
    (file : shelf [.text name] = some (.file content mode)) :
    (listing.answer (.read (Path.join store.directory name)) m).1 = .ok content := by
  obtain ⟨place, opens, rfl⟩ := opens_holding held
  have whole := Files.Tree.read_entry opens proper fits content mode file
  exact (home_same store m proper (m.tree.read m.work) fun _ _ => Files.Tree.read_resolved).trans whole

end Granted

theorem held_sync (path : String) (held : holding directory m = some shelf)
    (granted : (listing.answer (.sync path) m).1 = .ok ()) :
    holding directory (listing.answer (.sync path) m).2 = some shelf := by
  rw [granted_sync path granted, held]

theorem held_list (held : holding store.home m = some shelf) :
    store.directory = "" ∧ (listing.answer (.list store.directory) m).1 = .error .missing ∨
      store.directory ≠ "" ∧ ∃ names, (listing.answer (.list store.directory) m).1 = .ok names ∧
        ∀ n, n ∈ names ↔ shelf [n] ≠ none := by
  by_cases empty : store.directory = ""
  · refine .inl ⟨empty, ?_⟩
    rw [empty]
    rfl
  · rw [Store.home, if_neg empty] at held
    obtain ⟨place, opens, rfl⟩ := opens_holding held
    refine .inr ⟨empty, listing.order m (m.tree.names place), ?_, fun n => ?_⟩
    · change (m.tree.list m.work store.directory).map _ = _
      rw [Files.Tree.list_opens opens]
      rfl
    · rw [(listing.perm m _).mem_iff, Files.Tree.mem_names]
      exact Iff.rfl

theorem held_make (granted : (listing.answer (.makePath store.directory) m).1 = .ok ()) :
    ∃ shelf, holding store.home (listing.answer (.makePath store.directory) m).2 = some shelf := by
  obtain ⟨t, made, after⟩ := Host.settle_granted granted
  change ∃ shelf, holding store.home (m.settle _).2 = _
  rw [after, Store.home]
  by_cases empty : store.directory = ""
  · rw [if_pos empty]
    exact ⟨_, holding_opens (Files.Tree.opens_here t m.work)⟩
  · rw [if_neg empty]
    obtain ⟨place, opens⟩ := Files.Tree.makePath_opens empty made
    exact ⟨_, holding_opens (m := { m with tree := t }) opens⟩

-- The artifact is a file with the count and the temporary is gone. All else is as it was.
structure Replaced (store : Store) (id : UInt64) (count : UInt32) (m m' : Machine) (place : Location) : Prop where
  work : m'.work = m.work
  before : m.tree.Opens m.work store.home place
  opens : m'.tree.Opens m'.work store.home place
  fits : Fits store.home (artifactName store.stem id)
  artifact : ∃ mode,
    m'.tree.node? (.text (artifactName store.stem id) :: place) = some (.file (Numeral.word32 count).toUTF8 mode)
  temporary : m'.tree.node? (.text (temporaryName store.stem id) :: place) = none
  others : ∀ q, q ≠ .text (artifactName store.stem id) :: place → q ≠ .text (temporaryName store.stem id) :: place →
    m'.tree.node? q = m.tree.node? q

theorem write_trees {id : UInt64} {bytes : ByteArray} (plain : Stem store.stem) (h : List Exchange)
    (calls : h = [⟨.create (store.temporaryPath id), .ok ()⟩, ⟨.extend (store.temporaryPath id) bytes, .ok ()⟩,
      ⟨.sync (store.temporaryPath id), .ok ()⟩, ⟨.rename (store.temporaryPath id) (store.artifactPath id), .ok ()⟩])
    (given : Given listing.answer m h) :
    ∃ created filled synced t, m.tree.create m.work (Path.join store.home (temporaryName store.stem id)) = .ok created ∧
      created.extend m.work (Path.join store.home (temporaryName store.stem id)) bytes = .ok filled ∧
      filled.sync m.work (Path.join store.home (temporaryName store.stem id)) = .ok synced ∧
      synced.rename m.work (Path.join store.home (temporaryName store.stem id))
        (Path.join store.home (artifactName store.stem id)) = .ok t ∧
      leave listing.answer m h = { m with tree := t } := by
  subst calls
  have proper := temporary_proper plain id
  obtain ⟨creating, extending, syncing, naming, -⟩ := given
  obtain ⟨created, made, first⟩ := Host.settle_granted creating
  change (listing.answer (.create _) m).2 = _ at first
  rw [first] at extending syncing naming
  obtain ⟨filled, extended, second⟩ := Host.settle_granted extending
  change (listing.answer (.extend _ _) _).2 = _ at second
  rw [second] at syncing naming
  obtain ⟨synced, brought, third⟩ := Host.settle_granted syncing
  change (listing.answer (.sync _) _).2 = _ at third
  rw [third] at naming
  obtain ⟨t, renamed, fourth⟩ := Host.settle_granted naming
  change (listing.answer (.rename _ _) _).2 = _ at fourth
  refine ⟨created, filled, synced, t, ?_, ?_, ?_, ?_, ?_⟩
  · exact (home_same store m proper (m.tree.create m.work) fun _ _ => Files.Tree.create_resolved).symm.trans made
  · exact (home_same store { m with tree := created } proper (created.extend m.work · bytes)
      fun _ _ resolved => Files.Tree.extend_resolved resolved bytes).symm.trans extended
  · exact (home_same store { m with tree := filled } proper (filled.sync m.work)
      fun _ _ => Files.Tree.sync_resolved).symm.trans brought
  · exact (home_rename store { m with tree := synced } proper (artifact_proper plain id)).symm.trans renamed
  · simp only [leave, first, second, third, fourth]

theorem wrote_replaced {id : UInt64} {count : UInt32} {h : List Exchange} (plain : Stem store.stem)
    (opens : m.tree.Opens m.work store.home place)
    (linkless : Linkless (m.tree.node? (.text (temporaryName store.stem id) :: place)))
    (avoids : m.tree.node? (.text (artifactName store.stem id) :: place) ≠ some .directory →
      m.tree.Avoids m.work store.home place (· = .text (artifactName store.stem id) :: place))
    (wrote : Wrote (store.temporaryPath id) (store.artifactPath id) (Numeral.word32 count).toUTF8 h (.ok ()))
    (given : Given listing.answer m h) : Replaced store id count m (leave listing.answer m h) place := by
  generalize granted : Except.ok () = told at wrote
  cases wrote with
  | uncreated r => cases granted
  | unextended r => cases granted
  | unsynced r => cases granted
  | named told =>
      subst granted
      obtain ⟨created, filled, synced, t, creating, filling, syncing, naming, left⟩ := write_trees plain _ rfl given
      obtain ⟨blocked, fits, free, mode, artifact, temporary, others⟩ := Files.Tree.written_over (artifactName store.stem id) opens
        (temporary_proper plain id) (artifact_proper plain id) (artifact_ne_temporary _ _ _).symm linkless creating
        filling syncing naming
      rw [left]
      refine ⟨rfl, opens, ?_, fits, ⟨mode, artifact⟩, temporary, others⟩
      -- First the artifact, which the way avoids, then the temporary, which it cannot go through.
      have filed := avoids free (m.tree.put (.text (artifactName store.stem id) :: place) (.file (Numeral.word32 count).toUTF8 mode))
        fun q other => by rw [Files.Tree.node_put, if_neg other]
      apply Files.Tree.opens_elsewhere filed (.text (temporaryName store.stem id) :: place)
      · rw [Files.Tree.node_put, if_neg (by simpa using (artifact_ne_temporary store.stem id id).symm)]
        exact blocked
      · intro q other
        by_cases own : q = .text (artifactName store.stem id) :: place
        · rw [own, Files.Tree.node_put, if_pos rfl, artifact]
        · rw [Files.Tree.node_put, if_neg own]
          exact others q own other

theorem update_replaced {id : UInt64} {count : UInt32} (plain : Stem store.stem)
    (opens : m.tree.Opens m.work store.home place)
    (linkless : Linkless (m.tree.node? (.text (temporaryName store.stem id) :: place)))
    (avoids : m.tree.node? (.text (artifactName store.stem id) :: place) ≠ some .directory →
      m.tree.Avoids m.work store.home place (· = .text (artifactName store.stem id) :: place))
    (granted : ((store.update id count).run listing.answer m).1 = .ok ()) :
    Replaced store id count m ((store.update id count).run listing.answer m).2 place := by
  have given := Program.history_given listing.answer (store.update id count) m
  have updated := update_course store id count _ _ (Program.runs_history listing.answer (store.update id count) m)
  rw [← Program.leave_history]
  rw [granted] at updated
  generalize (store.update id count).history listing.answer m = h at given updated ⊢
  generalize done : Except.ok () = told at updated
  cases updated with
  | written h wrote => exact wrote_replaced plain opens linkless avoids wrote given
  | unwritten h r removed wrote => cases done

end Overseer.Counter
