import Mathlib.Data.Prod.Basic
import Overseer.Proofs.Counter.Shelf
import Overseer.Proofs.Counter.Writing

set_option autoImplicit false

namespace Overseer.Counter

open Files (Fits Name Node Path Proper)
open Files.Tree (Ordinary linkless_ordinary)
open Host (Listing Machine)
open Program (Given leave)
open Text (Numeral.word32)

variable {store : Store} {listing : Listing} {m : Machine} {place : Files.Location} {shelf : Shelf} {id : UInt64}

-- What is on a shelf after a write: the artifact with the bytes, and no temporary.
def Shelf.filed (shelf : Shelf) (stem : String) (id : UInt64) (bytes : ByteArray) (mode : Nat) : Shelf :=
  (shelf.set (temporaryName stem id) none).set (artifactName stem id) (some (.file bytes mode))

namespace Shelf

variable (stem : String) (bytes : ByteArray) (mode : Nat)

@[simp] theorem filed_artifact : shelf.filed stem id bytes mode [.text (artifactName stem id)] = some (.file bytes mode) :=
  set_same _ _ _

@[simp] theorem filed_temporary : shelf.filed stem id bytes mode [.text (temporaryName stem id)] = none := by
  have different : [Name.text (temporaryName stem id)] ≠ [.text (artifactName stem id)] := by
    simpa using (artifact_ne_temporary stem id id).symm
  rw [filed, set_other _ _ _ _ different, set_same]

theorem filed_other (q : Files.Location) (artifact : q ≠ [.text (artifactName stem id)])
    (temporary : q ≠ [.text (temporaryName stem id)]) : shelf.filed stem id bytes mode q = shelf q := by
  rw [filed, set_other _ _ _ _ artifact, set_other _ _ _ _ temporary]

@[simp] theorem set_set (name : String) (first second : Option Node) :
    (shelf.set name first).set name second = shelf.set name second := by
  funext q
  by_cases same : q = [.text name]
  · simp [same]
  · rw [set_other _ _ _ _ same, set_other _ _ _ _ same, set_other _ _ _ _ same]

end Shelf

theorem set_temporary (shelf : Shelf) (stem : String) (id : UInt64) (node : Option Node) :
    shelf.set (temporaryName stem id) node [.text (artifactName stem id)] = shelf [.text (artifactName stem id)] := by
  apply Shelf.set_other
  simpa using artifact_ne_temporary stem id id

section Granted

variable (plain : Stem store.stem) (stands : Stands store m place shelf)
  (artifact : Ordinary (shelf [.text (artifactName store.stem id)]))
  (temporary : Ordinary (shelf [.text (temporaryName store.stem id)]))

include plain stands artifact temporary

theorem wrote_filed (bytes : ByteArray) (h : List Exchange)
    (wrote : Wrote (store.temporaryPath id) (store.artifactPath id) bytes h (.ok ())) (given : Given listing.answer m h) :
    ∃ mode, Stands store (leave listing.answer m h) place (shelf.filed store.stem id bytes mode) := by
  have own := temporary_proper plain id
  generalize result : Except.ok () = r at wrote
  cases wrote with
  | uncreated r => cases result
  | unextended r => cases result
  | unsynced r => cases result
  | named told =>
      subst result
      obtain ⟨creating, extending, syncing, naming, -⟩ := given
      obtain ⟨mode, created⟩ := granted_create stands own temporary creating
      have extended := granted_extend created own .empty bytes mode (Shelf.set_same _ _ _) extending
      rw [ByteArray.empty_append, Shelf.set_set] at extended
      have synced := granted_sync _ syncing
      refine ⟨mode, ?_⟩
      simp only [leave]
      rw [synced] at naming ⊢
      have target : Ordinary ((shelf.set (temporaryName store.stem id) (some (.file bytes mode)))
          [.text (artifactName store.stem id)]) := by
        rw [set_temporary]
        exact artifact
      have renamed := granted_rename extended (artifactName store.stem id) own (artifact_proper plain id)
        (artifact_ne_temporary _ _ _).symm bytes mode (Shelf.set_same _ _ _) (linkless_ordinary target) naming
      rw [Shelf.set_set] at renamed
      exact renamed

theorem updated_filed (count : UInt32) (h : List Exchange) (updated : Updated store id count h (.ok ()))
    (given : Given listing.answer m h) :
    ∃ mode, Stands store (leave listing.answer m h) place
      (shelf.filed store.stem id (Numeral.word32 count).toUTF8 mode) := by
  generalize result : Except.ok () = r at updated
  cases updated with
  | written h wrote => exact wrote_filed plain stands artifact temporary _ h wrote given
  | unwritten h r removed wrote => cases result

theorem granted_update (count : UInt32) (granted : ((store.update id count).run listing.answer m).1 = .ok ()) :
    ∃ mode, Stands store ((store.update id count).run listing.answer m).2 place
      (shelf.filed store.stem id (Numeral.word32 count).toUTF8 mode) := by
  have given := Program.history_given listing.answer (store.update id count) m
  have updated := update_course store id count _ _ (Program.runs_history listing.answer (store.update id count) m)
  rw [granted] at updated
  rw [← Program.leave_history]
  exact updated_filed plain stands artifact temporary count _ updated given

end Granted

section Ready

variable (plain : Stem store.stem) (stands : Stands store m place shelf)
  (artifact : Ordinary (shelf [.text (artifactName store.stem id)]))
  (temporary : Ordinary (shelf [.text (temporaryName store.stem id)]))
  (artifactFree : shelf [.text (artifactName store.stem id)] ≠ some .directory)
  (temporaryFree : shelf [.text (temporaryName store.stem id)] ≠ some .directory)
  (fits : Fits store.directory (temporaryName store.stem id))

include plain stands artifact temporary artifactFree temporaryFree fits

theorem ready_wrote (bytes : ByteArray) (h : List Exchange) (r : Except Refusal Unit)
    (wrote : Wrote (store.temporaryPath id) (store.artifactPath id) bytes h r) (given : Given listing.answer m h) :
    r = .ok () := by
  have own := temporary_proper plain id
  have some := Files.Tree.opens_nonempty stands.opens
  have creating := ready_create listing stands own fits temporary temporaryFree
  obtain ⟨mode, created⟩ := granted_create stands own temporary creating
  have extending := ready_extend listing created own fits .empty bytes mode (Shelf.set_same _ _ _)
  have extended := granted_extend created own .empty bytes mode (Shelf.set_same _ _ _) extending
  rw [ByteArray.empty_append, Shelf.set_set] at extended
  have syncing := ready_sync listing extended own fits bytes mode (Shelf.set_same _ _ _)
  cases wrote with
  | uncreated r => cases creating.symm.trans given.1
  | unextended r => cases extending.symm.trans given.2.1
  | unsynced r => cases syncing.symm.trans given.2.2.1
  | named told =>
      have naming := given.2.2.2.1
      have synced := granted_sync _ syncing
      have target := set_temporary shelf store.stem id (.some (.file bytes mode))
      have named := ready_rename listing extended own fits (artifactName store.stem id)
        (artifact_proper plain id) (fits_artifact some plain fits) (artifact_ne_temporary _ _ _).symm bytes mode
        (Shelf.set_same _ _ _) (target ▸ artifact) (target ▸ artifactFree)
      have after := congrArg
        (fun m => (listing.answer (.rename (store.temporaryPath id) (store.artifactPath id)) m).1) synced
      exact naming.symm.trans (after.trans named)

variable (listing) in
theorem ready_update (count : UInt32) : ((store.update id count).run listing.answer m).1 = .ok () := by
  have given := Program.history_given listing.answer (store.update id count) m
  have updated := update_course store id count _ _ (Program.runs_history listing.answer (store.update id count) m)
  generalize (store.update id count).history listing.answer m = h at given updated
  generalize ((store.update id count).run listing.answer m).1 = r at updated
  cases updated with
  | written h wrote => rfl
  | unwritten h r removed wrote =>
      have first := ((Program.given_append listing.answer m h _).mp given).1
      cases ready_wrote plain stands artifact temporary artifactFree temporaryFree fits _ h _ wrote first

end Ready

theorem closed_update (listing : Listing) (plain : Stem store.stem) (closed : ∀ place, ¬m.tree.Opens m.work store.directory place)
    (some : store.directory ≠ "") (id : UInt64) (count : UInt32) :
    ∃ f, (store.update id count).run listing.answer m = (.error f, m) := by
  have own := temporary_proper plain id
  obtain ⟨r, uncreated⟩ : ∃ r, listing.answer (.create (store.temporaryPath id)) m = (.error r, m) :=
    closed_create listing closed some own
  obtain ⟨q, unremoved⟩ : ∃ q, listing.answer (.remove (store.temporaryPath id)) m = (.error q, m) :=
    closed_remove listing closed some own
  refine ⟨.unwritable (store.artifactPath id) r, ?_⟩
  have wrote (bytes : ByteArray) :
      (Store.write (store.temporaryPath id) (store.artifactPath id) bytes).run listing.answer m = (.error r, m) := by
    simp only [Store.write, Program.bind_eq, Program.run_bind, Host.ask, Program.run_call, uncreated]
    rfl
  simp only [Store.update, Program.bind_eq, Program.run_bind, wrote, Host.ask, Program.run_call, unremoved]
  rfl

def Alike (m m' : Machine) : Prop := m'.tree = m.tree ∧ m'.work = m.work

theorem stands_alike {m' : Machine} (alike : Alike m m') (stands : Stands store m place shelf) :
    Stands store m' place shelf := by
  obtain ⟨tree, work⟩ := alike
  exact ⟨by rw [tree, work]; exact stands.opens, by rw [tree]; exact stands.unique, by rw [tree]; exact stands.holds⟩

theorem alike_note (record : Diagnostic) : Alike m (m.note record) := by
  unfold Machine.note
  split <;> exact ⟨rfl, rfl⟩

theorem begin_run (store : Store) (listing : Listing) (id : UInt64) (m : Machine) :
    ∃ m', Alike m m' ∧ (store.begin id).run listing.answer m = (store.update id 0).run listing.answer m' := by
  simp only [Store.begin, Program.bind_eq, Program.run_bind, Host.ask, Program.run_call]
  change ∃ m', Alike m m' ∧ (if m.tree.isPresent m.work (store.artifactPath id) = true then _ else _ : Host.Action _).run _ m = _
  split
  · rw [Program.run_bind]
    exact ⟨_, alike_note _, rfl⟩
  · exact ⟨m, ⟨rfl, rfl⟩, rfl⟩

end Overseer.Counter
