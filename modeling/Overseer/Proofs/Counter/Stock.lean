import Overseer.Proofs.Counter.Looking

set_option autoImplicit false

namespace Overseer.Counter

open Files (Name)
open Files.Tree (Ordinary)
open Host (Listing Machine)
open Text (Numeral.word32)

-- What the directory holds, which is nothing before it is made.
inductive Stocked (store : Store) (m : Machine) : Shelf → Prop where
  | standing {place : Files.Location} {shelf : Shelf} (stands : Stands store m place shelf) : Stocked store m shelf
  | absent (absent : m.tree.Absent m.work store.directory) : Stocked store m .bare

variable {store : Store} {listing : Listing} {m : Machine} {shelf : Shelf} {id : UInt64}

theorem stocked_alike {m' : Machine} (alike : Alike m m') (stocked : Stocked store m shelf) : Stocked store m' shelf := by
  cases stocked with
  | standing stands => exact .standing (stands_alike alike stands)
  | absent absent =>
      rw [← alike.1, ← alike.2] at absent
      exact .absent absent

theorem allocate_refused (r : Refusal) (refused : (listing.answer (.makePath store.directory) m).1 = .error r) :
    (store.allocate.run listing.answer m).1 = .error (.uncreatable store.directory r) := by
  have whole : listing.answer (.makePath store.directory) m = (.error r, (listing.answer (.makePath store.directory) m).2) :=
    Prod.fst_eq_iff.mp refused
  simp only [Store.allocate, Program.bind_eq, Program.run_bind, Host.ask, Program.run_call]
  rw [whole]
  rfl

theorem stocked_allocate (highest : Nat) (stocked : Stocked store m shelf) (top : Highest store.stem shelf.Has highest)
    (granted : (store.allocate.run listing.answer m).1 = .ok id) :
    id = UInt64.ofNat (highest + 1) ∧ Stocked store (store.allocate.run listing.answer m).2 shelf := by
  have number (next : following highest = .ok id) : id = UInt64.ofNat (highest + 1) := by
    unfold following at next
    split at next
    · exact (Except.ok.inj next).symm
    · cases next
  cases stocked with
  | standing stands =>
      obtain ⟨m', alike, run⟩ := allocate_made highest m (granted_make stands) stands top
      rw [run] at granted ⊢
      exact ⟨number granted, .standing (stands_alike alike stands)⟩
  | absent absent =>
      cases made : (listing.answer (.makePath store.directory) m).1 with
      | error r =>
          rw [allocate_refused r made] at granted
          cases granted
      | ok done =>
          obtain ⟨place, stands⟩ := granted_absent absent made
          have whole : listing.answer (.makePath store.directory) m =
              (.ok (), (listing.answer (.makePath store.directory) m).2) := Prod.fst_eq_iff.mp made
          obtain ⟨m', alike, run⟩ := allocate_made highest _ whole stands top
          rw [run] at granted ⊢
          exact ⟨number granted, .standing (stands_alike alike stands)⟩

theorem stocked_update (plain : Stem store.stem) (ordinary : ∀ n, Ordinary (shelf [n])) (stocked : Stocked store m shelf)
    (count : UInt32) (granted : ((store.update id count).run listing.answer m).1 = .ok ()) :
    ∃ mode, Stocked store ((store.update id count).run listing.answer m).2
      (shelf.filed store.stem id (Numeral.word32 count).toUTF8 mode) := by
  cases stocked with
  | standing stands =>
      obtain ⟨mode, later⟩ := granted_update plain stands (ordinary _) (ordinary _) count granted
      exact ⟨mode, .standing later⟩
  | absent absent =>
      obtain ⟨f, run⟩ := closed_update listing plain (Files.Tree.absent_closed absent)
        (Files.Tree.absent_nonempty absent) id count
      rw [run] at granted
      cases granted

theorem stocked_begin (plain : Stem store.stem) (ordinary : ∀ n, Ordinary (shelf [n])) (stocked : Stocked store m shelf)
    (granted : ((store.begin id).run listing.answer m).1 = .ok ()) :
    ∃ mode, Stocked store ((store.begin id).run listing.answer m).2
      (shelf.filed store.stem id (Numeral.word32 0).toUTF8 mode) := by
  obtain ⟨m', alike, begun⟩ := begin_run store listing id m
  rw [begun] at granted ⊢
  exact stocked_update plain ordinary (stocked_alike alike stocked) 0 granted

theorem filed_ordinary (ordinary : ∀ n, Ordinary (shelf [n])) (stem : String) (bytes : ByteArray) (mode : Nat) (n : Name) :
    Ordinary (shelf.filed stem id bytes mode [n]) := by
  unfold Shelf.filed Shelf.set
  split
  · trivial
  · split
    · trivial
    · exact ordinary n

theorem stocked_filed (stem : String) (bytes : ByteArray) (mode : Nat)
    (stocked : Stocked store m (shelf.filed stem id bytes mode)) :
    ∃ place, Stands store m place (shelf.filed stem id bytes mode) := by
  generalize same : shelf.filed stem id bytes mode = now at stocked
  cases stocked with
  | standing stands => exact ⟨_, stands⟩
  | absent absent =>
      have held := congrFun same [.text (artifactName stem id)]
      rw [Shelf.filed_artifact] at held
      cases held

-- A later write of the same session leaves nothing of an earlier one.
theorem filed_filed (stem : String) (bytes bytes' : ByteArray) (mode mode' : Nat) :
    (shelf.filed stem id bytes mode).filed stem id bytes' mode' = shelf.filed stem id bytes' mode' := by
  funext q
  by_cases artifact : q = [.text (artifactName stem id)]
  · simp [artifact]
  · by_cases temporary : q = [.text (temporaryName stem id)]
    · simp [temporary]
    · rw [Shelf.filed_other _ _ _ q artifact temporary, Shelf.filed_other _ _ _ q artifact temporary,
        Shelf.filed_other _ _ _ q artifact temporary]

theorem filed_highest (stem : String) (bytes : ByteArray) (mode highest : Nat) (top : Highest stem shelf.Has highest)
    (next : id.toNat = highest + 1) : Highest stem (shelf.filed stem id bytes mode).Has (highest + 1) where
  bound name own taken numbered := by
    by_cases artifact : Name.text name = .text (artifactName stem id)
    · obtain rfl := Name.text.inj artifact
      rw [ordinal_artifact, Option.some.injEq] at numbered
      exact Nat.le_of_eq (numbered ▸ next)
    · by_cases temporary : Name.text name = .text (temporaryName stem id)
      · rw [Shelf.Has, temporary, Shelf.filed_temporary] at taken
        exact absurd rfl taken
      · rw [Shelf.Has, Shelf.filed_other _ _ _ _ (by simpa using artifact) (by simpa using temporary)] at taken
        exact Nat.le_succ_of_le (top.bound name own taken numbered)
  reached := .inr ⟨artifactName stem id, id, by simp [Shelf.Has], ordinal_artifact stem id, next⟩

theorem highest_new (stem : String) (highest : Nat) (top : Highest stem shelf.Has highest) (above : highest < id.toNat) :
    shelf [.text (artifactName stem id)] = none := by
  cases node : shelf [.text (artifactName stem id)] with
  | none => rfl
  | some held =>
      have bound := top.bound _ id (by simp [Shelf.Has, node]) (ordinal_artifact stem id)
      exact absurd bound (Nat.not_le.mpr above)

def Shelf.Clear (shelf : Shelf) (stem : String) : Prop :=
  ∀ id, shelf [.text (artifactName stem id)] ≠ some .directory ∧ shelf [.text (temporaryName stem id)] ≠ some .directory

theorem filed_clear (stem : String) (bytes : ByteArray) (mode : Nat) (clear : shelf.Clear stem) :
    (shelf.filed stem id bytes mode).Clear stem := by
  have entry (q : Files.Location) (free : shelf q ≠ some .directory) : shelf.filed stem id bytes mode q ≠ some .directory := by
    unfold Shelf.filed Shelf.set
    split
    · simp
    · split
      · simp
      · exact free
  exact fun own => ⟨entry _ (clear own).1, entry _ (clear own).2⟩

-- A shelf on which every write is granted, and which every write leaves so.
structure Ready (store : Store) (m : Machine) (place : Files.Location) (shelf : Shelf) : Prop where
  stands : Stands store m place shelf
  ordinary : ∀ n, Ordinary (shelf [n])
  clear : shelf.Clear store.stem

section Ready

variable {place : Files.Location} (listing) (plain : Stem store.stem)
  (fits : ∀ id, Files.Fits store.directory (temporaryName store.stem id)) (ready : Ready store m place shelf)

include plain fits ready

theorem update_ready (id : UInt64) (count : UInt32) :
    ∃ m' mode, (store.update id count).run listing.answer m = (.ok (), m') ∧
      Ready store m' place (shelf.filed store.stem id (Numeral.word32 count).toUTF8 mode) := by
  obtain ⟨stands, ordinary, clear⟩ := ready
  have granted : ((store.update id count).run listing.answer m).1 = .ok () :=
    ready_update listing plain stands (ordinary _) (ordinary _) (clear id).1 (clear id).2 (fits id) count
  obtain ⟨mode, later⟩ := granted_update plain stands (ordinary _) (ordinary _) count granted
  exact ⟨_, mode, Prod.fst_eq_iff.mp granted, later, filed_ordinary ordinary _ _ _, filed_clear _ _ _ clear⟩

theorem begin_ready (id : UInt64) :
    ∃ m' mode, (store.begin id).run listing.answer m = (.ok (), m') ∧
      Ready store m' place (shelf.filed store.stem id (Numeral.word32 0).toUTF8 mode) := by
  obtain ⟨m', alike, begun⟩ := begin_run store listing id m
  rw [begun]
  exact update_ready listing plain fits ⟨stands_alike alike ready.stands, ready.ordinary, ready.clear⟩ id 0

end Ready

inductive Prepared (store : Store) (m : Machine) : Shelf → Prop where
  | ready {place : Files.Location} {shelf : Shelf} (ready : Ready store m place shelf) : Prepared store m shelf
  | makable (absent : m.tree.Absent m.work store.directory)
      (makable : ∃ t, m.tree.makePath m.work store.directory = .ok t) : Prepared store m .bare

theorem prepared_stocked (prepared : Prepared store m shelf) : Stocked store m shelf := by
  cases prepared with
  | ready ready => exact .standing ready.stands
  | makable absent makable => exact .absent absent

theorem ready_bare {place : Files.Location} (stands : Stands store m place .bare) : Ready store m place .bare :=
  ⟨stands, fun _ => trivial, fun _ => ⟨nofun, nofun⟩⟩

theorem following_room (highest : Nat) (room : highest + 1 < UInt64.size) :
    following highest = .ok (UInt64.ofNat (highest + 1)) := if_pos room

theorem allocate_prepared (listing : Listing) (highest : Nat) (prepared : Prepared store m shelf) (top : Highest store.stem shelf.Has highest)
    (room : highest + 1 < UInt64.size) :
    ∃ m' place, store.allocate.run listing.answer m = (.ok (UInt64.ofNat (highest + 1)), m') ∧
      Ready store m' place shelf := by
  cases prepared with
  | ready ready =>
      obtain ⟨m', alike, run⟩ := allocate_made highest m (granted_make ready.stands) ready.stands top
      rw [following_room highest room] at run
      exact ⟨m', _, run, stands_alike alike ready.stands, ready.ordinary, ready.clear⟩
  | makable absent makable =>
      obtain ⟨made, place, granted, stands⟩ := made_absent listing absent makable
      obtain ⟨m', alike, run⟩ := allocate_made highest _ granted stands top
      rw [following_room highest room] at run
      exact ⟨m', place, run, ready_bare (stands_alike alike stands)⟩

end Overseer.Counter
