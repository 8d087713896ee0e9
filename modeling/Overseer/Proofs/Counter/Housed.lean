import Overseer.Proofs.Counter.Answers
import Overseer.Proofs.Files.Following

set_option autoImplicit false

namespace Overseer.Counter

open Files (Fits Name Path Proper)
open Files.Tree (Blocked Linkless Ordinary blocked_ordinary contents device_ordinary linkless_blocked linkless_ordinary)
open Host (Listing Machine)

variable {store : Store} {listing : Listing} {m m' : Machine} {shelf shelf' : Shelf} {name : String} {id : UInt64}

def Store.keeps (store : Store) (name : String) (m : Machine) : Option ByteArray :=
  (m.tree.read m.work (Path.join store.directory name)).toOption

theorem Shelf.set_self (shelf : Shelf) (name : String) : shelf.set name (shelf [.text name]) = shelf := by
  funext q
  unfold Shelf.set
  split
  · next same => rw [same]
  · rfl

theorem holding_alike {directory : String} (alike : Alike m m') : holding directory m' = holding directory m := by
  unfold holding
  rw [alike.1, alike.2]

section Held

variable (held : holding store.home m = some shelf) (proper : Proper name)

include held proper

theorem keeps_held (linkless : Linkless (shelf [.text name])) (bytes : ByteArray) :
    store.keeps name m = some bytes ↔ Fits store.home name ∧ contents (shelf [.text name]) = some bytes := by
  obtain ⟨place, opens, rfl⟩ := opens_holding held
  unfold Store.keeps
  rw [home_same store m proper (m.tree.read m.work) fun _ _ => Files.Tree.read_resolved]
  refine Iff.trans ?_ (Files.Tree.read_linkless opens proper linkless bytes)
  cases m.tree.read m.work (Path.join store.home name) <;> simp [Except.toOption]

theorem keeps_file (fits : Fits store.home name) {content : ByteArray} {mode : Nat}
    (file : shelf [.text name] = some (.file content mode)) : store.keeps name m = some content :=
  (keeps_held held proper (file ▸ trivial) content).mpr ⟨fits, file ▸ rfl⟩

theorem keeps_same (held' : holding store.home m' = some shelf') (linkless : Linkless (shelf [.text name]))
    (same : shelf' [.text name] = shelf [.text name]) : store.keeps name m' = store.keeps name m := by
  apply Option.ext
  intro bytes
  rw [keeps_held held proper linkless, keeps_held held' proper (same ▸ linkless), same]

theorem create_fits (granted : (listing.answer (.create (Path.join store.directory name)) m).1 = .ok ()) :
    Fits store.home name := by
  obtain ⟨place, opens, rfl⟩ := opens_holding held
  obtain ⟨t, created, -⟩ := Host.settle_granted granted
  rw [home_same store m proper (m.tree.create m.work) fun _ _ => Files.Tree.create_resolved] at created
  unfold Files.Tree.create at created
  split at created
  · cases created
  all_goals
    next found =>
      exact (Files.Tree.found_entry true (Files.Tree.opens_nonempty opens) proper _ (Files.Tree.writing_found _ _ found)).1

theorem extend_granted_file (ordinary : Ordinary (shelf [.text name])) (bytes : ByteArray)
    (granted : (listing.answer (.extend (Path.join store.directory name) bytes) m).1 = .ok ()) :
    ∃ content mode, shelf [.text name] = some (.file content mode) := by
  obtain ⟨place, opens, rfl⟩ := opens_holding held
  obtain ⟨t, extended, -⟩ := Host.settle_granted granted
  rw [home_same store m proper (m.tree.extend m.work · bytes) fun _ _ resolved => Files.Tree.extend_resolved resolved bytes] at extended
  exact Files.Tree.extend_file opens proper bytes ordinary extended

theorem held_remove (linkless : Linkless (shelf [.text name]))
    (granted : (listing.answer (.remove (Path.join store.directory name)) m).1 = .ok ()) :
    holding store.home (listing.answer (.remove (Path.join store.directory name)) m).2 = some (shelf.set name none) := by
  obtain ⟨place, opens, rfl⟩ := opens_holding held
  obtain ⟨t, removed, after⟩ := Host.settle_granted granted
  rw [home_same store m proper (m.tree.remove m.work) fun _ _ => Files.Tree.remove_resolved] at removed
  obtain ⟨free, rfl⟩ := Files.Tree.remove_granted opens proper removed
  change holding store.home (m.settle _).2 = _
  rw [after]
  exact holding_erase opens (.inl (linkless_blocked linkless free))

theorem rename_granted_file (ordinary : Ordinary (shelf [.text name])) (other : String) (properOther : Proper other)
    (different : name ≠ other)
    (granted : (listing.answer (.rename (Path.join store.directory name) (Path.join store.directory other)) m).1 = .ok ()) :
    Fits store.home name ∧ shelf [.text other] ≠ some .directory ∧ ∃ content mode, shelf [.text name] = some (.file content mode) := by
  obtain ⟨place, opens, rfl⟩ := opens_holding held
  obtain ⟨t, renamed, -⟩ := Host.settle_granted granted
  have whole := (home_rename store m proper properOther).symm.trans renamed
  obtain ⟨⟨spot, found⟩, -⟩ := Files.Tree.rename_found _ _ whole
  obtain ⟨node, stood, moved, free, -⟩ := Files.Tree.rename_moves other opens proper properOther different whole
  refine ⟨(Files.Tree.found_entry false (Files.Tree.opens_nonempty opens) proper spot found).1, free, ?_⟩
  change ∃ content mode, m.tree.node? (.text name :: place) = _
  change Ordinary (m.tree.node? (.text name :: place)) at ordinary
  rw [stood] at ordinary ⊢
  cases node with
  | directory => exact absurd rfl moved
  | file content mode => exact ⟨content, mode, rfl⟩
  | _ => exact absurd ordinary id

end Held

theorem shut_closed (shut : holding store.home m = none) :
    (∀ place, ¬m.tree.Opens m.work store.directory place) ∧ store.directory ≠ "" := by
  have closed (place : Files.Location) (opens : m.tree.Opens m.work store.home place) : False := by
    rw [holding_opens opens] at shut
    cases shut
  have some : store.directory ≠ "" := fun empty => closed m.work (by
    rw [Store.home, if_pos empty]
    exact Files.Tree.opens_here m.tree m.work)
  rw [Store.home, if_neg some] at closed
  exact ⟨closed, some⟩

theorem keeps_shut (shut : holding store.home m = none) (proper : Proper name) : store.keeps name m = none := by
  obtain ⟨closed, some⟩ := shut_closed shut
  obtain ⟨r, refused⟩ := closed_read .plain closed some proper
  have read : m.tree.read m.work (Path.join store.directory name) = .error r := congrArg Prod.fst refused
  rw [Store.keeps, read]
  rfl

-- In the directory that is there, or in the one that would be made, no link or device stands for the artifact or the
-- temporary of a session.
inductive Housed (store : Store) (id : UInt64) (m : Machine) : Prop where
  | opened (shelf : Shelf) (held : holding store.home m = some shelf)
      (artifact : Ordinary (shelf [.text (artifactName store.stem id)]))
      (temporary : Ordinary (shelf [.text (temporaryName store.stem id)]))
  | shut (shut : holding store.home m = none)
      (made : ∀ t shelf, m.tree.makePath m.work store.directory = .ok t → holding store.home { m with tree := t } = some shelf →
        shelf [.text (artifactName store.stem id)] = none ∧ shelf [.text (temporaryName store.stem id)] = none)

-- All that a call beside the artifact does in the directory is to set the temporary.
theorem aside_sets (plain : Stem store.stem) (listing : Listing) {c : Host.Call} (aside : Aside store id c)
    (held : holding store.home m = some shelf) (ordinary : Ordinary (shelf [.text (temporaryName store.stem id)])) :
    ∃ node, Ordinary node ∧
      holding store.home (listing.answer c m).2 = some (shelf.set (temporaryName store.stem id) node) := by
  have proper := temporary_proper plain id
  have still (m' : Machine) (same : m' = m) : ∃ node, Ordinary node ∧
      holding store.home m' = some (shelf.set (temporaryName store.stem id) node) := by
    refine ⟨_, ordinary, ?_⟩
    rw [same, held, Shelf.set_self]
  cases aside with
  | look c looks =>
      cases looks with
      | makePath =>
          obtain ⟨place, opens, -⟩ := opens_holding held
          exact still _ (congrArg (fun r => (m.settle r).2) (home_made opens))
      | list => exact still _ rfl
      | note record =>
          refine ⟨_, ordinary, ?_⟩
          rw [Shelf.set_self, ← held]
          exact holding_alike (alike_note record)
  | create =>
      cases told : (listing.answer (.create (store.temporaryPath id)) m).1 with
      | error r => exact still _ (Host.settle_refused r told).2
      | ok done =>
          obtain ⟨-, device⟩ | ⟨mode, later⟩ := held_create held proper (linkless_ordinary ordinary) told
          · exact absurd device (device_ordinary ordinary)
          · exact ⟨some (.file .empty mode), trivial, later⟩
  | extend bytes =>
      cases told : (listing.answer (.extend (store.temporaryPath id) bytes) m).1 with
      | error r => exact still _ (Host.settle_refused r told).2
      | ok done =>
          obtain ⟨content, mode, file⟩ := extend_granted_file held proper ordinary bytes told
          exact ⟨some (.file (content ++ bytes) mode), trivial, held_extend held proper content bytes mode file told⟩
  | sync =>
      cases told : (listing.answer (.sync (store.temporaryPath id)) m).1 with
      | error r => exact still _ (Host.settle_refused r told).2
      | ok done => exact still _ (granted_sync _ told)
  | remove =>
      cases told : (listing.answer (.remove (store.temporaryPath id)) m).1 with
      | error r => exact still _ (Host.settle_refused r told).2
      | ok done => exact ⟨none, trivial, held_remove held proper (linkless_ordinary ordinary) told⟩
  | isPresent => exact still _ rfl

theorem set_keeps_artifact (shelf : Shelf) (stem : String) (id : UInt64) (node : Option Files.Node) :
    shelf.set (temporaryName stem id) node [.text (artifactName stem id)] = shelf [.text (artifactName stem id)] :=
  Shelf.set_other _ _ _ _ (by simpa using artifact_ne_temporary stem id id)

theorem aside_shut (plain : Stem store.stem) (listing : Listing) {c : Host.Call} (aside : Aside store id c)
    (shut : holding store.home m = none) : Alike m (listing.answer c m).2 ∨ c = .makePath store.directory := by
  have proper := temporary_proper plain id
  obtain ⟨closed, some⟩ := shut_closed shut
  have still (m' : Machine) (same : m' = m) : Alike m m' := same ▸ alike_refl m
  cases aside with
  | look c looks =>
      cases looks with
      | makePath => exact .inr rfl
      | list => exact .inl (alike_refl m)
      | note record => exact .inl (alike_note record)
  | create => exact .inl (still _ (congrArg Prod.snd (closed_create listing closed some proper).choose_spec))
  | extend bytes => exact .inl (still _ (congrArg Prod.snd (closed_extend listing closed some proper bytes).choose_spec))
  | sync =>
      cases told : (listing.answer (.sync (store.temporaryPath id)) m).1 with
      | error r => exact .inl (still _ (Host.settle_refused r told).2)
      | ok done => exact .inl (still _ (granted_sync _ told))
  | remove => exact .inl (still _ (congrArg Prod.snd (closed_remove listing closed some proper).choose_spec))
  | isPresent => exact .inl (alike_refl m)

theorem housed_alike (alike : Alike m m') (housed : Housed store id m) : Housed store id m' := by
  cases housed with
  | opened shelf held artifact temporary => exact .opened shelf ((holding_alike alike).trans held) artifact temporary
  | shut shut made =>
      refine .shut ((holding_alike alike).trans shut) fun t shelf making held => made t shelf ?_ ?_
      · rw [← alike.1, ← alike.2]
        exact making
      · rw [← held]
        exact holding_alike ⟨rfl, alike.2.symm⟩

theorem keeps_alike (alike : Alike m m') : store.keeps name m' = store.keeps name m := by
  unfold Store.keeps
  rw [alike.1, alike.2]

theorem housed_aside (plain : Stem store.stem) (listing : Listing) {c : Host.Call} (housed : Housed store id m)
    (aside : Aside store id c) : Housed store id (listing.answer c m).2 ∧
      store.keeps (artifactName store.stem id) (listing.answer c m).2 = store.keeps (artifactName store.stem id) m := by
  have proper := artifact_proper plain id
  cases housed with
  | opened shelf held artifact temporary =>
      obtain ⟨node, ordinary, held'⟩ := aside_sets plain listing aside held temporary
      have same := set_keeps_artifact shelf store.stem id node
      exact ⟨.opened _ held' (same ▸ artifact) (by rwa [Shelf.set_same]),
        keeps_same held proper held' (linkless_ordinary artifact) same⟩
  | shut shut made =>
      rcases aside_shut plain listing aside shut with alike | rfl
      · exact ⟨housed_alike alike (.shut shut made), keeps_alike alike⟩
      · cases told : (listing.answer (.makePath store.directory) m).1 with
        | error r =>
            obtain ⟨-, same⟩ := Host.settle_refused r told
            have still : (listing.answer (.makePath store.directory) m).2 = m := same
            rw [still]
            exact ⟨.shut shut made, rfl⟩
        | ok done =>
            obtain ⟨t, making, after⟩ := Host.settle_granted told
            obtain ⟨shelf, held⟩ := held_make told
            have now : (listing.answer (.makePath store.directory) m).2 = { m with tree := t } := after
            obtain ⟨artifact, temporary⟩ := made t shelf making (now ▸ held)
            refine ⟨.opened shelf held (artifact ▸ trivial) (temporary ▸ trivial), ?_⟩
            rw [keeps_shut shut proper]
            apply Option.eq_none_iff_forall_ne_some.mpr
            intro bytes keeps
            have holds := ((keeps_held held proper (artifact ▸ trivial) bytes).mp keeps).2
            rw [artifact] at holds
            cases holds

section Machine

variable (plain : Stem store.stem) (housed : Housed store id m)

include plain housed

theorem housed_created (granted : (listing.answer (.create (store.temporaryPath id)) m).1 = .ok ()) :
    store.keeps (temporaryName store.stem id) (listing.answer (.create (store.temporaryPath id)) m).2 = some .empty := by
  have proper := temporary_proper plain id
  cases housed with
  | opened shelf held artifact temporary =>
      have fits := create_fits held proper granted
      obtain ⟨-, device⟩ | ⟨mode, later⟩ := held_create held proper (linkless_ordinary temporary) granted
      · exact absurd device (device_ordinary temporary)
      · exact keeps_file later proper fits (Shelf.set_same _ _ _)
  | shut shut made =>
      obtain ⟨closed, some⟩ := shut_closed shut
      obtain ⟨r, refused⟩ : ∃ r, listing.answer (.create (store.temporaryPath id)) m = (.error r, m) :=
        closed_create listing closed some proper
      rw [refused] at granted
      cases granted

theorem housed_file {content : ByteArray} (keeps : store.keeps (temporaryName store.stem id) m = some content) :
    ∃ shelf mode, holding store.home m = some shelf ∧ Fits store.home (temporaryName store.stem id) ∧
      shelf [.text (temporaryName store.stem id)] = some (.file content mode) := by
  have proper := temporary_proper plain id
  cases housed with
  | opened shelf held artifact temporary =>
      obtain ⟨fits, holds⟩ := (keeps_held held proper (linkless_ordinary temporary) content).mp keeps
      cases node : shelf [.text (temporaryName store.stem id)] with
      | none =>
          rw [node] at holds
          cases holds
      | some n =>
          rw [node] at holds temporary
          cases n with
          | directory => cases holds
          | file own mode =>
              obtain rfl := Option.some.inj holds
              exact ⟨shelf, mode, held, fits, node⟩
          | _ => exact temporary.elim
  | shut shut made =>
      rw [keeps_shut shut proper] at keeps
      cases keeps

theorem housed_extended (bytes content : ByteArray) (keeps : store.keeps (temporaryName store.stem id) m = some content)
    (granted : (listing.answer (.extend (store.temporaryPath id) bytes) m).1 = .ok ()) :
    store.keeps (temporaryName store.stem id) (listing.answer (.extend (store.temporaryPath id) bytes) m).2 =
      some (content ++ bytes) := by
  have proper := temporary_proper plain id
  obtain ⟨shelf, mode, held, fits, file⟩ := housed_file plain housed keeps
  exact keeps_file (held_extend held proper content bytes mode file granted) proper fits (Shelf.set_same _ _ _)

theorem housed_renamed
    (granted : (listing.answer (.rename (store.temporaryPath id) (store.artifactPath id)) m).1 = .ok ()) :
    Housed store id (listing.answer (.rename (store.temporaryPath id) (store.artifactPath id)) m).2 ∧
      store.keeps (artifactName store.stem id) (listing.answer (.rename (store.temporaryPath id) (store.artifactPath id)) m).2 =
        store.keeps (temporaryName store.stem id) m := by
  have proper := temporary_proper plain id
  have properOther := artifact_proper plain id
  have different := (artifact_ne_temporary store.stem id id).symm
  cases housed with
  | opened shelf held artifact temporary =>
      obtain ⟨fits, free, content, mode, file⟩ := rename_granted_file held proper temporary _ properOther different granted
      obtain ⟨fitsOther, later⟩ := held_rename held proper _ properOther different content mode file
        (.inl (blocked_ordinary artifact free)) granted
      have gone : ((shelf.set (temporaryName store.stem id) none).set (artifactName store.stem id) (some (.file content mode)))
          [.text (temporaryName store.stem id)] = none := by
        rw [Shelf.set_other _ _ _ _ (by simpa using different), Shelf.set_same]
      refine ⟨.opened _ later (by rw [Shelf.set_same]; trivial) (by rw [gone]; trivial), ?_⟩
      rw [keeps_file held proper fits file]
      exact keeps_file later properOther fitsOther (Shelf.set_same _ _ _)
  | shut shut made =>
      obtain ⟨closed, some⟩ := shut_closed shut
      obtain ⟨r, refused⟩ : ∃ r, listing.answer (.rename (store.temporaryPath id) (store.artifactPath id)) m = (.error r, m) :=
        closed_rename listing closed some proper _
      rw [refused] at granted
      cases granted

end Machine

theorem sync_same (listing : Listing) (path : String) : (listing.answer (.sync path) m).2 = m := by
  cases told : (listing.answer (.sync path) m).1 with
  | error r => exact (Host.settle_refused r told).2
  | ok done => exact granted_sync path told

def Disk.machine (listing : Listing) (plain : Stem store.stem) (id : UInt64) : Disk store id Machine where
  answer := listing.answer
  artifact := store.keeps (artifactName store.stem id)
  temporary := store.keeps (temporaryName store.stem id)
  Sound := Housed store id
  aside _ _ housed aside := housed_aside plain listing housed aside
  created _ housed granted := housed_created plain housed granted
  extended bytes content _ housed keeps granted := housed_extended plain housed bytes content keeps granted
  synced m _ := by rw [sync_same]
  renamed _ housed granted := housed_renamed plain housed granted
  unrenamed r m housed refused := by
    have same : (listing.answer (.rename (store.temporaryPath id) (store.artifactPath id)) m).2 = m :=
      (Host.settle_refused r refused).2
    rw [same]
    exact ⟨housed, rfl⟩

-- A directory that is not there yet is made without either of the files.
theorem housed_absent (absent : m.tree.Absent m.work store.directory) : Housed store id m := by
  have some := Files.Tree.absent_nonempty absent
  have home : store.home = store.directory := if_neg some
  refine .shut ?_ fun t shelf making held => ?_
  · cases held : holding store.home m with
    | none => rfl
    | some shelf =>
        obtain ⟨place, opens, -⟩ := opens_holding held
        exact absurd (home ▸ opens) (Files.Tree.absent_closed absent place)
  · obtain ⟨place, opens, empty⟩ := Files.Tree.make_absent absent making
    obtain ⟨place', opens', rfl⟩ := opens_holding held
    rw [← home] at opens
    obtain rfl : place' = place := Files.Tree.opens_unique opens opens'
    exact ⟨empty [_] (List.cons_ne_nil _ _), empty [_] (List.cons_ne_nil _ _)⟩

end Overseer.Counter
