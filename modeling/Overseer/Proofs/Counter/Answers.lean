import Overseer.Proofs.Counter.Holding
import Overseer.Proofs.Counter.Looking

set_option autoImplicit false

namespace Overseer.Counter

open Files (Path)
open Host (Listing Machine)

variable {store : Store} {listing : Listing} {m m' : Machine} {place : Files.Location}

def Store.shows (store : Store) (listing : Listing) (m : Machine) : Except Failure (List Found) :=
  match m.tree.list m.work store.directory with
  | .error r => if r = .missing then .ok [] else .error (.unlistable store.directory r)
  | .ok names => .ok (sorted store.stem (listing.order m names))

def countAt (m : Machine) (path : String) : Except Failure UInt32 :=
  match m.tree.read m.work path with
  | .error r => .error (.unreadable path r)
  | .ok bytes => countOf path bytes

def Store.nameAmong (store : Store) (all : List Found) (id : UInt64) : String :=
  match all.find? fun a => a.id == id with
  | some a => a.name
  | none => artifactName store.stem id

theorem count_alike (alike : Alike m m') (path : String) : countAt m' path = countAt m path := by
  obtain ⟨tree, work⟩ := alike
  rw [countAt, countAt, tree, work]

theorem artifacts_answer (store : Store) (listing : Listing) (m : Machine) :
    ∃ m', Alike m m' ∧ store.artifacts.run listing.answer m = (store.shows listing m, m') := by
  have told : listing.answer (.list store.directory) m =
      ((m.tree.list m.work store.directory).map (listing.order m), m) := rfl
  simp only [Store.artifacts, Program.bind_eq, Program.run_bind, Host.ask, Program.run_call, told, Store.shows]
  cases m.tree.list m.work store.directory with
  | error r => exact ⟨m, alike_refl m, rfl⟩
  | ok names =>
      obtain ⟨m', alike, noted⟩ := notes_run listing .trace (fun name => "Ignoring non-counter entry " ++ name)
        (foreign store.stem (listing.order m names)) m
      refine ⟨m', alike, ?_⟩
      change Program.run listing.answer (Program.bind (List.forM _ _) _) m = _
      rw [Program.run_bind, noted]
      rfl

theorem read_at_answer (listing : Listing) (m : Machine) (path : String) :
    (Store.readAt path).run listing.answer m = (countAt m path, m) := by
  unfold countAt
  cases told : m.tree.read m.work path with
  | error r => exact read_at_refused path r told
  | ok bytes => exact read_at_granted path bytes told

theorem read_run (store : Store) (listing : Listing) (m : Machine) (id : UInt64) :
    ∃ m', Alike m m' ∧ (store.read id).run listing.answer m =
      ((store.shows listing m).bind fun all => countAt m (Path.join store.directory (store.nameAmong all id)), m') := by
  obtain ⟨m', alike, found⟩ := artifacts_answer store listing m
  simp only [Store.read, Program.bind_eq, Program.run_bind, found]
  refine ⟨m', alike, ?_⟩
  cases store.shows listing m with
  | error f => rfl
  | ok all =>
      simp only [Except.bind, Store.nameAmong]
      rw [← count_alike alike]
      cases all.find? fun a => a.id == id with
      | none => exact read_at_answer listing m' _
      | some a => exact read_at_answer listing m' _

theorem read_answer (store : Store) (listing : Listing) (m : Machine) (id : UInt64) :
    ((store.read id).run listing.answer m).1 =
      (store.shows listing m).bind fun all => countAt m (Path.join store.directory (store.nameAmong all id)) := by
  obtain ⟨m', -, told⟩ := read_run store listing m id
  rw [told]

theorem read_each_answer (store : Store) (listing : Listing) (m : Machine) (all : List Found) :
    (store.readEach all).run listing.answer m =
      (all.mapM fun a => (countAt m (Path.join store.directory a.name)).map (a.id, ·), m) := by
  induction all with
  | nil => rfl
  | cons a rest ih =>
      simp only [Store.readEach, Program.bind_eq, Program.run_bind, read_at_answer, List.mapM_cons]
      cases countAt m (Path.join store.directory a.name) with
      | error f => rfl
      | ok count =>
          simp only [Program.run_bind, ih]
          cases rest.mapM fun a => (countAt m (Path.join store.directory a.name)).map (a.id, ·) with
          | error f => rfl
          | ok counts => rfl

theorem list_run (store : Store) (listing : Listing) (m : Machine) :
    ∃ m', Alike m m' ∧ store.list.run listing.answer m = ((store.shows listing m).bind fun all =>
      all.mapM fun a => (countAt m (Path.join store.directory a.name)).map (a.id, ·), m') := by
  obtain ⟨m', alike, found⟩ := artifacts_answer store listing m
  simp only [Store.list, Program.bind_eq, Program.run_bind, found]
  refine ⟨m', alike, ?_⟩
  cases store.shows listing m with
  | error f => rfl
  | ok all =>
      simp only [Except.bind, read_each_answer, count_alike alike]

theorem list_answer (store : Store) (listing : Listing) (m : Machine) :
    (store.list.run listing.answer m).1 = (store.shows listing m).bind fun all =>
      all.mapM fun a => (countAt m (Path.join store.directory a.name)).map (a.id, ·) := by
  obtain ⟨m', -, told⟩ := list_run store listing m
  rw [told]

theorem allocate_answer (store : Store) (listing : Listing) (m : Machine) :
    match m.tree.makePath m.work store.directory with
    | .error r => store.allocate.run listing.answer m = (.error (.uncreatable store.directory r), m)
    | .ok t => ∃ m', Alike { m with tree := t } m' ∧
        store.allocate.run listing.answer m = ((store.shows listing { m with tree := t }).bind nextId, m') := by
  have told : listing.answer (.makePath store.directory) m = m.settle (m.tree.makePath m.work store.directory) := rfl
  simp only [Store.allocate, Program.bind_eq, Program.run_bind, Host.ask, Program.run_call, told]
  cases m.tree.makePath m.work store.directory with
  | error r => rfl
  | ok t =>
      obtain ⟨m', alike, found⟩ := artifacts_answer store listing { m with tree := t }
      simp only [Machine.settle, Program.run_bind, found]
      cases store.shows listing { m with tree := t } with
      | error f => exact ⟨m', alike, rfl⟩
      | ok all =>
          simp only [Except.bind]
          cases nextId all with
          | error f => exact ⟨m', alike, rfl⟩
          | ok id => exact ⟨_, alike_trans alike (alike_note _), rfl⟩

theorem allocate_there (listing : Listing) (made : m.tree.makePath m.work store.directory = .ok m.tree) :
    ∃ m', Alike m m' ∧ store.allocate.run listing.answer m = ((store.shows listing m).bind nextId, m') := by
  have answered := allocate_answer store listing m
  rw [made] at answered
  exact answered

theorem allocate_still (made : m.tree.makePath m.work store.directory = .ok m.tree) :
    (store.allocate.run listing.answer m).1 = (store.shows listing m).bind nextId := by
  obtain ⟨m', -, told⟩ := allocate_there listing made
  rw [told]

theorem shows_home (listing : Listing) (opens : m.tree.Opens m.work store.home place) :
    store.shows listing m =
      .ok (if store.directory = "" then [] else sorted store.stem (listing.order m (m.tree.names place))) := by
  unfold Store.home at opens
  unfold Store.shows
  by_cases empty : store.directory = ""
  · rw [if_pos empty, empty]
    rfl
  · rw [if_neg empty] at opens ⊢
    rw [Files.Tree.list_opens opens]

-- The count in an entry depends on the way to the directory and on the entry alone.
theorem count_same {name : String} (opens : m.tree.Opens m.work store.home place) (work : m'.work = m.work)
    (opens' : m'.tree.Opens m'.work store.home place) (proper : Files.Proper name)
    (ordinary : Files.Tree.Ordinary (m.tree.node? (.text name :: place)))
    (same : m'.tree.node? (.text name :: place) = m.tree.node? (.text name :: place)) :
    countAt m' (Path.join store.directory name) = countAt m (Path.join store.directory name) := by
  unfold countAt
  rw [home_same store m' proper (m'.tree.read m'.work) fun _ _ => Files.Tree.read_resolved,
    home_same store m proper (m.tree.read m.work) fun _ _ => Files.Tree.read_resolved]
  rw [work] at opens' ⊢
  rw [Files.Tree.read_same opens opens' proper ordinary same]

theorem count_entry {name : String} (opens : m.tree.Opens m.work store.home place) (proper : Files.Proper name)
    (fits : Files.Fits store.home name) (bytes : ByteArray) (mode : Nat)
    (file : m.tree.node? (.text name :: place) = some (.file bytes mode)) :
    countAt m (Path.join store.directory name) = countOf (Path.join store.directory name) bytes := by
  unfold countAt
  rw [home_same store m proper (m.tree.read m.work) fun _ _ => Files.Tree.read_resolved,
    Files.Tree.read_entry opens proper fits bytes mode file]

theorem shows_named {all : List Found} (shown : store.shows listing m = .ok all) (a : Found) (member : a ∈ all) :
    ordinal? store.stem a.name = some a.id := by
  unfold Store.shows at shown
  split at shown
  · split at shown
    · obtain rfl := Except.ok.inj shown
      cases member
    · cases shown
  · obtain rfl := Except.ok.inj shown
    exact ((mem_sorted _ _ a).mp member).2

theorem name_among_ordinal {all : List Found} (shown : store.shows listing m = .ok all) (id : UInt64) :
    ordinal? store.stem (store.nameAmong all id) = some id := by
  unfold Store.nameAmong
  cases first : all.find? fun a => a.id == id with
  | none => exact ordinal_artifact store.stem id
  | some a =>
      have own : a.id = id := by simpa using List.find?_some first
      exact own ▸ shows_named shown a (List.mem_of_find?_eq_some first)

section Same

variable (shown : store.shows listing m' = store.shows listing m)
  (counts : ∀ name id, ordinal? store.stem name = some id →
    countAt m' (Path.join store.directory name) = countAt m (Path.join store.directory name))

include shown counts

-- Where the artifacts are the same and hold the same counts, so do the answers.
theorem read_alike (id : UInt64) : ((store.read id).run listing.answer m').1 = ((store.read id).run listing.answer m).1 := by
  rw [read_answer, read_answer, shown]
  cases known : store.shows listing m with
  | error f => rfl
  | ok all => exact counts _ id (name_among_ordinal known id)

theorem list_alike : (store.list.run listing.answer m').1 = (store.list.run listing.answer m).1 := by
  rw [list_answer, list_answer, shown]
  cases known : store.shows listing m with
  | error f => rfl
  | ok all =>
      have named := shows_named known
      clear known shown
      simp only [Except.bind]
      induction all with
      | nil => rfl
      | cons a rest ih =>
          obtain ⟨own, others⟩ := List.forall_mem_cons.mp named
          rw [List.mapM_cons, List.mapM_cons, counts _ _ own, ih others]

end Same

end Overseer.Counter
