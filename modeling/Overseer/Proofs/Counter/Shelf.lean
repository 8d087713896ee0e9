import Overseer.Counter.Store
import Overseer.Host.Machine
import Overseer.Proofs.Counter.Names
import Overseer.Proofs.Files.Home

set_option autoImplicit false

namespace Overseer

namespace Host

-- The order in which a machine lists a directory is its own affair.
structure Listing where
  order : Machine → List Files.Name → List Files.Name
  perm : ∀ m names, (order m names).Perm names

def Listing.answer (listing : Listing) : (c : Call) → Machine → Answer c × Machine
  | .list path, m => ((m.tree.list m.work path).map (listing.order m), m)
  | c, m => m.answer Machine.noPrograms c

def Listing.plain : Listing := ⟨fun _ names => names, fun _ names => List.Perm.refl names⟩

theorem settle_granted {m : Machine} {r : Except Refusal Files.Tree} (granted : (m.settle r).1 = .ok ()) :
    ∃ t, r = .ok t ∧ (m.settle r).2 = { m with tree := t } := by
  cases r with
  | error refusal => cases granted
  | ok t => exact ⟨t, rfl, rfl⟩

theorem settle_refused {m : Machine} {r : Except Refusal Files.Tree} (refusal : Refusal)
    (refused : (m.settle r).1 = .error refusal) : r = .error refusal ∧ (m.settle r).2 = m := by
  cases r with
  | error other =>
      obtain rfl := Except.error.inj refused
      exact ⟨rfl, rfl⟩
  | ok t => cases refused

end Host

namespace Counter

open Files (Fits Name Node Path Proper)
open Files.Tree (Blocked IsDevice Linkless Ordinary linkless_blocked linkless_ordinary device_ordinary)
open Host (Listing Machine)

theorem counters_proper : Proper "counters" := ⟨by decide, by decide, by decide, by decide, by decide⟩

theorem counters_absent : Machine.fresh.tree.Absent Machine.fresh.work "counters" ∧
    ∃ t, Machine.fresh.tree.makePath Machine.fresh.work "counters" = .ok t :=
  Files.Tree.absent_name Files.Tree.sound_empty rfl "counters" counters_proper (by decide) (by decide) rfl

theorem failures_stem : Stem "failures_" := ⟨by decide, by decide⟩

-- What is below a directory, by the way to it from there.
abbrev Shelf := Files.Location → Option Node

namespace Shelf

def bare : Shelf := fun _ => none

def set (shelf : Shelf) (name : String) (node : Option Node) : Shelf :=
  fun q => if q = [.text name] then node else shelf q

variable (shelf : Shelf) (name other : String) (node : Option Node)

@[simp] theorem set_same : shelf.set name node [.text name] = node := if_pos rfl

theorem set_other (q : Files.Location) (different : q ≠ [.text name]) : shelf.set name node q = shelf q :=
  if_neg different

end Shelf

-- The directory is at this place, no name is in it twice, and this is what is below it.
structure Stands (store : Store) (m : Machine) (place : Files.Location) (shelf : Shelf) : Prop where
  opens : m.tree.Opens m.work store.directory place
  unique : (m.tree.names place).Nodup
  holds : ∀ q, q ≠ [] → m.tree.node? (q ++ place) = shelf q

theorem Stands.entry {store : Store} {m : Machine} {place : Files.Location} {shelf : Shelf}
    (stands : Stands store m place shelf) (n : Name) : m.tree.node? (n :: place) = shelf [n] :=
  stands.holds [n] (List.cons_ne_nil n [])

variable {store : Store} {listing : Listing} {m : Machine} {place : Files.Location} {shelf : Shelf} {name : String}

theorem way_to (n : Name) (q : Files.Location) : q ++ place = n :: place ↔ q = [n] :=
  List.append_cancel_right_eq q place [n] ▸ Iff.rfl

theorem stands_put (stands : Stands store m place shelf) (blocked : Blocked (shelf [.text name])) (node : Node) :
    Stands store { m with tree := m.tree.put (.text name :: place) node } place (shelf.set name (some node)) where
  opens := Files.Tree.opens_put stands.opens _ _ node (stands.entry _ ▸ blocked)
  unique := by
    change ((m.tree.put (.text name :: place) node).names place).Nodup
    rw [Files.Tree.names_put, List.nodup_cons]
    exact ⟨by simp, stands.unique.filter _⟩
  holds q below := by
    change (m.tree.put (.text name :: place) node).node? (q ++ place) = _
    rw [Files.Tree.node_put, stands.holds q below, Shelf.set]
    simp only [way_to]

theorem stands_erase (stands : Stands store m place shelf) (blocked : Blocked (shelf [.text name])) :
    Stands store { m with tree := m.tree.erase (.text name :: place) } place (shelf.set name none) where
  opens := Files.Tree.opens_erase stands.opens _ _ (stands.entry _ ▸ blocked)
  unique := by
    change ((m.tree.erase (.text name :: place)).names place).Nodup
    rw [Files.Tree.names_erase]
    exact stands.unique.filter _
  holds q below := by
    change (m.tree.erase (.text name :: place)).node? (q ++ place) = _
    rw [Files.Tree.node_erase, stands.holds q below, Shelf.set]
    simp only [way_to]

section Granted

variable (stands : Stands store m place shelf)

include stands

theorem created_or_device (proper : Proper name) (linkless : Linkless (shelf [.text name]))
    (granted : (listing.answer (.create (Path.join store.directory name)) m).1 = .ok ()) :
    (listing.answer (.create (Path.join store.directory name)) m).2 = m ∧ IsDevice (shelf [.text name]) ∨
      ∃ mode, Stands store (listing.answer (.create (Path.join store.directory name)) m).2 place
        (shelf.set name (some (.file ByteArray.empty mode))) := by
  obtain ⟨t, created, after⟩ := Host.settle_granted granted
  have same := stands.entry (.text name)
  change (m.settle _).2 = m ∧ _ ∨ ∃ mode, Stands store (m.settle _).2 place _
  rw [after]
  rcases Files.Tree.create_linkless stands.opens proper (same ▸ linkless) created with ⟨rfl, device⟩ | ⟨blocked, mode, rfl⟩
  · exact .inl ⟨rfl, same ▸ device⟩
  · exact .inr ⟨mode, stands_put stands (same ▸ blocked) _⟩

theorem granted_create (proper : Proper name) (ordinary : Ordinary (shelf [.text name]))
    (granted : (listing.answer (.create (Path.join store.directory name)) m).1 = .ok ()) :
    ∃ mode, Stands store (listing.answer (.create (Path.join store.directory name)) m).2 place
      (shelf.set name (some (.file ByteArray.empty mode))) :=
  (created_or_device stands proper (linkless_ordinary ordinary) granted).resolve_left fun ⟨_, device⟩ =>
    device_ordinary ordinary device

theorem granted_extend (proper : Proper name) (content bytes : ByteArray) (mode : Nat)
    (file : shelf [.text name] = some (.file content mode))
    (granted : (listing.answer (.extend (Path.join store.directory name) bytes) m).1 = .ok ()) :
    Stands store (listing.answer (.extend (Path.join store.directory name) bytes) m).2 place
      (shelf.set name (some (.file (content ++ bytes) mode))) := by
  obtain ⟨t, extended, after⟩ := Host.settle_granted granted
  have same := stands.entry (.text name)
  obtain rfl := Files.Tree.extend_granted stands.opens proper content bytes mode (same.trans file) extended
  change Stands store (m.settle _).2 place _
  rw [after]
  exact stands_put stands (file ▸ trivial) _

omit stands in
theorem granted_sync (path : String) (granted : (listing.answer (.sync path) m).1 = .ok ()) :
    (listing.answer (.sync path) m).2 = m := by
  obtain ⟨t, synced, after⟩ := Host.settle_granted granted
  obtain rfl := Files.Tree.sync_granted path synced
  exact after

theorem device_extended (proper : Proper name) (device : IsDevice (shelf [.text name])) (bytes : ByteArray)
    (granted : (listing.answer (.extend (Path.join store.directory name) bytes) m).1 = .ok ()) :
    (listing.answer (.extend (Path.join store.directory name) bytes) m).2 = m := by
  obtain ⟨t, extended, after⟩ := Host.settle_granted granted
  obtain rfl := Files.Tree.extend_device stands.opens proper (stands.entry _ ▸ device) bytes extended
  exact after

theorem device_unsynced (proper : Proper name) (device : IsDevice (shelf [.text name])) :
    (listing.answer (.sync (Path.join store.directory name)) m).1 ≠ .ok () := by
  intro granted
  obtain ⟨t, synced, -⟩ := Host.settle_granted granted
  exact Files.Tree.sync_device stands.opens proper (stands.entry _ ▸ device) synced

theorem granted_rename (other : String) (proper : Proper name) (properOther : Proper other) (different : name ≠ other)
    (content : ByteArray) (mode : Nat) (file : shelf [.text name] = some (.file content mode))
    (linkless : Linkless (shelf [.text other]))
    (granted : (listing.answer (.rename (Path.join store.directory name) (Path.join store.directory other)) m).1 = .ok ()) :
    Stands store (listing.answer (.rename (Path.join store.directory name) (Path.join store.directory other)) m).2 place
      ((shelf.set name none).set other (some (.file content mode))) := by
  obtain ⟨t, renamed, after⟩ := Host.settle_granted granted
  have same := stands.entry (.text other)
  obtain ⟨-, free, rfl⟩ := Files.Tree.rename_over other stands.opens proper properOther different content mode
    ((stands.entry _).trans file) renamed
  change Stands store (m.settle _).2 place _
  rw [after]
  have erased : Stands store { m with tree := m.tree.erase (.text name :: place) } place (shelf.set name none) :=
    stands_erase stands (file ▸ trivial)
  apply stands_put erased
  rw [Shelf.set_other _ _ _ _ (by simpa using Ne.symm different)]
  exact linkless_blocked linkless (same ▸ free)

theorem granted_remove (proper : Proper name) (linkless : Linkless (shelf [.text name]))
    (granted : (listing.answer (.remove (Path.join store.directory name)) m).1 = .ok ()) :
    Stands store (listing.answer (.remove (Path.join store.directory name)) m).2 place (shelf.set name none) := by
  obtain ⟨t, removed, after⟩ := Host.settle_granted granted
  have same := stands.entry (.text name)
  obtain ⟨free, rfl⟩ := Files.Tree.remove_granted stands.opens proper removed
  change Stands store (m.settle _).2 place _
  rw [after]
  exact stands_erase stands (linkless_blocked linkless (same ▸ free))

theorem granted_read (proper : Proper name) (ordinary : Ordinary (shelf [.text name])) (bytes : ByteArray)
    (granted : (listing.answer (.read (Path.join store.directory name)) m).1 = .ok bytes) :
    ∃ mode, shelf [.text name] = some (.file bytes mode) := by
  have same := stands.entry (.text name)
  obtain ⟨mode, file⟩ := Files.Tree.read_granted stands.opens proper (same ▸ ordinary) bytes granted
  exact ⟨mode, same.symm.trans file⟩

theorem listed (listing : Listing) : ∃ names, (listing.answer (.list store.directory) m).1 = .ok names ∧ names.Nodup ∧
    ∀ n, n ∈ names ↔ shelf [n] ≠ none := by
  have order := listing.perm m (m.tree.names place)
  refine ⟨listing.order m (m.tree.names place), ?_, order.symm.nodup stands.unique, fun n => ?_⟩
  · change (m.tree.list m.work store.directory).map _ = _
    rw [Files.Tree.list_opens stands.opens]
    rfl
  · rw [order.mem_iff, Files.Tree.mem_names, stands.entry]

theorem granted_make : listing.answer (.makePath store.directory) m = (.ok (), m) := by
  change m.settle (m.tree.makePath m.work store.directory) = _
  rw [Files.Tree.make_opens stands.opens]
  rfl

end Granted

theorem granted_absent (absent : m.tree.Absent m.work store.directory)
    (granted : (listing.answer (.makePath store.directory) m).1 = .ok ()) :
    ∃ place, Stands store (listing.answer (.makePath store.directory) m).2 place Shelf.bare := by
  obtain ⟨t, made, after⟩ := Host.settle_granted granted
  obtain ⟨place, opens, empty⟩ := Files.Tree.make_absent absent made
  refine ⟨place, ?_⟩
  change Stands store (m.settle _).2 place _
  rw [after]
  refine ⟨opens, ?_, empty⟩
  have none (n : Name) : n ∉ t.names place := fun member =>
    (Files.Tree.mem_names n place).mp member (empty [n] (List.cons_ne_nil n []))
  change (t.names place).Nodup
  rw [List.eq_nil_iff_forall_not_mem.mpr none]
  exact List.nodup_nil

theorem made_absent (listing : Listing) (absent : m.tree.Absent m.work store.directory)
    (makable : ∃ t, m.tree.makePath m.work store.directory = .ok t) :
    ∃ m' place, listing.answer (.makePath store.directory) m = (.ok (), m') ∧ Stands store m' place Shelf.bare := by
  obtain ⟨t, made⟩ := makable
  have granted : listing.answer (.makePath store.directory) m = (.ok (), { m with tree := t }) := by
    change m.settle _ = _
    rw [made]
    rfl
  obtain ⟨place, stands⟩ := granted_absent absent (congrArg Prod.fst granted)
  rw [granted] at stands
  exact ⟨_, place, granted, stands⟩

section Ready

variable (listing) (stands : Stands store m place shelf) (proper : Proper name) (fits : Fits store.directory name)

include stands proper fits

theorem ready_create (ordinary : Ordinary (shelf [.text name])) (free : shelf [.text name] ≠ some .directory) :
    (listing.answer (.create (Path.join store.directory name)) m).1 = .ok () := by
  rw [← stands.entry] at ordinary free
  obtain ⟨mode, created⟩ := Files.Tree.create_entry stands.opens proper fits ordinary free
  change (m.settle (m.tree.create m.work _)).1 = _
  rw [created]
  rfl

theorem ready_extend (content bytes : ByteArray) (mode : Nat) (file : shelf [.text name] = some (.file content mode)) :
    (listing.answer (.extend (Path.join store.directory name) bytes) m).1 = .ok () := by
  rw [← stands.entry] at file
  change (m.settle (m.tree.extend m.work _ bytes)).1 = _
  rw [Files.Tree.extend_entry stands.opens proper fits content bytes mode file]
  rfl

theorem ready_sync (content : ByteArray) (mode : Nat) (file : shelf [.text name] = some (.file content mode)) :
    (listing.answer (.sync (Path.join store.directory name)) m).1 = .ok () := by
  rw [← stands.entry] at file
  change (m.settle (m.tree.sync m.work _)).1 = _
  rw [Files.Tree.sync_entry stands.opens proper fits content mode file]
  rfl

theorem ready_rename (other : String) (properOther : Proper other) (fitsOther : Fits store.directory other)
    (different : name ≠ other) (content : ByteArray) (mode : Nat) (file : shelf [.text name] = some (.file content mode))
    (ordinary : Ordinary (shelf [.text other])) (free : shelf [.text other] ≠ some .directory) :
    (listing.answer (.rename (Path.join store.directory name) (Path.join store.directory other)) m).1 = .ok () := by
  rw [← stands.entry] at file ordinary free
  change (m.settle (m.tree.rename m.work _ _)).1 = _
  rw [Files.Tree.rename_entry other stands.opens proper properOther fits fitsOther different content mode file ordinary free]
  rfl

theorem ready_read (content : ByteArray) (mode : Nat) (file : shelf [.text name] = some (.file content mode)) :
    (listing.answer (.read (Path.join store.directory name)) m).1 = .ok content := by
  rw [← stands.entry] at file
  exact Files.Tree.read_entry stands.opens proper fits content mode file

end Ready

section Closed

variable (listing) (closed : ∀ place, ¬m.tree.Opens m.work store.directory place) (some : store.directory ≠ "")
  (proper : Proper name)

include closed some proper

theorem closed_find (follow : Bool) : ∃ r, m.tree.find m.work follow (Path.join store.directory name) = .error r := by
  cases found : m.tree.find m.work follow (Path.join store.directory name) with
  | error r => exact ⟨r, rfl⟩
  | ok spot =>
      obtain ⟨-, place, opens⟩ := Files.Tree.found_entry follow some proper spot found
      exact absurd opens (closed place)

theorem closed_writing : ∃ r, m.tree.findForWriting m.work (Path.join store.directory name) = .error r := by
  obtain ⟨r, unfound⟩ := closed_find closed some proper true
  cases found : m.tree.findForWriting m.work (Path.join store.directory name) with
  | error r => exact ⟨r, rfl⟩
  | ok spot =>
      rw [Files.Tree.writing_found _ spot found] at unfound
      cases unfound

theorem closed_create : ∃ r, listing.answer (.create (Path.join store.directory name)) m = (.error r, m) := by
  obtain ⟨r, unfound⟩ := closed_writing closed some proper
  change ∃ r, m.settle (m.tree.create m.work _) = _
  unfold Files.Tree.create
  rw [unfound]
  exact ⟨r, rfl⟩

theorem closed_extend (bytes : ByteArray) :
    ∃ r, listing.answer (.extend (Path.join store.directory name) bytes) m = (.error r, m) := by
  obtain ⟨r, unfound⟩ := closed_writing closed some proper
  change ∃ r, m.settle (m.tree.extend m.work _ bytes) = _
  unfold Files.Tree.extend
  rw [unfound]
  exact ⟨r, rfl⟩

theorem closed_rename (target : String) :
    ∃ r, listing.answer (.rename (Path.join store.directory name) target) m = (.error r, m) := by
  obtain ⟨r, unfound⟩ := closed_find closed some proper false
  change ∃ r, m.settle (m.tree.rename m.work _ target) = _
  unfold Files.Tree.rename
  rw [unfound]
  exact ⟨r, rfl⟩

theorem closed_remove : ∃ r, listing.answer (.remove (Path.join store.directory name)) m = (.error r, m) := by
  obtain ⟨r, unfound⟩ := closed_find closed some proper false
  change ∃ r, m.settle (m.tree.remove m.work _) = _
  unfold Files.Tree.remove
  rw [unfound]
  exact ⟨r, rfl⟩

theorem closed_read : ∃ r, listing.answer (.read (Path.join store.directory name)) m = (.error r, m) := by
  obtain ⟨r, unfound⟩ := closed_find closed some proper true
  refine ⟨r, ?_⟩
  change (m.tree.read m.work _, m) = _
  unfold Files.Tree.read
  rw [unfound]

end Closed

end Counter

end Overseer
