import Overseer.Proofs.Counter.Listing
import Overseer.Proofs.Counter.Replacing

set_option autoImplicit false

namespace Overseer.Counter

open Files (Name Path)
open Host (Listing Machine)

variable {store : Store} {listing : Listing} {m : Machine} {place : Files.Location} {shelf : Shelf}

theorem alike_refl (m : Machine) : Alike m m := ⟨rfl, rfl⟩

theorem alike_trans {a b c : Machine} (first : Alike a b) (second : Alike b c) : Alike a c :=
  ⟨second.1.trans first.1, second.2.trans first.2⟩

theorem notes_run (listing : Listing) (level : Level) (text : String → String) (names : List String) (m : Machine) :
    ∃ m', Alike m m' ∧ (names.forM fun name => Host.note level (text name)).run listing.answer m = ((), m') := by
  induction names generalizing m with
  | nil => exact ⟨m, alike_refl m, rfl⟩
  | cons name names ih =>
      obtain ⟨m', alike, run⟩ := ih (m.note ⟨level, text name⟩)
      exact ⟨m', alike_trans (alike_note _) alike, run⟩

def Lists (shelf : Shelf) (names : List Name) : Prop := names.Nodup ∧ ∀ n, n ∈ names ↔ shelf [n] ≠ none

theorem artifacts_run (listing : Listing) (stands : Stands store m place shelf) :
    ∃ names m', Lists shelf names ∧ Alike m m' ∧
      store.artifacts.run listing.answer m = (.ok (sorted store.stem names), m') := by
  obtain ⟨names, told, unique, all⟩ := listed stands listing
  obtain ⟨m', alike, noted⟩ :=
    notes_run listing .trace (fun name => "Ignoring non-counter entry " ++ name) (foreign store.stem names) m
  refine ⟨names, m', ⟨unique, all⟩, alike, ?_⟩
  have whole : listing.answer (.list store.directory) m = (.ok names, m) := Prod.fst_eq_iff.mp told
  simp only [Store.artifacts, Program.bind_eq, Program.run_bind, Host.ask, Program.run_call, whole, noted]
  rfl

theorem artifacts_missing (listing : Listing) (missing : m.tree.list m.work store.directory = .error .missing) :
    store.artifacts.run listing.answer m = (.ok [], m) := by
  have told : listing.answer (.list store.directory) m = (.error .missing, m) := by
    change ((m.tree.list m.work store.directory).map _, m) = _
    rw [missing]
    rfl
  simp only [Store.artifacts, Program.bind_eq, Program.run_bind, Host.ask, Program.run_call, told]
  rfl

theorem read_at_granted (path : String) (bytes : ByteArray) (told : (listing.answer (.read path) m).1 = .ok bytes) :
    (Store.readAt path).run listing.answer m = (countOf path bytes, m) := by
  have whole : listing.answer (.read path) m = (.ok bytes, m) := Prod.fst_eq_iff.mp told
  simp only [Store.readAt, Program.bind_eq, Program.run_bind, Host.ask, Program.run_call, whole]
  rfl

theorem read_at_refused (path : String) (r : Refusal) (told : (listing.answer (.read path) m).1 = .error r) :
    (Store.readAt path).run listing.answer m = (.error (.unreadable path r), m) := by
  have whole : listing.answer (.read path) m = (.error r, m) := Prod.fst_eq_iff.mp told
  simp only [Store.readAt, Program.bind_eq, Program.run_bind, Host.ask, Program.run_call, whole]
  rfl

theorem read_each_run (count : Found → UInt32) (all : List Found)
    (each : ∀ a ∈ all, (Store.readAt (Path.join store.directory a.name)).run listing.answer m = (.ok (count a), m)) :
    (store.readEach all).run listing.answer m = (.ok (all.map fun a => (a.id, count a)), m) := by
  induction all with
  | nil => rfl
  | cons a rest ih =>
      obtain ⟨first, others⟩ := List.forall_mem_cons.mp each
      simp only [Store.readEach, Program.bind_eq, Program.run_bind, first, ih others]
      rfl

def Shelf.Has (shelf : Shelf) (name : String) : Prop := shelf [.text name] ≠ none

theorem lists_highest (stem : String) (names : List Name) (highest : Nat) (lists : Lists shelf names)
    (top : Highest stem shelf.Has highest) : Highest stem (fun name => Name.text name ∈ names) highest where
  bound name id present := top.bound name id ((lists.2 _).mp present)
  reached := top.reached.imp_right fun ⟨name, id, present, rest⟩ => ⟨name, id, (lists.2 _).mpr present, rest⟩

def following (highest : Nat) : Except Failure UInt64 :=
  if highest + 1 < UInt64.size then .ok (UInt64.ofNat (highest + 1)) else .error (.noNumberAfter (UInt64.ofNat highest))

theorem allocate_made (highest : Nat) (m' : Machine) (made : listing.answer (.makePath store.directory) m = (.ok (), m'))
    (stands : Stands store m' place shelf) (top : Highest store.stem shelf.Has highest) :
    ∃ m'', Alike m' m'' ∧ store.allocate.run listing.answer m = (following highest, m'') := by
  obtain ⟨names, m'', lists, alike, found⟩ := artifacts_run listing stands
  have next := next_id store.stem names highest (lists_highest _ names highest lists top)
  simp only [Store.allocate, Program.bind_eq, Program.run_bind, Host.ask, Program.run_call, made, found, next]
  unfold following
  by_cases room : highest + 1 < UInt64.size
  · simp only [room, if_true]
    exact ⟨_, alike_trans alike (alike_note _), rfl⟩
  · simp only [room, if_false]
    exact ⟨m'', alike, rfl⟩

end Overseer.Counter
