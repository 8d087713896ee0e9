import Mathlib
import Overseer.Proofs.Counter.Looking
import Overseer.Proofs.Counter.Request
import Overseer.Proofs.Program.Parting

set_option autoImplicit false

namespace Overseer.Counter

open Files (Fits Name Node Path)
open Files.Tree (Ordinary)
open Host (Listing Machine)
open Text (Numeral.word32)

structure Register where
  made : Bool
  counts : Std.TreeMap UInt64 UInt32

namespace Register

def fresh : Register := ⟨false, ∅⟩

def next (register : Register) : Except Fault.Kind UInt64 :=
  match register.counts.maxKey? with
  | none => .ok 1
  | some last => if last = 18446744073709551615 then .error .storage else .ok (last + 1)

def write (register : Register) (id : UInt64) (count : UInt32) : Except Fault.Kind Unit × Register :=
  if register.made then (.ok (), { register with counts := register.counts.insert id count })
  else (.error .storage, register)

def read (register : Register) (id : UInt64) : Except Fault.Kind UInt32 :=
  match register.counts[id]? with
  | none => .error .storage
  | some count => .ok count

def serve : (r : Request) → Register → Reply Fault.Kind r × Register
  | .allocate, register => (register.next, { register with made := true })
  | .begin id, register => register.write id 0
  | .update id count, register => register.write id count
  | .read id, register => (register.read id, register)
  | .list, register => (.ok register.counts.toList, register)

end Register

def Store.respond (store : Store) (listing : Listing) (r : Request) (m : Machine) : Reply Fault.Kind r × Machine :=
  let ended := (store.serve r).run listing.answer m
  (Reply.mapFailure (fun f => f.fault.kind) r ended.1, ended.2)

-- Each artifact holds the count that the register has for its session, and nothing else is in the directory.
structure Mirrored (stem : String) (shelf : Shelf) (counts : Std.TreeMap UInt64 UInt32) : Prop where
  held : ∀ id count, counts[id]? = some count →
    ∃ mode, shelf [.text (artifactName stem id)] = some (.file (Numeral.word32 count).toUTF8 mode)
  only : ∀ n, shelf [n] ≠ none → ∃ id ∈ counts, n = .text (artifactName stem id)

inductive Mirrors (store : Store) (m : Machine) : Register → Prop where
  | unmade (absent : m.tree.Absent m.work store.directory)
      (makable : ∃ t, m.tree.makePath m.work store.directory = .ok t) : Mirrors store m .fresh
  | made {place : Files.Location} {shelf : Shelf} {counts : Std.TreeMap UInt64 UInt32}
      (stands : Stands store m place shelf) (mirrored : Mirrored store.stem shelf counts) : Mirrors store m ⟨true, counts⟩

section Mirrored

variable {stem : String} {shelf : Shelf} {counts : Std.TreeMap UInt64 UInt32}

theorem mirrored_bare : Mirrored stem Shelf.bare ∅ where
  held id count found := by simp at found
  only n taken := absurd rfl taken

variable (mirrored : Mirrored stem shelf counts)

include mirrored

theorem mirrored_has (name : String) : shelf.Has name ↔ ∃ id ∈ counts, name = artifactName stem id := by
  constructor
  · intro taken
    obtain ⟨id, member, same⟩ := mirrored.only _ taken
    exact ⟨id, member, Name.text.inj same⟩
  · rintro ⟨id, member, rfl⟩
    obtain ⟨count, found⟩ := Option.isSome_iff_exists.mp (Std.TreeMap.mem_iff_isSome_getElem?.mp member)
    obtain ⟨mode, file⟩ := mirrored.held id count found
    rw [Shelf.Has, file]
    exact Option.some_ne_none _

theorem mirrored_file (n : Name) : shelf [n] = none ∨ ∃ bytes mode, shelf [n] = some (.file bytes mode) := by
  cases node : shelf [n] with
  | none => exact .inl rfl
  | some held =>
      obtain ⟨id, member, rfl⟩ := mirrored.only n (by simp [node])
      obtain ⟨count, found⟩ := Option.isSome_iff_exists.mp (Std.TreeMap.mem_iff_isSome_getElem?.mp member)
      obtain ⟨mode, file⟩ := mirrored.held id count found
      exact .inr ⟨_, mode, node.symm.trans file⟩

theorem mirrored_ordinary (n : Name) : Ordinary (shelf [n]) ∧ shelf [n] ≠ some .directory := by
  rcases mirrored_file mirrored n with nothing | ⟨bytes, mode, file⟩
  · simp [nothing, Ordinary]
  · simp [file, Ordinary]

theorem mirrored_filed (id : UInt64) (count : UInt32) (mode : Nat) :
    Mirrored stem (shelf.filed stem id (Numeral.word32 count).toUTF8 mode) (counts.insert id count) where
  held own held found := by
    simp only [Std.TreeMap.getElem?_insert, Std.LawfulEqCmp.compare_eq_iff_eq] at found
    by_cases same : id = own
    · subst same
      rw [if_pos rfl, Option.some.injEq] at found
      exact ⟨mode, found ▸ Shelf.filed_artifact _ _ _⟩
    · rw [if_neg same] at found
      obtain ⟨kept, file⟩ := mirrored.held own held found
      refine ⟨kept, ?_⟩
      rw [Shelf.filed_other, file]
      · simpa using fun equal => same (artifact_injective stem _ _ equal).symm
      · simpa using artifact_ne_temporary stem own id
  only n taken := by
    by_cases artifact : n = .text (artifactName stem id)
    · exact ⟨id, by simp, artifact⟩
    · by_cases temporary : n = .text (temporaryName stem id)
      · rw [temporary, Shelf.filed_temporary] at taken
        exact absurd rfl taken
      · rw [Shelf.filed_other _ _ _ [n] (by simpa using artifact) (by simpa using temporary)] at taken
        obtain ⟨own, member, same⟩ := mirrored.only n taken
        exact ⟨own, Std.TreeMap.mem_insert.mpr (.inr member), same⟩

def Register.highest (counts : Std.TreeMap UInt64 UInt32) : Nat :=
  match counts.maxKey? with
  | none => 0
  | some last => last.toNat

theorem mirrored_highest : Highest stem shelf.Has (Register.highest counts) := by
  have numbered (name : String) (id : UInt64) (taken : shelf.Has name) (own : ordinal? stem name = some id) :
      id ∈ counts := by
    obtain ⟨other, member, rfl⟩ := (mirrored_has mirrored name).mp taken
    rw [ordinal_artifact, Option.some.injEq] at own
    exact own ▸ member
  unfold Register.highest
  cases top : counts.maxKey? with
  | none =>
      have empty := Std.TreeMap.isEmpty_iff_forall_not_mem.mp (Std.TreeMap.maxKey?_eq_none_iff.mp top)
      exact ⟨fun name id taken own => absurd (numbered name id taken own) (empty id), .inl rfl⟩
  | some last =>
      obtain ⟨member, above⟩ := Std.TreeMap.maxKey?_eq_some_iff_mem_and_forall.mp top
      refine ⟨fun name id taken own => ?_, .inr ⟨artifactName stem last, last, ?_, ordinal_artifact _ _, rfl⟩⟩
      · exact UInt64.le_iff_toNat_le.mp (Std.isLE_compare.mp (above id (numbered name id taken own)))
      · exact (mirrored_has mirrored _).mpr ⟨last, member, rfl⟩

theorem mirrored_found (names : List Name) (lists : Lists shelf names) (a : Found) :
    a ∈ sorted stem names ↔ a.id ∈ counts ∧ a.name = artifactName stem a.id := by
  rw [mem_sorted, lists.2]
  change shelf.Has a.name ∧ _ ↔ _
  rw [mirrored_has mirrored]
  constructor
  · rintro ⟨⟨id, member, named⟩, own⟩
    rw [named, ordinal_artifact, Option.some.injEq] at own
    exact ⟨own ▸ member, own ▸ named⟩
  · rintro ⟨member, named⟩
    exact ⟨⟨a.id, member, named⟩, named ▸ ordinal_artifact stem a.id⟩

theorem mirrored_ascending (names : List Name) (lists : Lists shelf names) :
    (sorted stem names).Pairwise fun a b => a.id < b.id := by
  have different := (sorted_ordered stem names).and (sorted_nodup stem names lists.1)
  refine different.imp_of_mem fun {a b} first second ⟨ordered, apart⟩ => ?_
  rcases ordered with less | ⟨same, -⟩
  · exact less
  · obtain ⟨-, named⟩ := (mirrored_found mirrored names lists a).mp first
    obtain ⟨-, called⟩ := (mirrored_found mirrored names lists b).mp second
    have equal : a = b := by
      cases a
      cases b
      simp_all
    exact absurd equal apart

theorem mirrored_bindings (names : List Name) (lists : Lists shelf names) :
    ((sorted stem names).map fun a => (a.id, counts.getD a.id 0)) = counts.toList := by
  have less (a b : UInt64 × UInt32) (before : a.1 < b.1) : a ≠ b := by
    rintro rfl
    exact UInt64.lt_irrefl _ before
  have left : ((sorted stem names).map fun a => (a.id, counts.getD a.id 0)).Pairwise fun a b => a.1 < b.1 :=
    List.pairwise_map.mpr (mirrored_ascending mirrored names lists)
  have right : counts.toList.Pairwise fun a b => a.1 < b.1 :=
    Std.TreeMap.ordered_keys_toList.imp fun before => Std.compare_eq_lt.mp before
  apply List.Perm.eq_of_pairwise _ left right
  · rw [List.perm_ext_iff_of_nodup (left.imp (less _ _)) (right.imp (less _ _))]
    rintro ⟨id, count⟩
    rw [Std.TreeMap.mem_toList_iff_getElem?_eq_some, List.mem_map]
    constructor
    · rintro ⟨a, member, same⟩
      obtain ⟨inside, -⟩ := (mirrored_found mirrored names lists a).mp member
      obtain ⟨rfl, rfl⟩ := Prod.mk.inj same
      exact Std.TreeMap.getElem?_eq_some_getD inside
    · intro found
      have inside : id ∈ counts := Std.TreeMap.mem_iff_isSome_getElem?.mpr (by simp [found])
      refine ⟨⟨id, artifactName stem id⟩, (mirrored_found mirrored names lists _).mpr ⟨inside, rfl⟩, ?_⟩
      rw [Std.TreeMap.getD_eq_getD_getElem?, found]
      rfl
  · intro a b _ _ before after
    exact absurd after (UInt64.lt_asymm before)

omit mirrored in
theorem following_next (made : Bool) :
    (following (Register.highest counts)).mapError (fun f => f.fault.kind) = (Register.mk made counts).next := by
  unfold following Register.highest Register.next
  cases counts.maxKey? with
  | none => rfl
  | some last =>
      dsimp only
      have size := last.toNat_lt
      by_cases full : last = 18446744073709551615
      · subst full
        rfl
      · have room : last.toNat + 1 < UInt64.size := by
          have other : last.toNat ≠ 18446744073709551615 := fun same => full (UInt64.toNat_inj.mp same)
          simp only [UInt64.size]
          omega
        rw [if_pos room, if_neg full, UInt64.ofNat_add, UInt64.ofNat_toNat]
        rfl

end Mirrored

variable {store : Store} {listing : Listing} {m : Machine} {place : Files.Location} {shelf : Shelf}
  {counts : Std.TreeMap UInt64 UInt32}

theorem mirrors_alike {m' : Machine} {register : Register} (alike : Alike m m') (mirrors : Mirrors store m register) :
    Mirrors store m' register := by
  cases mirrors with
  | unmade absent makable =>
      rw [← alike.1, ← alike.2] at absent makable
      exact .unmade absent makable
  | made stands mirrored => exact .made (stands_alike alike stands) mirrored

section Made

variable (listing) (plain : Stem store.stem) (fits : Fits store.directory (temporaryName store.stem 18446744073709551615))
  (stands : Stands store m place shelf) (mirrored : Mirrored store.stem shelf counts)

include plain fits stands mirrored

theorem update_mirrored (id : UInt64) (count : UInt32) :
    ∃ m', (store.update id count).run listing.answer m = (.ok (), m') ∧
      Mirrors store m' ⟨true, counts.insert id count⟩ := by
  obtain ⟨artifact, artifactFree⟩ := mirrored_ordinary mirrored (.text (artifactName store.stem id))
  obtain ⟨temporary, temporaryFree⟩ := mirrored_ordinary mirrored (.text (temporaryName store.stem id))
  have room := fits_last (Files.Tree.opens_nonempty stands.opens) plain fits id
  have granted := ready_update listing plain stands artifact temporary artifactFree temporaryFree room count
  obtain ⟨mode, after⟩ := granted_update plain stands artifact temporary count granted
  exact ⟨_, Prod.fst_eq_iff.mp granted, .made after (mirrored_filed mirrored id count mode)⟩

theorem read_at_mirrored (id : UInt64) (count : UInt32) (found : counts[id]? = some count) :
    (Store.readAt (store.artifactPath id)).run listing.answer m = (.ok count, m) := by
  obtain ⟨mode, file⟩ := mirrored.held id count found
  have some := Files.Tree.opens_nonempty stands.opens
  have room := fits_artifact some plain (fits_last some plain fits id)
  have told := ready_read listing stands (artifact_proper plain id) room _ mode file
  exact (read_at_granted _ _ told).trans (by rw [count_of_numeral])

omit fits in
theorem read_at_unmirrored (id : UInt64) (outside : id ∉ counts) :
    ∃ r, (Store.readAt (store.artifactPath id)).run listing.answer m = (.error (.unreadable (store.artifactPath id) r), m) := by
  have own := artifact_proper plain id
  cases told : (listing.answer (.read (store.artifactPath id)) m).1 with
  | error r => exact ⟨r, read_at_refused _ r told⟩
  | ok bytes =>
      obtain ⟨mode, file⟩ := granted_read stands own (mirrored_ordinary mirrored _).1 bytes told
      obtain ⟨other, member, same⟩ := (mirrored_has mirrored _).mp (by rw [Shelf.Has, file]; exact Option.some_ne_none _)
      exact absurd (artifact_injective _ _ _ same ▸ member) outside

theorem read_mirrored (id : UInt64) :
    ∃ told m', Alike m m' ∧ (store.read id).run listing.answer m = (told, m') ∧
      told.mapError (fun f => f.fault.kind) = (Register.mk true counts).read id := by
  obtain ⟨names, m', lists, alike, found⟩ := artifacts_run listing stands
  have later := stands_alike alike stands
  simp only [Store.read, Program.bind_eq, Program.run_bind, found]
  cases first : (sorted store.stem names).find? fun a => a.id == id with
  | none =>
      have outside : id ∉ counts := by
        intro member
        have there := (mirrored_found mirrored names lists ⟨id, artifactName store.stem id⟩).mpr ⟨member, rfl⟩
        exact List.find?_eq_none.mp first _ there (by simp)
      obtain ⟨r, run⟩ := read_at_unmirrored listing plain later mirrored id outside
      refine ⟨_, m', alike, run, ?_⟩
      rw [Register.read, Std.TreeMap.getElem?_eq_none outside]
      rfl
  | some a =>
      obtain ⟨inside, named⟩ := (mirrored_found mirrored names lists a).mp (List.mem_of_find?_eq_some first)
      obtain rfl : a.id = id := by simpa using List.find?_some first
      have held : counts[a.id]? = some (counts.getD a.id 0) := Std.TreeMap.getElem?_eq_some_getD inside
      refine ⟨.ok (counts.getD a.id 0), m', alike, ?_, ?_⟩
      · dsimp only
        rw [named]
        exact read_at_mirrored listing plain fits later mirrored a.id _ held
      · rw [Register.read, held]
        rfl

theorem list_mirrored : ∃ m', Alike m m' ∧ store.list.run listing.answer m = (.ok counts.toList, m') := by
  obtain ⟨names, m', lists, alike, found⟩ := artifacts_run listing stands
  have later := stands_alike alike stands
  have each : ∀ a ∈ sorted store.stem names,
      (Store.readAt (Path.join store.directory a.name)).run listing.answer m' = (.ok (counts.getD a.id 0), m') := by
    intro a member
    obtain ⟨inside, named⟩ := (mirrored_found mirrored names lists a).mp member
    rw [named]
    exact read_at_mirrored listing plain fits later mirrored a.id _ (Std.TreeMap.getElem?_eq_some_getD inside)
  refine ⟨m', alike, ?_⟩
  simp only [Store.list, Program.bind_eq, Program.run_bind, found]
  rw [read_each_run _ _ each, mirrored_bindings mirrored names lists]

end Made

theorem respond_run (r : Request) (reply : Reply Failure r) (m' : Machine)
    (run : (store.serve r).run listing.answer m = (reply, m')) :
    store.respond listing r m = (Reply.mapFailure (fun f => f.fault.kind) r reply, m') := by
  unfold Store.respond
  rw [run]

theorem unmade_mirrored (plain : Stem store.stem) (absent : m.tree.Absent m.work store.directory)
    (makable : ∃ t, m.tree.makePath m.work store.directory = .ok t) (r : Request) :
    (store.respond listing r m).1 = (Register.fresh.serve r).1 ∧
      Mirrors store (store.respond listing r m).2 (Register.fresh.serve r).2 := by
  have closed := Files.Tree.absent_closed absent
  have some := Files.Tree.absent_nonempty absent
  have empty := artifacts_missing listing absent.missing
  have same : Mirrors store m .fresh := .unmade absent makable
  cases r with
  | allocate =>
      obtain ⟨made, place, granted, stands⟩ := made_absent listing absent makable
      obtain ⟨m', alike, run⟩ := allocate_made _ _ granted stands (mirrored_highest mirrored_bare)
      rw [respond_run .allocate _ m' run]
      exact ⟨following_next false, mirrors_alike alike (.made stands mirrored_bare)⟩
  | begin id =>
      obtain ⟨m', alike, begun⟩ := begin_run store listing id m
      have shut (place : Files.Location) : ¬m'.tree.Opens m'.work store.directory place := by
        rw [alike.1, alike.2]
        exact closed place
      obtain ⟨f, run⟩ := closed_update listing plain shut some id 0
      rw [respond_run (.begin id) _ m' (begun.trans run)]
      exact ⟨rfl, mirrors_alike alike same⟩
  | update id count =>
      obtain ⟨f, run⟩ := closed_update listing plain closed some id count
      rw [respond_run (.update id count) _ m run]
      exact ⟨rfl, same⟩
  | read id =>
      have own := artifact_proper plain id
      obtain ⟨r, refused⟩ : ∃ r, listing.answer (.read (store.artifactPath id)) m = (.error r, m) :=
        closed_read listing closed some own
      have run : (store.serve (.read id)).run listing.answer m = (.error (.unreadable (store.artifactPath id) r), m) := by
        simp only [Store.serve, Store.read, Program.bind_eq, Program.run_bind, empty]
        exact read_at_refused _ r (by rw [refused])
      rw [respond_run (.read id) _ m run]
      exact ⟨rfl, same⟩
  | list =>
      have run : (store.serve .list).run listing.answer m = (.ok [], m) := by
        simp only [Store.serve, Store.list, Program.bind_eq, Program.run_bind, empty]
        rfl
      rw [respond_run .list _ m run]
      exact ⟨rfl, same⟩

theorem made_mirrored (plain : Stem store.stem)
    (fits : Fits store.directory (temporaryName store.stem 18446744073709551615))
    (stands : Stands store m place shelf) (mirrored : Mirrored store.stem shelf counts) (r : Request) :
    (store.respond listing r m).1 = ((Register.mk true counts).serve r).1 ∧
      Mirrors store (store.respond listing r m).2 ((Register.mk true counts).serve r).2 := by
  cases r with
  | allocate =>
      obtain ⟨m', alike, run⟩ := allocate_made _ m (granted_make stands) stands (mirrored_highest mirrored)
      rw [respond_run .allocate _ m' run]
      exact ⟨following_next true, mirrors_alike alike (.made stands mirrored)⟩
  | begin id =>
      obtain ⟨m', alike, begun⟩ := begin_run store listing id m
      obtain ⟨m'', run, later⟩ := update_mirrored listing plain fits (stands_alike alike stands) mirrored id 0
      rw [respond_run (.begin id) (.ok ()) m'' (begun.trans run)]
      exact ⟨rfl, later⟩
  | update id count =>
      obtain ⟨m', run, later⟩ := update_mirrored listing plain fits stands mirrored id count
      rw [respond_run (.update id count) (.ok ()) m' run]
      exact ⟨rfl, later⟩
  | read id =>
      obtain ⟨told, m', alike, run, same⟩ := read_mirrored listing plain fits stands mirrored id
      rw [respond_run (.read id) told m' run]
      exact ⟨same, mirrors_alike alike (.made stands mirrored)⟩
  | list =>
      obtain ⟨m', alike, run⟩ := list_mirrored listing plain fits stands mirrored
      rw [respond_run .list _ m' run]
      exact ⟨rfl, mirrors_alike alike (.made stands mirrored)⟩

theorem store_refines_register {α : Type} (store : Store) (listing : Listing) (m : Machine) (plain : Stem store.stem)
    (fits : Fits store.directory (temporaryName store.stem 18446744073709551615))
    (absent : m.tree.Absent m.work store.directory)
    (makable : ∃ t, m.tree.makePath m.work store.directory = .ok t)
    (client : Program (Reply Fault.Kind) α) :
    client.history (store.respond listing) m = client.history Register.serve .fresh := by
  apply Program.history_simulated _ _ (Mirrors store) _ client m .fresh (.unmade absent makable)
  intro r m register mirrors
  cases mirrors with
  | unmade absent makable => exact unmade_mirrored plain absent makable r
  | made stands mirrored => exact made_mirrored plain fits stands mirrored r

-- A client that asks before there is anything, and then uses numbers of different lengths.
def curious : Program (Reply Fault.Kind) Unit := do
  let _ ← Program.call (.read 1)
  let _ ← Program.call (.update 1 7)
  let _ ← Program.call .allocate
  let _ ← Program.call (.update 123456 4)
  let _ ← Program.call (.begin 1)
  let _ ← Program.call .list
  let _ ← Program.call .allocate

theorem store_refines_register_curious :
    curious.history (Store.respond ⟨"counters", "failures_"⟩ ⟨fun _ => List.reverse, fun _ => List.reverse_perm⟩)
      Machine.fresh = [⟨.read 1, .error .storage⟩, ⟨.update 1 7, .error .storage⟩, ⟨.allocate, .ok 1⟩,
        ⟨.update 123456 4, .ok ()⟩, ⟨.begin 1, .ok ()⟩, ⟨.list, .ok [(1, 0), (123456, 4)]⟩, ⟨.allocate, .ok 123457⟩] := by
  obtain ⟨absent, makable⟩ := counters_absent
  rw [store_refines_register ⟨"counters", "failures_"⟩ _ Machine.fresh failures_stem ⟨by decide, by decide⟩ absent makable]
  cbv

end Overseer.Counter
