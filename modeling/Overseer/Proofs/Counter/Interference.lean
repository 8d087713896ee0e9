import Overseer.Proofs.Counter.Careful

set_option autoImplicit false

namespace Overseer.Counter

open Files (Name Node Path)
open Files.Tree (IsDevice Linkless Ordinary linkless_ordinary)
open Host (Answer Call Listing Machine)
open Text (Numeral.word32)

-- A directory whose artifacts have the names that the store gives them. No link stands under such a name, or under
-- a temporary of a session that is written.
structure Orderly (stem : String) (written : UInt64 → Prop) (shelf : Shelf) : Prop where
  artifact : ∀ id, Linkless (shelf [.text (artifactName stem id)])
  temporary : ∀ id, written id → Linkless (shelf [.text (temporaryName stem id)])
  canonical : ∀ name id, shelf.Has name → ordinal? stem name = some id → name = artifactName stem id

def Request.gives (r : Request) (id : UInt64) : Exchange → Option UInt32
  | ⟨.rename _ _, .ok _⟩ => r.count? id
  | _ => none

inductive Turn (stem : String) (r : Request) (shelf : Shelf) : Exchange → Shelf → Prop where
  | same {e : Exchange} (nothing : ∀ id, r.gives id e = none) : Turn stem r shelf e shelf
  | temporary {e : Exchange} (nothing : ∀ id, r.gives id e = none) (id : UInt64) (count : UInt32)
      (writes : r.count? id = some count) (node : Option Node) (ordinary : Ordinary node) :
      Turn stem r shelf e (shelf.set (temporaryName stem id) node)
  | artifact (source target : String) (id : UInt64) (count : UInt32) (writes : r.count? id = some count)
      (mode : Nat) :
      Turn stem r shelf ⟨.rename source target, .ok ()⟩ (shelf.filed stem id (Numeral.word32 count).toUTF8 mode)

-- What stands for the temporary at a stage: a file with what has been written, or a device, which takes whatever is
-- written but cannot be brought to the disk.
def Stage.Fills : Stage → Option Node → Prop
  | .holding content, node => (∃ mode, node = some (.file content mode)) ∨ IsDevice node
  | .synced content, node => ∃ mode, node = some (.file content mode)
  | _, _ => True

def Held (stem : String) (r : Request) (stage : Stage) (shelf : Shelf) : Prop :=
  ∀ id count, r.count? id = some count → stage.Fills (shelf [.text (temporaryName stem id)])

-- What a session's artifact has become once these counts have been given to it, one after another.
inductive Becomes (stem : String) (first : Shelf) (id : UInt64) : List UInt32 → Option Node → Prop where
  | unchanged : Becomes stem first id [] (first [.text (artifactName stem id)])
  | replaced (earlier : List UInt32) (count : UInt32) (mode : Nat) :
      Becomes stem first id (earlier ++ [count]) (some (.file (Numeral.word32 count).toUTF8 mode))

def Sees (store : Store) (r : Request) (shelf : Shelf) : Exchange → Prop
  | ⟨.read path, .ok bytes⟩ => ∃ id, path = store.artifactPath id ∧ r.Reads id ∧
      Files.Tree.contents (shelf [.text (artifactName store.stem id)]) = some bytes
  | ⟨.list _, .ok names⟩ => ∀ a ∈ found store.stem names, a.name = artifactName store.stem a.id ∧ shelf.Has a.name
  | _ => True

section Turn

variable {stem : String} {r : Request} {shelf shelf' : Shelf} {e : Exchange}

theorem artifact_way (stem : String) (id other : UInt64) (different : other ≠ id) :
    [Name.text (artifactName stem other)] ≠ [.text (artifactName stem id)] := by
  simpa using fun same => different (artifact_injective stem other id same)

theorem temporary_way (stem : String) (id other : UInt64) (different : other ≠ id) :
    [Name.text (temporaryName stem other)] ≠ [.text (temporaryName stem id)] := by
  simpa using fun same => different (temporary_injective stem other id same)

theorem crossed_way (stem : String) (id other : UInt64) :
    [Name.text (artifactName stem other)] ≠ [.text (temporaryName stem id)] := by
  simpa using artifact_ne_temporary stem other id

theorem turn_artifact (turn : Turn stem r shelf e shelf') (first : Shelf) (id : UInt64) (counts : List UInt32)
    (becomes : Becomes stem first id counts (shelf [.text (artifactName stem id)])) :
    Becomes stem first id (counts ++ (r.gives id e).toList) (shelf' [.text (artifactName stem id)]) := by
  cases turn with
  | same nothing =>
      rw [nothing, Option.toList_none, List.append_nil]
      exact becomes
  | temporary nothing own count writes node ordinary =>
      rw [nothing, Option.toList_none, List.append_nil, Shelf.set_other _ _ _ _ (crossed_way stem own id)]
      exact becomes
  | artifact source target own count writes mode =>
      by_cases same : id = own
      · subst same
        rw [Shelf.filed_artifact]
        change Becomes stem first id (counts ++ (r.count? id).toList) _
        rw [writes]
        exact .replaced counts count mode
      · rw [Shelf.filed_other _ _ _ _ (artifact_way stem own id same) (crossed_way stem own id)]
        change Becomes stem first id (counts ++ (r.count? id).toList) _
        rw [counts_one r own id count writes same, Option.toList_none, List.append_nil]
        exact becomes

theorem turn_linkless (turn : Turn stem r shelf e shelf') (n : Name) (linkless : Linkless (shelf [n])) :
    Linkless (shelf' [n]) := by
  cases turn with
  | same nothing => exact linkless
  | temporary nothing own count writes node new =>
      unfold Shelf.set
      split
      · exact linkless_ordinary new
      · exact linkless
  | artifact source target own count writes mode =>
      unfold Shelf.filed Shelf.set
      split
      · trivial
      · split
        · trivial
        · exact linkless

theorem turn_orderly {written : UInt64 → Prop} (turn : Turn stem r shelf e shelf') (orderly : Orderly stem written shelf) :
    Orderly stem written shelf' where
  artifact id := turn_linkless turn _ (orderly.artifact id)
  temporary id writes := turn_linkless turn _ (orderly.temporary id writes)
  canonical name id has numbered := by
    cases turn with
    | same nothing => exact orderly.canonical name id has numbered
    | temporary nothing own count writes node new =>
        by_cases temporary : name = temporaryName stem own
        · rw [temporary, ordinal_temporary] at numbered
          cases numbered
        · rw [Shelf.Has, Shelf.set_other _ _ _ _ (by simpa using temporary)] at has
          exact orderly.canonical name id has numbered
    | artifact source target own count writes mode =>
        by_cases artifact : name = artifactName stem own
        · rw [artifact, ordinal_artifact] at numbered
          rw [artifact, Option.some.inj numbered]
        · by_cases temporary : name = temporaryName stem own
          · rw [temporary, ordinal_temporary] at numbered
            cases numbered
          · rw [Shelf.Has, Shelf.filed_other _ _ _ _ (by simpa using artifact) (by simpa using temporary)] at has
            exact orderly.canonical name id has numbered

-- A request that writes for other sessions leaves what another has written.
theorem turn_held {other : Request} {stage : Stage} (turn : Turn stem r shelf e shelf')
    (apart : ∀ id count, r.count? id = some count → other.count? id = none) (held : Held stem other stage shelf) :
    Held stem other stage shelf' := by
  intro id count writes
  have different (own : UInt64) (k : UInt32) (owned : r.count? own = some k) :
      [Name.text (temporaryName stem id)] ≠ [.text (temporaryName stem own)] := by
    apply temporary_way
    rintro rfl
    rw [apart id k owned] at writes
    cases writes
  have fills := held id count writes
  cases turn with
  | same nothing => exact fills
  | temporary nothing own k owned node new =>
      rw [Shelf.set_other _ _ _ _ (different own k owned)]
      exact fills
  | artifact source target own k owned mode =>
      rw [Shelf.filed_other _ _ _ _ (crossed_way stem id own).symm (different own k owned)]
      exact fills

end Turn

variable {store : Store} {listing : Listing} {m : Machine} {place : Files.Location} {shelf : Shelf} {r : Request}
  {stage : Stage} {c : Call} {written : UInt64 → Prop}

structure Turned (store : Store) (r : Request) (stage : Stage) (shelf : Shelf) (place : Files.Location) (e : Exchange)
    (m : Machine) (shelf' : Shelf) : Prop where
  stands : Stands store m place shelf'
  turn : Turn store.stem r shelf e shelf'
  held : Held store.stem r (stage.after e.1 e.2) shelf'
  canonical : Canonical store.stem e.1 e.2
  sees : Sees store r shelf e

def refuse (refusal : Refusal) : (c : Call) → Option (Answer c)
  | .makePath _ => some (.error refusal)
  | .list _ => some (.error refusal)
  | .read _ => some (.error refusal)
  | .create _ => some (.error refusal)
  | .openEnd _ => some (.error refusal)
  | .extend _ _ => some (.error refusal)
  | .sync _ => some (.error refusal)
  | .rename _ _ => some (.error refusal)
  | .remove _ => some (.error refusal)
  | _ => none

theorem held_settled (stem : String) (r : Request) (shelf : Shelf) : Held stem r .settled shelf :=
  fun _ _ _ => trivial

theorem held_one {stem : String} {id : UInt64} {count : UInt32} (writes : r.count? id = some count)
    (fills : stage.Fills (shelf [.text (temporaryName stem id)])) : Held stem r stage shelf := by
  intro other k counted
  by_cases same : other = id
  · exact same ▸ fills
  · rw [counts_one r id other count writes same] at counted
    cases counted

theorem glances_stage (glances : Glances store r c) (told : Answer c) : stage.after c told = stage := by
  cases glances with
  | look c looks => cases looks <;> rfl
  | _ => rfl

theorem glances_give (glances : Glances store r c) (told : Answer c) (id : UInt64) : r.gives id ⟨c, told⟩ = none := by
  cases glances with
  | look c looks => cases looks <;> rfl
  | _ => rfl

theorem given_count {e : Exchange} {id : UInt64} {count : UInt32} (given : r.gives id e = some count) :
    r.count? id = some count := by
  obtain ⟨c, told⟩ := e
  cases c with
  | rename source target =>
      cases told with
      | error refusal => cases given
      | ok renamed => exact given
  | _ => cases given

-- A count is owed until it is given, and given once.
theorem may_owed (may : May store r stage c) (told : Answer c) (id : UInt64) :
    ((r.gives id ⟨c, told⟩).toList ++ (stage.after c told).owed r id).Sublist (stage.owed r id) := by
  cases may with
  | glance glances =>
      rw [glances_give glances, glances_stage glances]
      exact .refl _
  | rename own count writes =>
      cases told with
      | error refusal => exact List.nil_sublist _
      | ok renamed => exact (List.append_nil _).symm ▸ .refl _
  | remove own count writes => exact .refl _
  | create own count writes | extend own count writes content bytes | sync own count writes content =>
      cases told with
      | error refusal => exact List.nil_sublist _
      | ok done => exact .refl _

theorem refused_turned (may : May store r stage c) (stands : Stands store m place shelf)
    (held : Held store.stem r stage shelf) (refusal : Refusal) (told : Answer c)
    (refused : refuse refusal c = some told) :
    Turned store r stage shelf place ⟨c, told⟩ m shelf where
  stands := stands
  turn := .same fun id => by
    cases c with
    | rename source target =>
        cases refused
        rfl
    | _ => rfl
  held := by
    cases may with
    | glance glances =>
        rw [glances_stage glances]
        exact held
    | _ =>
        cases refused
        exact held_settled _ _ _
  canonical := by
    cases c with
    | list path =>
        cases refused
        trivial
    | _ => trivial
  sees := by
    cases c with
    | list path =>
        cases refused
        trivial
    | read path =>
        cases refused
        trivial
    | _ => trivial

theorem refused_still (refusal : Refusal) (told : Answer c) (refused : refuse refusal c = some told)
    (answered : (listing.answer c m).1 = told) : (listing.answer c m).2 = m := by
  cases c with
  | list path => rfl
  | read path => rfl
  | makePath path | create path | openEnd path | extend path bytes | sync path | rename path other | remove path =>
      cases refused
      exact (Host.settle_refused refusal answered).2
  | _ => cases refused

theorem glanced_turned (plain : Stem store.stem) (stands : Stands store m place shelf)
    (orderly : Orderly store.stem written shelf) (glances : Glances store r c) (held : Held store.stem r stage shelf) :
    Turned store r stage shelf place ⟨c, (listing.answer c m).1⟩ (listing.answer c m).2 shelf := by
  have turn : Turn store.stem r shelf ⟨c, (listing.answer c m).1⟩ shelf := .same (glances_give glances _)
  have held' : Held store.stem r (stage.after c (listing.answer c m).1) shelf := by
    rw [glances_stage glances]
    exact held
  cases glances with
  | look c looks =>
      cases looks with
      | makePath =>
          have made : listing.answer (.makePath store.directory) m = (.ok (), m) := granted_make stands
          exact ⟨by rw [made]; exact stands, turn, held', trivial, trivial⟩
      | list =>
          obtain ⟨names, told, -, all⟩ := listed stands listing
          have canonical :
              ∀ a ∈ found store.stem names, a.name = artifactName store.stem a.id ∧ shelf.Has a.name := by
            intro a member
            obtain ⟨present, numbered⟩ := (mem_found store.stem names a).mp member
            have has := (all _).mp present
            exact ⟨orderly.canonical a.name a.id has numbered, has⟩
          refine ⟨stands, turn, held', ?_, ?_⟩
          · change Canonical store.stem (.list store.directory) (listing.answer (.list store.directory) m).1
            rw [told]
            exact fun a member => (canonical a member).1
          · rw [told]
            exact canonical
      | note record => exact ⟨stands_alike (alike_note record) stands, turn, held', trivial, trivial⟩
  | present path => exact ⟨stands, turn, held', trivial, trivial⟩
  | read id reads =>
      refine ⟨stands, turn, held', trivial, ?_⟩
      cases told : (listing.answer (.read (store.artifactPath id)) m).1 with
      | error refusal => trivial
      | ok bytes =>
          have entry := stands.entry (.text (artifactName store.stem id))
          have read := Files.Tree.read_linkless stands.opens (artifact_proper plain id) (entry ▸ orderly.artifact id) bytes
          exact ⟨id, rfl, reads, entry ▸ (read.mp told).2⟩

theorem answered_turned (listing : Listing) (plain : Stem store.stem) (stands : Stands store m place shelf)
    (orderly : Orderly store.stem written shelf) (mine : ∀ id count, r.count? id = some count → written id)
    (may : May store r stage c) (held : Held store.stem r stage shelf) : ∃ shelf', Turned store r stage shelf place ⟨c, (listing.answer c m).1⟩ (listing.answer c m).2 shelf' := by
  have refused (refusal : Refusal) (told : Answer c) (refuses : refuse refusal c = some told)
      (answered : (listing.answer c m).1 = told) :
      ∃ shelf', Turned store r stage shelf place ⟨c, (listing.answer c m).1⟩ (listing.answer c m).2 shelf' := by
    rw [refused_still refusal told refuses answered, answered]
    exact ⟨shelf, refused_turned may stands held refusal told refuses⟩
  cases may with
  | glance glances => exact ⟨shelf, glanced_turned plain stands orderly glances held⟩
  | create id count writes =>
      cases told : (listing.answer (.create (store.temporaryPath id)) m).1 with
      | error refusal => exact told ▸ refused refusal _ rfl told
      | ok created =>
          have linkless := orderly.temporary id (mine id count writes)
          rcases created_or_device stands (temporary_proper plain id) linkless told with ⟨still, device⟩ | ⟨mode, later⟩
          · exact ⟨shelf, still.symm ▸ stands, .same fun _ => rfl, held_one writes (.inr device), trivial, trivial⟩
          · exact ⟨_, later, .temporary (fun _ => rfl) id count writes _ trivial,
              held_one writes (.inl ⟨mode, Shelf.set_same _ _ _⟩), trivial, trivial⟩
  | extend id count writes content bytes =>
      cases told : (listing.answer (.extend (store.temporaryPath id) bytes) m).1 with
      | error refusal => exact told ▸ refused refusal _ rfl told
      | ok extended =>
          rcases held id count writes with ⟨mode, file⟩ | device
          · have later := granted_extend stands (temporary_proper plain id) content bytes mode file told
            exact ⟨_, later, .temporary (fun _ => rfl) id count writes _ trivial,
              held_one writes (.inl ⟨mode, Shelf.set_same _ _ _⟩), trivial, trivial⟩
          · have still := device_extended stands (temporary_proper plain id) device bytes told
            exact ⟨shelf, still.symm ▸ stands, .same fun _ => rfl, held_one writes (.inr device), trivial, trivial⟩
  | sync id count writes content =>
      cases told : (listing.answer (.sync (store.temporaryPath id)) m).1 with
      | error refusal => exact told ▸ refused refusal _ rfl told
      | ok synced =>
          rw [granted_sync _ told]
          rcases held id count writes with file | device
          · exact ⟨shelf, stands, .same fun _ => rfl, held_one writes file, trivial, trivial⟩
          · exact absurd told (device_unsynced stands (temporary_proper plain id) device)
  | rename id count writes =>
      cases told : (listing.answer (.rename (store.temporaryPath id) (store.artifactPath id)) m).1 with
      | error refusal => exact told ▸ refused refusal _ rfl told
      | ok renamed =>
          obtain ⟨mode, file⟩ := held id count writes
          have later := granted_rename stands (artifactName store.stem id) (temporary_proper plain id)
            (artifact_proper plain id) (artifact_ne_temporary _ _ _).symm _ mode file (orderly.artifact id) told
          exact ⟨_, later, .artifact _ _ id count writes mode, held_settled _ _ _, trivial, trivial⟩
  | remove id count writes =>
      cases told : (listing.answer (.remove (store.temporaryPath id)) m).1 with
      | error refusal => exact told ▸ refused refusal _ rfl told
      | ok removed =>
          have later := granted_remove stands (temporary_proper plain id) (orderly.temporary id (mine id count writes)) told
          exact ⟨_, later, .temporary (fun _ => rfl) id count writes none trivial, held_settled _ _ _, trivial, trivial⟩

end Overseer.Counter
