import Overseer.Proofs.Counter.Holding
import Overseer.Proofs.Counter.Names
import Overseer.Proofs.Files.Locality
import Overseer.Proofs.Program.Along

set_option autoImplicit false

namespace Overseer.Counter

open Files (Location Path Tree)
open Files.Tree (Local)
open Host (Machine)

variable {store : Store} {name : String} {id : UInt64}

-- The one stem is not the other with digits behind it, nor the other itself.
def Unextended (stem other : String) : Prop :=
  ∀ ds : List Char, (∀ c ∈ ds, c.isDigit = true) → other.toList ≠ stem.toList ++ ds

def Own (stem name : String) : Prop := (∃ id, ordinal? stem name = some id) ∨ ∃ id, name = temporaryName stem id

def Writes (stem name : String) : Prop := ∃ id, name = artifactName stem id ∨ name = temporaryName stem id

theorem own_of_writes {stem : String} (writes : Writes stem name) : Own stem name := by
  obtain ⟨id, rfl | rfl⟩ := writes
  · exact .inl ⟨id, ordinal_artifact stem id⟩
  · exact .inr ⟨id, rfl⟩

section Stems

variable {stem other : String} (apart : Unextended stem other) (apart' : Unextended other stem)

include apart apart'

theorem ordinal_apart (numbered : ordinal? stem name = some id) : ordinal? other name = none := by
  cases known : ordinal? other name with
  | none => rfl
  | some id' =>
      obtain ⟨ds, named, -, digits⟩ := ordinal_digits _ _ _ numbered
      obtain ⟨ds', named', -, digits'⟩ := ordinal_digits _ _ _ known
      rcases List.append_eq_append_iff.mp (named.symm.trans named') with ⟨rest, longer, split⟩ | ⟨rest, longer, split⟩
      · exact absurd longer (apart rest fun c member => digits c (split ▸ List.mem_append_left _ member))
      · exact absurd longer (apart' rest fun c member => digits' c (split ▸ List.mem_append_left _ member))

theorem own_unwritten (own : Own stem name) : ¬Writes other name := by
  rintro ⟨id, rfl | rfl⟩
  · rcases own with ⟨id', numbered⟩ | ⟨id', same⟩
    · have foreign := ordinal_apart apart apart' numbered
      rw [ordinal_artifact] at foreign
      cases foreign
    · have foreign := ordinal_temporary_of other stem id'
      rw [← same, ordinal_artifact] at foreign
      cases foreign
  · rcases own with ⟨id', numbered⟩ | ⟨id', same⟩
    · rw [ordinal_temporary_of] at numbered
      cases numbered
    · have text := congrArg String.toList same
      rw [temporary_text, temporary_text, List.cons_eq_cons, List.append_cancel_right_eq] at text
      have foreign := ordinal_apart apart apart' (ordinal_artifact stem id')
      rw [← String.toList_inj.mp text.2, ordinal_artifact] at foreign
      cases foreign

end Stems

inductive Writing (store : Store) : Host.Call → Prop where
  | create (id : UInt64) : Writing store (.create (store.temporaryPath id))
  | extend (id : UInt64) (bytes : ByteArray) : Writing store (.extend (store.temporaryPath id) bytes)
  | sync (id : UInt64) : Writing store (.sync (store.temporaryPath id))
  | rename (id : UInt64) : Writing store (.rename (store.temporaryPath id) (store.artifactPath id))
  | remove (id : UInt64) : Writing store (.remove (store.temporaryPath id))

theorem write_asks (store : Store) (id : UInt64) (bytes : ByteArray) :
    (Store.write (store.temporaryPath id) (store.artifactPath id) bytes).Asks (Writing store) := by
  refine ⟨.create id, fun created => ?_⟩
  cases created with
  | error r => trivial
  | ok done =>
      refine ⟨.extend id bytes, fun extended => ?_⟩
      cases extended with
      | error r => trivial
      | ok done =>
          refine ⟨.sync id, fun synced => ?_⟩
          cases synced with
          | error r => trivial
          | ok done => exact Program.asks_call (.rename id)

theorem update_asks (store : Store) (id : UInt64) (count : UInt32) : (store.update id count).Asks (Writing store) := by
  refine Program.asks_bind (write_asks store id _) fun told => ?_
  cases told with
  | ok done => trivial
  | error r => exact ⟨.remove id, fun _ => trivial⟩

section Home

variable (store : Store) (proper : Files.Proper name)

include proper

theorem home_local (call : Tree → Location → String → Except Refusal Tree)
    (resolved : ∀ t work s s', Tree.Resolved work t s s' → call t work s = call t work s')
    (within : Local store.home [name] fun t work => call t work (Path.join store.home name)) :
    Local store.home [name] fun t work => call t work (Path.join store.directory name) := by
  have same : (fun t work => call t work (Path.join store.directory name)) =
      fun t work => call t work (Path.join store.home name) := by
    funext t work
    exact home_same store { Machine.fresh with tree := t, work } proper (call t work) (resolved t work)
  rw [same]
  exact within

theorem home_renames {other : String} (properOther : Files.Proper other) (different : name ≠ other) :
    Local store.home [name, other] fun t work =>
      t.rename work (Path.join store.directory name) (Path.join store.directory other) := by
  have same : (fun (t : Tree) work => t.rename work (Path.join store.directory name) (Path.join store.directory other)) =
      fun t work => t.rename work (Path.join store.home name) (Path.join store.home other) := by
    funext t work
    exact home_rename store { Machine.fresh with tree := t, work } proper properOther
  rw [same]
  exact Tree.rename_local proper properOther different

end Home

section Own

variable (plain : Stem store.stem) (id : UInt64)

include plain

theorem create_own : Local store.home [temporaryName store.stem id] fun t work => t.create work (store.temporaryPath id) :=
  home_local store (temporary_proper plain id) (fun t work => t.create work) (fun _ _ _ _ => Tree.create_resolved)
    (Tree.create_local (temporary_proper plain id))

theorem extend_own (bytes : ByteArray) :
    Local store.home [temporaryName store.stem id] fun t work => t.extend work (store.temporaryPath id) bytes :=
  home_local store (temporary_proper plain id) (fun t work path => t.extend work path bytes)
    (fun _ _ _ _ same => Tree.extend_resolved same bytes) (Tree.extend_local (temporary_proper plain id) bytes)

theorem sync_own : Local store.home [temporaryName store.stem id] fun t work => t.sync work (store.temporaryPath id) :=
  home_local store (temporary_proper plain id) (fun t work => t.sync work) (fun _ _ _ _ => Tree.sync_resolved)
    (Tree.sync_local (temporary_proper plain id))

theorem remove_own : Local store.home [temporaryName store.stem id] fun t work => t.remove work (store.temporaryPath id) :=
  home_local store (temporary_proper plain id) (fun t work => t.remove work) (fun _ _ _ _ => Tree.remove_resolved)
    (Tree.remove_local (temporary_proper plain id))

theorem rename_own : Local store.home [temporaryName store.stem id, artifactName store.stem id] fun t work =>
    t.rename work (store.temporaryPath id) (store.artifactPath id) :=
  home_renames store (temporary_proper plain id) (artifact_proper plain id) (artifact_ne_temporary store.stem id id).symm

end Own

theorem temporary_writes (stem : String) (id : UInt64) : ∀ n ∈ [temporaryName stem id], Writes stem n := by
  rintro n member
  exact ⟨id, .inr (List.mem_singleton.mp member)⟩

theorem names_writes (stem : String) (id : UInt64) : ∀ n ∈ [temporaryName stem id, artifactName stem id], Writes stem n := by
  rintro n member
  have either : n = temporaryName stem id ∨ n = artifactName stem id := by simpa using member
  exact ⟨id, either.symm⟩

end Overseer.Counter
