import Overseer.Proofs.Files.Making
import Overseer.Proofs.Files.Standing

set_option autoImplicit false

namespace Overseer.Files.Tree

variable {t t' t'' : Tree} {work place : Location}

def Grows (t t' : Tree) : Prop := ∀ q node, t.node? q = some node → t'.node? q = some node

theorem grows_refl (t : Tree) : t.Grows t := fun _ _ there => there

theorem grows_trans (first : t.Grows t') (second : t'.Grows t'') : t.Grows t'' :=
  fun q node there => second q node (first q node there)

theorem grows_put (nothing : t.node? place = none) (node : Node) : t.Grows (t.put place node) := by
  intro q other there
  cases place with
  | nil => cases nothing
  | cons n d =>
      rw [node_put, if_neg]
      · exact there
      · rintro rfl
        cases nothing.symm.trans there

theorem directory_grows (p : Path) (made : t.makeDirectory work p = .ok t') : t.Grows t' := by
  unfold makeDirectory at made
  rw [locate_unslashed false _ rfl] at made
  have arrives := walk_arrives t false linkLimit (if p.fromRoot then [] else work) p.steps
  dsimp only at made
  generalize t.walk false linkLimit (if p.fromRoot then [] else work) p.steps = walked at arrives made
  cases arrives with
  | directory leads => cases made
  | free leads short nothing =>
      obtain rfl := Except.ok.inj made
      exact grows_put nothing .directory
  | other leads something plain => cases made
  | refused r => cases made

theorem directories_grow (depth : Nat) (p : Path) (made : t.makeDirectories work depth p = .ok t') : t.Grows t' := by
  induction depth generalizing p t' with
  | zero =>
      cases makeDirectories_by 0 p made with
      | present same leads => exact same ▸ grows_refl t
      | alone made => exact directory_grows p made
  | succ depth ih =>
      cases makeDirectories_by (depth + 1) p made with
      | present same leads => exact same ▸ grows_refl t
      | alone made => exact directory_grows p made
      | below parent above last =>
          rcases last with made | ⟨rfl, -⟩
          · exact grows_trans (ih _ above) (directory_grows p made)
          · exact ih _ above

theorem path_grows (path : String) (made : t.makePath work path = .ok t') : t.Grows t' := by
  unfold makePath at made
  split at made
  · obtain rfl := Except.ok.inj made
    exact grows_refl t
  · split at made
    · cases made
    · exact directories_grow _ _ made

theorem end_grows (path : String) (opened : t.openEnd work path = .ok t') : t.Grows t' := by
  unfold openEnd at opened
  split at opened
  · cases opened
  · next q found =>
      obtain rfl := Except.ok.inj opened
      exact grows_put (writing_free q found).2 _
  · obtain rfl := Except.ok.inj opened
    exact grows_refl t

end Overseer.Files.Tree
