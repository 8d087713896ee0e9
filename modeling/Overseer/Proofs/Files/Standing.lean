import Overseer.Proofs.Files.Entry

set_option autoImplicit false

namespace Overseer.Files.Tree

variable {t : Tree} {work place : Location} {path : String}

-- Nothing stands at the place, or what is neither a directory nor a link.
def Fillable (t : Tree) (place : Location) : Spot → Prop
  | .free q => q = place ∧ t.node? place = none
  | .taken q node => q = place ∧ Blocked (some node) ∧ t.node? place = some node

theorem fillable_blocked {spot : Spot} (fillable : t.Fillable place spot) : Blocked (t.node? place) := by
  cases spot with
  | free q => exact fillable.2 ▸ trivial
  | taken q node => exact fillable.2.2 ▸ fillable.2.1

theorem walk_fillable (links : Nat) (start : Location) (steps : List Step) (spot : Spot)
    (found : t.walk true links start steps = .ok spot) (fillable : t.Fillable place spot) (content : ByteArray) (mode : Nat) :
    (t.put place (.file content mode)).walk true links start steps = .ok (.taken place (.file content mode)) := by
  have arrives := walk_arrives t true links start steps
  rw [found] at arrives
  -- Both ends are a last step into the place, from a directory that the change leaves where it is.
  have ending {left : Nat} {goal : Location} {n : Name} (leads : Leads t links start steps left goal [.into n])
      (own : place = n :: goal) (short : n.isTooLong = false)
      (blocked : Blocked (t.node? place)) :
      (t.put place (.file content mode)).walk true links start steps = .ok (.taken place (.file content mode)) := by
    subst own
    have kept : Leads (t.put (n :: goal) (.file content mode)) links start steps left goal [.into n] := by
      apply leads.kept
      · intro q directory
        rw [node_put, if_neg]
        · exact directory
        · rintro rfl
          rw [directory] at blocked
          exact blocked
      · intro q target link
        rw [node_put, if_neg]
        · exact link
        · rintro rfl
          rw [link] at blocked
          exact blocked
    have walked := walk_leads true kept [] (.inl rfl)
    rw [List.append_nil, List.append_nil] at walked
    have there : (t.put (n :: goal) (.file content mode)).node? (n :: goal) = some (.file content mode) := by
      rw [node_put, if_pos rfl]
    rw [walked, walk_entry true left n short (by rw [there]; trivial), Tree.spot, there]
  have blocked := fillable_blocked fillable
  cases arrives with
  | directory leads => exact absurd fillable.2.1 id
  | free leads short nothing => exact ending leads fillable.1.symm short blocked
  | @other left goal n node leads something plain =>
      have short : n.isTooLong = false := by
        have walked := walk_leads true leads [] (.inl rfl)
        rw [List.append_nil, List.append_nil, found, walk] at walked
        cases long : n.isTooLong with
        | false => rfl
        | true => simp [long] at walked
      exact ending leads fillable.1.symm short blocked

theorem writing_walk (p : Path) (parsed : Path.ofText path = .ok p) (spot : Spot) (plain : ∀ q, spot ≠ .taken q .directory) :
    t.findForWriting work path = .ok spot ↔
      p.slashed = false ∧ t.walk true linkLimit (if p.fromRoot then [] else work) p.steps = .ok spot := by
  unfold findForWriting locate
  simp only [parsed, Bool.true_or]
  cases t.walk true linkLimit (if p.fromRoot then [] else work) p.steps with
  | error r => simp
  | ok found =>
      cases found with
      | free q => cases p.slashed <;> simp
      | taken q node =>
          cases node with
          | directory => simpa using fun _ => (plain q).symm
          | _ => cases p.slashed <;> simp

theorem writing_parsed {spot : Spot} (found : t.findForWriting work path = .ok spot) :
    ∃ p, Path.ofText path = .ok p := by
  unfold findForWriting at found
  cases parsed : Path.ofText path with
  | error r =>
      rw [parsed] at found
      cases found
  | ok p => exact ⟨p, rfl⟩

theorem writing_fillable (spot : Spot) (found : t.findForWriting work path = .ok spot)
    (fillable : t.Fillable place spot) (content : ByteArray) (mode : Nat) :
    (t.put place (.file content mode)).findForWriting work path = .ok (.taken place (.file content mode)) := by
  obtain ⟨p, parsed⟩ := writing_parsed found
  have plain : ∀ q, spot ≠ .taken q .directory := by
    rintro q rfl
    exact fillable.2.1
  obtain ⟨unslashed, walked⟩ := (writing_walk p parsed spot plain).mp found
  exact (writing_walk p parsed _ (by simp)).mpr ⟨unslashed, walk_fillable _ _ _ spot walked fillable content mode⟩

theorem walk_found (links : Nat) (start : Location) (steps : List Step) (spot : Spot)
    (found : t.walk true links start steps = .ok spot) (plain : ∀ q, spot ≠ .taken q .directory) :
    match spot with
    | .free q => t.node? q = none
    | .taken q node => t.node? q = some node := by
  have arrives := walk_arrives t true links start steps
  rw [found] at arrives
  cases arrives with
  | directory leads => exact absurd rfl (plain _)
  | free leads short nothing => exact nothing
  | other leads something ordinary => exact something

theorem writing_free (q : Location) (found : t.findForWriting work path = .ok (.free q)) : t.Fillable q (.free q) := by
  obtain ⟨p, parsed⟩ := writing_parsed found
  obtain ⟨-, walked⟩ := (writing_walk p parsed _ (by simp)).mp found
  exact ⟨rfl, walk_found _ _ _ _ walked (by simp)⟩

theorem writing_taken (q : Location) (node : Node) (blocked : Blocked (some node))
    (found : t.findForWriting work path = .ok (.taken q node)) : t.Fillable q (.taken q node) := by
  have plain : ∀ p, Spot.taken q node ≠ .taken p .directory := by
    rintro p same
    obtain ⟨-, rfl⟩ := Spot.taken.inj same
    exact blocked
  obtain ⟨p, parsed⟩ := writing_parsed found
  obtain ⟨-, walked⟩ := (writing_walk p parsed _ plain).mp found
  exact ⟨rfl, blocked, walk_found _ _ _ _ walked plain⟩

end Overseer.Files.Tree
