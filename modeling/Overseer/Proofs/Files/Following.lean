import Overseer.Proofs.Files.Home
import Overseer.Proofs.Files.Standing

set_option autoImplicit false

namespace Overseer.Files.Tree

variable {t t' : Tree} {work place goal : Location} {links left : Nat} {steps rest : List Step} {directory name other : String}

theorem walk_budget (follow : Bool) (spot : Spot) {more : Nat} (le : links ≤ more)
    (found : t.walk follow links place steps = .ok spot) : t.walk follow more place steps = .ok spot := by
  fun_induction walk t follow links place steps generalizing more with
  | case1 links place => rwa [walk]
  | case2 links place rest ih =>
      rw [walk]
      exact ih le found
  | case3 links place rest ih =>
      rw [walk]
      exact ih le found
  | case4 => cases found
  | case5 links place n short nothing =>
      rw [walk]
      simpa [short, nothing] using found
  | case6 => cases found
  | case7 links place n rest short directory ih =>
      rw [walk]
      simp only [short, Bool.false_eq_true, if_false, directory]
      exact ih le found
  | case8 links place n rest short target link last =>
      rw [walk]
      simpa only [short, Bool.false_eq_true, if_false, link, last, if_true] using found
  | case9 => cases found
  | case10 => cases found
  | case11 place n rest short target link last links p parsed ih =>
      obtain ⟨more, rfl⟩ := Nat.exists_eq_add_of_le' (Nat.le_trans (Nat.succ_le_succ (Nat.zero_le links)) le)
      rw [walk]
      simp only [short, Bool.false_eq_true, if_false, link, last, parsed]
      exact ih (Nat.le_of_succ_le_succ le) found
  | case12 links place n short node directory link something =>
      rw [walk]
      cases node with
      | directory => exact absurd rfl directory
      | link target => exact absurd rfl (link target)
      | _ => simpa [short, something] using found
  | case13 => cases found

theorem leads_left (leads : Leads t links place steps left goal rest) : left ≤ links := by
  induction leads with
  | start => exact Nat.le_refl _
  | here later ih => exact ih
  | up later ih => exact ih
  | into short directory later ih => exact ih
  | link short link parsed later ih => exact Nat.le_succ_of_le ih

theorem leads_first (first more : List Step) (leads : Leads t links place (first ++ more) left goal rest) (none : rest = []) :
    ∃ left' goal', Leads t links place first left' goal' [] := by
  cases leads_passes leads first more rfl with
  | @within between inside =>
      obtain ⟨rfl, -⟩ := List.append_eq_nil_iff.mp none
      exact ⟨_, _, inside⟩
  | beyond inside => exact ⟨_, _, inside⟩

-- Nothing has changed but what no walk could go through.
def Steady (t t' : Tree) : Prop := ∀ q, t'.node? q = t.node? q ∨ Blocked (t.node? q) ∧ Blocked (t'.node? q)

theorem steady_refl (t : Tree) : Steady t t := fun _ => .inl rfl

theorem steady_trans {t'' : Tree} (first : Steady t t') (second : Steady t' t'') : Steady t t'' := by
  intro q
  rcases first q with same | ⟨before, between⟩
  · rw [← same]
    exact second q
  · rcases second q with same | ⟨-, after⟩
    · exact .inr ⟨before, same ▸ between⟩
    · exact .inr ⟨before, after⟩

theorem steady_blocked (steady : Steady t t') {q : Location} (blocked : Blocked (t.node? q)) : Blocked (t'.node? q) := by
  rcases steady q with same | ⟨-, after⟩
  · exact same ▸ blocked
  · exact after

theorem steady_opens (steady : Steady t t') (opens : t.Opens work directory place) : t'.Opens work directory place := by
  have kept (q : Location) (node : Node) (found : t.node? q = some node) (passable : ¬Blocked (some node)) :
      t'.node? q = some node := by
    rcases steady q with same | ⟨before, -⟩
    · exact same.trans found
    · exact absurd (found ▸ before) passable
  exact opens_kept opens (fun q found => kept q _ found id) fun q target found => kept q _ found id

theorem steady_put {spot : Spot} (fillable : t.Fillable goal spot) (content : ByteArray) (mode : Nat) :
    Steady t (t.put goal (.file content mode)) := by
  have blocked := fillable_blocked fillable
  cases goal with
  | nil => exact absurd blocked id
  | cons n d =>
      intro q
      rw [node_put]
      split
      · next same => exact .inr ⟨same ▸ blocked, trivial⟩
      · exact .inl rfl

theorem create_steady (path : String) (granted : t.create work path = .ok t') : Steady t t' := by
  unfold create at granted
  split at granted
  · cases granted
  · next q found =>
      obtain rfl := Except.ok.inj granted
      exact steady_put (writing_free q found) _ _
  · next q content mode found =>
      obtain rfl := Except.ok.inj granted
      exact steady_put (writing_taken q (.file content mode) trivial found) _ _
  · next q called found =>
      obtain rfl := Except.ok.inj granted
      exact steady_put (writing_taken q (.tool called) trivial found) _ _
  · obtain rfl := Except.ok.inj granted
    exact steady_refl t

theorem extend_steady (path : String) (bytes : ByteArray) (granted : t.extend work path bytes = .ok t') : Steady t t' := by
  unfold extend at granted
  split at granted
  · cases granted
  · cases granted
  · next q content mode found =>
      obtain rfl := Except.ok.inj granted
      exact steady_put (writing_taken q (.file content mode) trivial found) _ _
  · split at granted
    · obtain rfl := Except.ok.inj granted
      exact steady_refl t
    · cases granted
  · obtain rfl := Except.ok.inj granted
    exact steady_refl t

theorem writing_plain (path : String) (spot : Spot) (found : t.findForWriting work path = .ok spot) (q : Location) :
    spot ≠ .taken q .directory := by
  rintro rfl
  unfold findForWriting at found
  split at found
  · cases found
  · split at found
    · split at found <;> cases found
    · cases found
    · next spot plain => exact plain _ found

theorem sync_found (path : String) (granted : t.sync work path = .ok t') :
    ∃ spot, t.findForWriting work path = .ok spot := by
  unfold sync at granted
  cases found : t.findForWriting work path with
  | error r =>
      rw [found] at granted
      cases granted
  | ok spot => exact ⟨spot, rfl⟩

-- A way that ends with so many links left stays, where a place on it is no directory and no link through
-- which that many could have been followed to one.
theorem leads_past (q : Location) (plain : t.node? q ≠ some .directory)
    (dead : ∀ links n d target p left' goal', left ≤ links → q = n :: d → t.node? q = some (.link target) →
      Path.ofText target = .ok p → ¬Leads t links (if p.fromRoot then [] else d) p.steps left' goal' [])
    (same : ∀ p, p ≠ q → t'.node? p = t.node? p) (leads : Leads t links place steps left goal []) :
    Leads t' links place steps left goal [] := by
  generalize none : ([] : List Step) = rest at leads
  induction leads with
  | start =>
      subst none
      exact .start _ _ _
  | here later ih => exact .here (ih dead none)
  | up later ih => exact .up (ih dead none)
  | @into links left place goal steps rest n short directory later ih =>
      have apart : n :: place ≠ q := by
        rintro rfl
        exact plain directory
      exact .into short ((same _ apart).trans directory) (ih dead none)
  | @link links left place goal steps rest n target p short link parsed later ih =>
      have apart : n :: place ≠ q := by
        rintro rfl
        subst none
        obtain ⟨left', goal', first⟩ := leads_first p.steps steps later rfl
        exact dead links n place target p left' goal' (leads_left later) rfl link parsed first
      exact .link short ((same _ apart).trans link) parsed (ih dead none)

-- A writer who finds something by an entry's path finds no directory, so the way to the directory does not
-- go through the entry.
theorem opens_unwritten (opens : t.Opens work directory place) (proper : Proper name) (spot : Spot)
    (found : t.findForWriting work (Path.join directory name) = .ok spot) :
    (t.erase (.text name :: place)).Opens work directory place := by
  have fits := (found_entry true (opens_nonempty opens) proper spot (writing_found _ spot found)).1
  have plain := writing_plain _ spot found
  obtain ⟨p, left, parsed, leads⟩ := opens_leads opens
  have joined := parsed_join directory name proper p parsed
  rw [if_neg (Nat.not_le.mpr fits.1)] at joined
  obtain ⟨-, walked⟩ := (writing_walk _ joined spot plain).mp found
  rw [walk_leads true leads [.into (.text name)] (.inl rfl), List.nil_append, walk] at walked
  simp only [fits.2, Bool.false_eq_true, if_false] at walked
  have same (q : Location) (other : q ≠ .text name :: place) : (t.erase (.text name :: place)).node? q = t.node? q := by
    rw [node_erase, if_neg other]
  cases node : t.node? (.text name :: place) with
  | none => exact opens_erase opens _ _ (node ▸ trivial)
  | some held =>
      rw [node] at walked
      cases held with
      | directory =>
          simp only [walk, Except.ok.injEq] at walked
          exact absurd walked.symm (plain _)
      | link target =>
          -- The writer has followed the link to no directory, so nobody gets to one through it with fewer links to go.
          cases left with
          | zero => simp at walked
          | succ left =>
              cases aim : Path.ofText target with
              | error r => simp [aim] at walked
              | ok aim' =>
                  simp only [aim, Bool.not_true, Bool.and_false, Bool.false_eq_true, if_false, List.append_nil] at walked
                  refine leads_opens p _ parsed (leads_past _ (by simp [node]) ?_ same leads)
                  intro links n d target' p' left' goal' le own link parsed' further
                  obtain ⟨rfl, rfl⟩ := List.cons_eq_cons.mp own
                  obtain rfl : target = target' := by simpa [node] using link
                  obtain rfl : aim' = p' := Except.ok.inj (aim.symm.trans parsed')
                  have again := walk_budget true spot (Nat.le_of_succ_le le) walked
                  rw [walk_arrived further] at again
                  exact absurd (Except.ok.inj again).symm (plain _)
      | _ => exact opens_erase opens _ _ (node ▸ trivial)

section Moved

variable {source : String} {start : Location} {node : Node} (found : t.find work false source = .ok (.taken start node))
  (moved : node ≠ .directory)

include found moved

theorem rename_from (target : String) : t.rename work source target =
    match Path.ofText target with
    | .error r => .error r
    | .ok p =>
      match t.locate work false p with
      | .error r => .error r
      | .ok (.taken _ .directory) => .error .isDirectory
      | .ok (.taken goal _) => .ok (if goal = start then t else (t.erase start).put goal node)
      | .ok (.free goal) => if p.slashed then .error .notDirectory else .ok ((t.erase start).put goal node) := by
  unfold rename
  rw [found]
  cases node with
  | directory => exact absurd rfl moved
  | _ => rfl

theorem rename_unplaced (target : String) (r : Refusal) (refused : t.find work false target = .error r) :
    t.rename work source target = .error r := by
  unfold find at refused
  rw [rename_from found moved]
  cases parsed : Path.ofText target with
  | error e =>
      rw [parsed] at refused
      exact congrArg Except.error (Except.error.inj refused)
  | ok p =>
      rw [parsed] at refused
      change t.locate work false p = _ at refused
      simp only [refused]

theorem rename_placed (opens : t.Opens work directory place) (properOther : Proper other) (fitsOther : Fits directory other)
    (apart : .text other :: place ≠ start) :
    t.rename work source (Path.join directory other) =
      match t.node? (.text other :: place) with
      | some .directory => .error .isDirectory
      | _ => .ok ((t.erase start).put (.text other :: place) node) := by
  obtain ⟨p, parsed, unslashed, located⟩ := locate_end false opens properOther fitsOther (by simp)
  rw [rename_from found moved, parsed]
  simp only [located, spot]
  cases t.node? (.text other :: place) with
  | none => simp [unslashed]
  | some held => cases held <;> simp [apart]

end Moved

theorem rename_moves (other : String) (opens : t.Opens work directory place) (proper : Proper name)
    (properOther : Proper other) (different : name ≠ other)
    (granted : t.rename work (Path.join directory name) (Path.join directory other) = .ok t') :
    ∃ node, t.node? (.text name :: place) = some node ∧ node ≠ .directory ∧
      t.node? (.text other :: place) ≠ some .directory ∧
      t' = (t.erase (.text name :: place)).put (.text other :: place) node := by
  obtain ⟨⟨from_, here⟩, ⟨to_, there⟩⟩ := rename_found _ _ granted
  have fits := (found_entry false (opens_nonempty opens) proper from_ here).1
  have fitsOther := (found_entry false (opens_nonempty opens) properOther to_ there).1
  have found := find_end false opens proper fits (by simp)
  cases stood : t.node? (.text name :: place) with
  | none =>
      rw [spot, stood] at found
      rw [rename, found] at granted
      cases granted
  | some node =>
      rw [spot, stood] at found
      have moved : node ≠ .directory := by
        rintro rfl
        rw [rename, found] at granted
        cases granted
      rw [rename_placed found moved opens properOther fitsOther (by simpa using different.symm)] at granted
      split at granted
      · cases granted
      · next free => exact ⟨node, rfl, moved, free, (Except.ok.inj granted).symm⟩

end Overseer.Files.Tree
