import Overseer.Proofs.Files.Entry

set_option autoImplicit false

namespace Overseer.Files.Tree

variable {t t' : Tree} {work place : Location} {directory name : String}

theorem opens_nonempty (opens : t.Opens work directory place) : directory ≠ "" := by
  obtain ⟨p, left, parsed, -⟩ := opens_leads opens
  exact ((parsed_text directory p).mp parsed).2.1

theorem writing_found (path : String) (spot : Spot) (found : t.findForWriting work path = .ok spot) :
    t.find work true path = .ok spot := by
  unfold findForWriting at found
  unfold find
  cases parsed : Path.ofText path with
  | error r =>
      rw [parsed] at found
      cases found
  | ok p =>
      simp only [parsed] at found
      change t.locate work true p = _
      split at found
      · next located =>
          split at found
          · cases found
          · exact located.trans found
      · cases found
      · exact found

theorem writing_entry (opens : t.Opens work directory place) (proper : Proper name) (fits : Fits directory name)
    (ordinary : Ordinary (t.node? (.text name :: place))) (free : t.node? (.text name :: place) ≠ some .directory) :
    t.findForWriting work (Path.join directory name) = .ok (t.spot (.text name :: place)) := by
  obtain ⟨p, parsed, unslashed, located⟩ := locate_entry opens proper fits ordinary
  unfold findForWriting
  rw [parsed]
  simp only [located true, spot]
  cases found : t.node? (.text name :: place) with
  | none => simp [unslashed]
  | some node =>
      cases node with
      | directory => exact absurd found free
      | _ => rfl

theorem writing_directory (opens : t.Opens work directory place) (proper : Proper name) (fits : Fits directory name)
    (taken : t.node? (.text name :: place) = some .directory) :
    t.findForWriting work (Path.join directory name) = .error .isDirectory := by
  obtain ⟨p, parsed, -, located⟩ := locate_entry opens proper fits (taken ▸ trivial)
  unfold findForWriting
  rw [parsed]
  simp only [located true, spot, taken]

theorem writing_granted (opens : t.Opens work directory place) (proper : Proper name)
    (ordinary : Ordinary (t.node? (.text name :: place))) (spot : Spot)
    (found : t.findForWriting work (Path.join directory name) = .ok spot) :
    Fits directory name ∧ t.node? (.text name :: place) ≠ some .directory ∧ spot = t.spot (.text name :: place) := by
  have fits := (found_entry true (opens_nonempty opens) proper spot (writing_found _ spot found)).1
  by_cases taken : t.node? (.text name :: place) = some .directory
  · rw [writing_directory opens proper fits taken] at found
    cases found
  · rw [writing_entry opens proper fits ordinary taken] at found
    exact ⟨fits, taken, (Except.ok.inj found).symm⟩

theorem create_entry (opens : t.Opens work directory place) (proper : Proper name) (fits : Fits directory name)
    (ordinary : Ordinary (t.node? (.text name :: place))) (free : t.node? (.text name :: place) ≠ some .directory) :
    ∃ mode, t.create work (Path.join directory name) =
      .ok (t.put (.text name :: place) (.file ByteArray.empty mode)) := by
  unfold create
  rw [writing_entry opens proper fits ordinary free]
  unfold spot
  cases found : t.node? (.text name :: place) with
  | none => exact ⟨_, rfl⟩
  | some node =>
      rw [found] at ordinary free
      cases node with
      | directory => exact absurd rfl free
      | file content mode => exact ⟨mode, rfl⟩
      | _ => exact absurd ordinary id

theorem create_granted (opens : t.Opens work directory place) (proper : Proper name)
    (ordinary : Ordinary (t.node? (.text name :: place)))
    (granted : t.create work (Path.join directory name) = .ok t') :
    t.node? (.text name :: place) ≠ some .directory ∧ ∃ mode, t' = t.put (.text name :: place) (.file ByteArray.empty mode) := by
  cases found : t.findForWriting work (Path.join directory name) with
  | error r =>
      unfold create at granted
      rw [found] at granted
      cases granted
  | ok spot =>
      obtain ⟨fits, free, -⟩ := writing_granted opens proper ordinary spot found
      obtain ⟨mode, created⟩ := create_entry opens proper fits ordinary free
      exact ⟨free, mode, Except.ok.inj (granted.symm.trans created)⟩

theorem extend_entry (opens : t.Opens work directory place) (proper : Proper name) (fits : Fits directory name)
    (content bytes : ByteArray) (mode : Nat) (file : t.node? (.text name :: place) = some (.file content mode)) :
    t.extend work (Path.join directory name) bytes =
      .ok (t.put (.text name :: place) (.file (content ++ bytes) mode)) := by
  unfold extend
  rw [writing_entry opens proper fits (file ▸ trivial) (by simp [file]), spot, file]

theorem extend_granted (opens : t.Opens work directory place) (proper : Proper name) (content bytes : ByteArray)
    (mode : Nat) (file : t.node? (.text name :: place) = some (.file content mode))
    (granted : t.extend work (Path.join directory name) bytes = .ok t') :
    t' = t.put (.text name :: place) (.file (content ++ bytes) mode) := by
  cases found : t.findForWriting work (Path.join directory name) with
  | error r =>
      unfold extend at granted
      rw [found] at granted
      cases granted
  | ok spot =>
      have fits := (writing_granted opens proper (file ▸ trivial) spot found).1
      exact Except.ok.inj (granted.symm.trans (extend_entry opens proper fits content bytes mode file))

theorem extend_file (opens : t.Opens work directory place) (proper : Proper name) (bytes : ByteArray)
    (ordinary : Ordinary (t.node? (.text name :: place)))
    (granted : t.extend work (Path.join directory name) bytes = .ok t') :
    ∃ content mode, t.node? (.text name :: place) = some (.file content mode) := by
  unfold extend at granted
  cases found : t.findForWriting work (Path.join directory name) with
  | error r =>
      rw [found] at granted
      cases granted
  | ok own =>
      obtain ⟨-, free, rfl⟩ := writing_granted opens proper ordinary own found
      rw [found, spot] at granted
      cases node : t.node? (.text name :: place) with
      | none =>
          rw [node] at granted
          cases granted
      | some n =>
          rw [node] at ordinary
          cases n with
          | directory => exact absurd node free
          | file content mode => exact ⟨content, mode, rfl⟩
          | _ => exact absurd ordinary id

theorem sync_entry (opens : t.Opens work directory place) (proper : Proper name) (fits : Fits directory name)
    (content : ByteArray) (mode : Nat) (file : t.node? (.text name :: place) = some (.file content mode)) :
    t.sync work (Path.join directory name) = .ok t := by
  unfold sync
  rw [writing_entry opens proper fits (file ▸ trivial) (by simp [file]), spot, file]

theorem sync_granted (path : String) (granted : t.sync work path = .ok t') : t' = t := by
  unfold sync at granted
  split at granted
  · cases granted
  · cases granted
  · cases granted
  · exact (Except.ok.inj granted).symm

theorem rename_entry (other : String) (opens : t.Opens work directory place) (proper : Proper name)
    (properOther : Proper other) (fits : Fits directory name) (fitsOther : Fits directory other) (different : name ≠ other)
    (content : ByteArray) (mode : Nat) (file : t.node? (.text name :: place) = some (.file content mode))
    (ordinary : Ordinary (t.node? (.text other :: place))) (free : t.node? (.text other :: place) ≠ some .directory) :
    t.rename work (Path.join directory name) (Path.join directory other) =
      .ok ((t.erase (.text name :: place)).put (.text other :: place) (.file content mode)) := by
  obtain ⟨p, parsed, unslashed, located⟩ := locate_entry opens properOther fitsOther ordinary
  have apart : Name.text other :: place ≠ Name.text name :: place := by
    simpa using Ne.symm different
  unfold rename
  rw [find_entry false opens proper fits (file ▸ trivial), spot, file]
  simp only [parsed, located false, spot]
  cases found : t.node? (.text other :: place) with
  | none => simp [unslashed]
  | some node =>
      rw [found] at ordinary free
      cases node with
      | directory => exact absurd rfl free
      | file old oldMode => simp only [apart, if_false]
      | _ => exact absurd ordinary id

theorem rename_found (source target : String) (granted : t.rename work source target = .ok t') :
    (∃ spot, t.find work false source = .ok spot) ∧ ∃ spot, t.find work false target = .ok spot := by
  unfold rename at granted
  split at granted
  · cases granted
  · cases granted
  · cases granted
  · next place node other found =>
      refine ⟨⟨_, found⟩, ?_⟩
      unfold find
      split at granted
      · cases granted
      · next p parsed =>
          split at granted
          · cases granted
          · cases granted
          · next located => exact ⟨_, located⟩
          · next located => exact ⟨_, located⟩

theorem read_granted (opens : t.Opens work directory place) (proper : Proper name)
    (ordinary : Ordinary (t.node? (.text name :: place))) (bytes : ByteArray)
    (granted : t.read work (Path.join directory name) = .ok bytes) :
    ∃ mode, t.node? (.text name :: place) = some (.file bytes mode) := by
  unfold read at granted
  cases found : t.find work true (Path.join directory name) with
  | error r =>
      rw [found] at granted
      cases granted
  | ok own =>
      have fits := (found_entry true (opens_nonempty opens) proper own found).1
      rw [find_entry true opens proper fits ordinary, spot] at granted
      cases node : t.node? (.text name :: place) with
      | none =>
          rw [node] at granted
          cases granted
      | some n =>
          rw [node] at granted ordinary
          cases n with
          | directory => cases granted
          | file content mode => exact ⟨mode, by rw [Except.ok.inj granted]⟩
          | _ => exact absurd ordinary id

theorem read_entry (opens : t.Opens work directory place) (proper : Proper name) (fits : Fits directory name)
    (content : ByteArray) (mode : Nat) (file : t.node? (.text name :: place) = some (.file content mode)) :
    t.read work (Path.join directory name) = .ok content := by
  unfold read
  rw [find_entry true opens proper fits (file ▸ trivial), spot, file]

theorem list_opens (opens : t.Opens work directory place) : t.list work directory = .ok (t.names place) := by
  unfold list
  rw [opens]

-- A path or a name that is too long finds nothing, whatever is there.
theorem find_unfit (follow : Bool) (opens : t.Opens work directory place) (proper : Proper name)
    (unfit : ¬Fits directory name) : t.find work follow (Path.join directory name) = .error .nameTooLong := by
  cases found : t.find work follow (Path.join directory name) with
  | ok spot => exact absurd (found_entry follow (opens_nonempty opens) proper spot found).1 unfit
  | error r =>
      obtain ⟨p, left, parsed, leads⟩ := opens_leads opens
      rw [← found, find, parsed_join directory name proper p parsed]
      by_cases long : Path.limit ≤ (Path.join directory name).utf8ByteSize
      · rw [if_pos long]
      · rw [if_neg long]
        change t.locate work follow _ = _
        rw [locate_unslashed follow _ rfl, walk_leads follow leads [.into (.text name)] (.inr (by simp)), List.nil_append, walk]
        cases short : (Name.text name).isTooLong with
        | true => rfl
        | false => exact absurd ⟨Nat.not_le.mp long, short⟩ unfit

-- What is found of an entry depends on the way to the directory and on the entry alone.
theorem read_same (opens : t.Opens work directory place) (opens' : t'.Opens work directory place) (proper : Proper name)
    (ordinary : Ordinary (t.node? (.text name :: place)))
    (same : t'.node? (.text name :: place) = t.node? (.text name :: place)) :
    t'.read work (Path.join directory name) = t.read work (Path.join directory name) := by
  unfold read
  by_cases fits : Fits directory name
  · rw [find_entry true opens proper fits ordinary, find_entry true opens' proper fits (same ▸ ordinary), spot, spot, same]
  · rw [find_unfit true opens proper fits, find_unfit true opens' proper fits]

end Overseer.Files.Tree
