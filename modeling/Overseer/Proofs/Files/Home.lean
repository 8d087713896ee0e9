import Overseer.Proofs.Files.Making

set_option autoImplicit false

namespace Overseer.Files.Tree

variable {t t' : Tree} {work place : Location} {directory name : String}

theorem walk_end (follow : Bool) (links : Nat) (n : Name) (short : n.isTooLong = false)
    (plain : follow = true → ∀ target, t.node? (n :: place) ≠ some (.link target)) :
    t.walk follow links place [.into n] = .ok (t.spot (n :: place)) := by
  rw [walk]
  simp only [short, Bool.false_eq_true, if_false, spot]
  cases found : t.node? (n :: place) with
  | none => simp
  | some node =>
      cases node with
      | directory => simp [walk]
      | link target =>
          cases follow with
          | false => simp
          | true => exact absurd found (plain rfl target)
      | _ => simp

theorem locate_end (follow : Bool) (opens : t.Opens work directory place) (proper : Proper name)
    (fits : Fits directory name)
    (plain : follow = true → ∀ target, t.node? (.text name :: place) ≠ some (.link target)) :
    ∃ p, Path.ofText (Path.join directory name) = .ok p ∧ p.slashed = false ∧
      t.locate work follow p = .ok (t.spot (.text name :: place)) := by
  obtain ⟨p, left, parsed, leads⟩ := opens_leads opens
  refine ⟨⟨p.fromRoot, p.steps ++ [.into (.text name)], false⟩, ?_, rfl, ?_⟩
  · rw [parsed_join directory name proper p parsed, if_neg (Nat.not_le.mpr fits.1)]
  · rw [locate_unslashed follow _ rfl, walk_leads follow leads [.into (.text name)] (.inr (by simp))]
    exact walk_end follow left (.text name) fits.2 plain

theorem find_end (follow : Bool) (opens : t.Opens work directory place) (proper : Proper name) (fits : Fits directory name)
    (plain : follow = true → ∀ target, t.node? (.text name :: place) ≠ some (.link target)) :
    t.find work follow (Path.join directory name) = .ok (t.spot (.text name :: place)) := by
  obtain ⟨p, parsed, -, located⟩ := locate_end follow opens proper fits plain
  rw [find, parsed]
  exact located

theorem writing_unlinked (opens : t.Opens work directory place) (proper : Proper name) (fits : Fits directory name)
    (plain : ∀ target, t.node? (.text name :: place) ≠ some (.link target))
    (free : t.node? (.text name :: place) ≠ some .directory) :
    t.findForWriting work (Path.join directory name) = .ok (t.spot (.text name :: place)) := by
  obtain ⟨p, parsed, unslashed, located⟩ := locate_end true opens proper fits fun _ => plain
  unfold findForWriting
  rw [parsed]
  simp only [located, spot]
  cases found : t.node? (.text name :: place) with
  | none => simp [unslashed]
  | some node =>
      cases node with
      | directory => exact absurd found free
      | _ => rfl

-- Where a file can be put without following anything.
def Linkless : Option Node → Prop
  | some (.link _) => False
  | _ => True

instance (node : Option Node) : Decidable (Linkless node) := by
  unfold Linkless
  split <;> infer_instance

theorem linkless_link {node : Option Node} (linkless : Linkless node) (target : String) : node ≠ some (.link target) := by
  rintro rfl
  exact linkless

theorem linkless_ordinary {node : Option Node} (ordinary : Ordinary node) : Linkless node := by
  cases node with
  | none => trivial
  | some node =>
      cases node with
      | directory => trivial
      | file content mode => trivial
      | _ => exact absurd ordinary id

theorem linkless_blocked {node : Option Node} (linkless : Linkless node) (free : node ≠ some .directory) : Blocked node := by
  cases node with
  | none => trivial
  | some held =>
      cases held with
      | directory => exact free rfl
      | link target => exact linkless
      | _ => trivial

def IsDevice (node : Option Node) : Prop := node = some .sinkDevice ∨ node = some .fullDevice

theorem device_ordinary {node : Option Node} (ordinary : Ordinary node) : ¬IsDevice node := by
  rintro (rfl | rfl) <;> exact ordinary

theorem device_writing (opens : t.Opens work directory place) (proper : Proper name)
    (device : IsDevice (t.node? (.text name :: place))) :
    (∃ r, t.findForWriting work (Path.join directory name) = .error r) ∨
      t.findForWriting work (Path.join directory name) = .ok (t.spot (.text name :: place)) := by
  cases found : t.findForWriting work (Path.join directory name) with
  | error r => exact .inl ⟨r, rfl⟩
  | ok spot =>
      have fits := (found_entry true (opens_nonempty opens) proper spot (writing_found _ spot found)).1
      have writing := writing_unlinked opens proper fits
      right
      rw [← found]
      rcases device with sink | full
      · exact writing (by simp [sink]) (by simp [sink])
      · exact writing (by simp [full]) (by simp [full])

theorem extend_device (opens : t.Opens work directory place) (proper : Proper name)
    (device : IsDevice (t.node? (.text name :: place))) (bytes : ByteArray)
    (granted : t.extend work (Path.join directory name) bytes = .ok t') : t' = t := by
  unfold extend at granted
  rcases device_writing opens proper device with ⟨r, refused⟩ | found
  · rw [refused] at granted
    cases granted
  · rw [found, spot] at granted
    rcases device with sink | full
    · rw [sink] at granted
      exact (Except.ok.inj granted).symm
    · rw [full] at granted
      dsimp only at granted
      split at granted
      · exact (Except.ok.inj granted).symm
      · cases granted

theorem sync_device (opens : t.Opens work directory place) (proper : Proper name)
    (device : IsDevice (t.node? (.text name :: place))) : t.sync work (Path.join directory name) ≠ .ok t' := by
  unfold sync
  rcases device_writing opens proper device with ⟨r, refused⟩ | found
  · rw [refused]
    simp
  · rw [found, spot]
    rcases device with sink | full
    · simp [sink]
    · simp [full]

-- What is created is a file, or a device that stays as it is.
theorem create_linkless (opens : t.Opens work directory place) (proper : Proper name)
    (linkless : Linkless (t.node? (.text name :: place)))
    (granted : t.create work (Path.join directory name) = .ok t') :
    t' = t ∧ IsDevice (t.node? (.text name :: place)) ∨
      Blocked (t.node? (.text name :: place)) ∧
        ∃ mode, t' = t.put (.text name :: place) (.file ByteArray.empty mode) := by
  unfold create at granted
  cases writing : t.findForWriting work (Path.join directory name) with
  | error r =>
      rw [writing] at granted
      cases granted
  | ok found =>
      have fits := (found_entry true (opens_nonempty opens) proper found (writing_found _ found writing)).1
      have free : t.node? (.text name :: place) ≠ some .directory := by
        intro taken
        rw [writing_directory opens proper fits taken] at writing
        cases writing
      rw [writing_unlinked opens proper fits (linkless_link linkless) free, spot] at granted
      cases node : t.node? (.text name :: place) with
      | none =>
          rw [node] at granted
          exact .inr ⟨trivial, _, (Except.ok.inj granted).symm⟩
      | some held =>
          rw [node] at granted
          cases held with
          | directory => exact absurd node free
          | link target => exact absurd node (linkless_link linkless target)
          | file content mode => exact .inr ⟨trivial, _, (Except.ok.inj granted).symm⟩
          | tool called => exact .inr ⟨trivial, _, (Except.ok.inj granted).symm⟩
          | sinkDevice => exact .inl ⟨(Except.ok.inj granted).symm, .inl rfl⟩
          | fullDevice => exact .inl ⟨(Except.ok.inj granted).symm, .inr rfl⟩

theorem remove_granted (opens : t.Opens work directory place) (proper : Proper name)
    (granted : t.remove work (Path.join directory name) = .ok t') :
    t.node? (.text name :: place) ≠ some .directory ∧ t' = t.erase (.text name :: place) := by
  unfold remove at granted
  cases found : t.find work false (Path.join directory name) with
  | error r =>
      rw [found] at granted
      cases granted
  | ok own =>
      have fits := (found_entry false (opens_nonempty opens) proper own found).1
      rw [find_end false opens proper fits (by simp), spot] at granted
      cases node : t.node? (.text name :: place) with
      | none =>
          rw [node] at granted
          cases granted
      | some n =>
          rw [node] at granted
          cases n with
          | directory => cases granted
          | _ => exact ⟨by simp, (Except.ok.inj granted).symm⟩

def contents : Option Node → Option ByteArray
  | some (.file content _) => some content
  | none | some .directory | some (.link _) => none
  | some _ => some ByteArray.empty

theorem read_linkless (opens : t.Opens work directory place) (proper : Proper name)
    (linkless : Linkless (t.node? (.text name :: place))) (bytes : ByteArray) :
    t.read work (Path.join directory name) = .ok bytes ↔
      Fits directory name ∧ contents (t.node? (.text name :: place)) = some bytes := by
  unfold read
  by_cases fits : Fits directory name
  · rw [find_end true opens proper fits fun _ => linkless_link linkless, spot]
    cases node : t.node? (.text name :: place) with
    | none => simp [contents]
    | some n =>
        rw [node] at linkless
        cases n with
        | link target => exact absurd linkless id
        | _ => simp [contents, fits]
  · cases found : t.find work true (Path.join directory name) with
    | error r => simp [fits]
    | ok own => exact absurd (found_entry true (opens_nonempty opens) proper own found).1 fits

-- A file takes the place of whatever its new name stood for, a link included.
theorem rename_over (other : String) (opens : t.Opens work directory place) (proper : Proper name)
    (properOther : Proper other) (different : name ≠ other) (content : ByteArray) (mode : Nat)
    (file : t.node? (.text name :: place) = some (.file content mode))
    (granted : t.rename work (Path.join directory name) (Path.join directory other) = .ok t') :
    Fits directory other ∧ t.node? (.text other :: place) ≠ some .directory ∧
      t' = (t.erase (.text name :: place)).put (.text other :: place) (.file content mode) := by
  obtain ⟨⟨from_, here⟩, ⟨to_, there⟩⟩ := rename_found _ _ granted
  have fits := (found_entry false (opens_nonempty opens) proper from_ here).1
  have fitsOther := (found_entry false (opens_nonempty opens) properOther to_ there).1
  refine ⟨fitsOther, ?_⟩
  obtain ⟨p, parsed, unslashed, located⟩ := locate_end false opens properOther fitsOther (by simp)
  have apart : Name.text other :: place ≠ Name.text name :: place := by
    simpa using Ne.symm different
  unfold rename at granted
  rw [find_entry false opens proper fits (file ▸ trivial), spot, file] at granted
  simp only [parsed, located, spot] at granted
  cases found : t.node? (.text other :: place) with
  | none =>
      rw [found] at granted
      exact ⟨by simp, by simpa [unslashed, eq_comm] using granted⟩
  | some node =>
      rw [found] at granted
      cases node with
      | directory => cases granted
      | _ => exact ⟨by simp, by simpa [apart, eq_comm] using granted⟩

-- The way to the directory leads past these places, whatever stands there.
def Avoids (t : Tree) (work : Location) (directory : String) (place : Location) (past : Location → Prop) : Prop :=
  ∀ t' : Tree, (∀ p, ¬past p → t'.node? p = t.node? p) → t'.Opens work directory place

theorem avoids_blocked (opens : t.Opens work directory place) {q : Location} (blocked : Blocked (t.node? q)) :
    t.Avoids work directory place (· = q) :=
  fun _ same => opens_elsewhere opens q blocked same

theorem avoids_nothing (opens : t.Opens work directory place) {past : Location → Prop} (nothing : ∀ p, ¬past p) :
    t.Avoids work directory place past :=
  fun _ same => opens_kept opens (fun q found => (same q (nothing q)).trans found) fun q _ found => (same q (nothing q)).trans found

theorem written_over {created filled synced : Tree} {bytes : ByteArray} (other : String) (opens : t.Opens work directory place)
    (proper : Proper name) (properOther : Proper other) (different : name ≠ other)
    (linkless : Linkless (t.node? (.text name :: place)))
    (creating : t.create work (Path.join directory name) = .ok created)
    (filling : created.extend work (Path.join directory name) bytes = .ok filled)
    (syncing : filled.sync work (Path.join directory name) = .ok synced)
    (naming : synced.rename work (Path.join directory name) (Path.join directory other) = .ok t') :
    Blocked (t.node? (.text name :: place)) ∧ Fits directory other ∧ t.node? (.text other :: place) ≠ some .directory ∧
      ∃ mode, t'.node? (.text other :: place) = some (.file bytes mode) ∧ t'.node? (.text name :: place) = none ∧
      ∀ q, q ≠ .text other :: place → q ≠ .text name :: place → t'.node? q = t.node? q := by
  have apart : Name.text name :: place ≠ Name.text other :: place := by simpa using different
  rcases create_linkless opens proper linkless creating with ⟨rfl, device⟩ | ⟨blocked, mode, rfl⟩
  · obtain rfl := extend_device opens proper device bytes filling
    exact absurd syncing (sync_device opens proper device)
  · have file : (t.put (.text name :: place) (.file .empty mode)).node? (.text name :: place) = some (.file .empty mode) := by
      rw [node_put, if_pos rfl]
    have opens := opens_put opens (.text name) place (.file .empty mode) blocked
    obtain rfl := extend_granted opens proper .empty bytes mode file filling
    have longer := opens_put opens (.text name) place (.file (.empty ++ bytes) mode) (file ▸ trivial)
    obtain rfl := sync_granted _ syncing
    rw [ByteArray.empty_append] at longer naming
    obtain ⟨fits, open_, rfl⟩ := rename_over other longer proper properOther different bytes mode
      (by rw [node_put, if_pos rfl]) naming
    rw [node_put, if_neg apart.symm, node_put, if_neg apart.symm] at open_
    refine ⟨blocked, fits, open_, mode, by rw [node_put, if_pos rfl], ?_, fun q own temporary => ?_⟩
    · rw [node_put, if_neg apart, node_erase, if_pos rfl]
    · rw [node_put, if_neg own, node_erase, if_neg temporary, node_put, if_neg temporary, node_put, if_neg temporary]

theorem leads_made (p : Path) (made : t.makeDirectory work p = .ok t') :
    ∃ left place, Leads t' linkLimit (if p.fromRoot then [] else work) p.steps left place [] := by
  unfold makeDirectory at made
  rw [locate_unslashed false _ rfl] at made
  have arrives := walk_arrives t false linkLimit (if p.fromRoot then [] else work) p.steps
  dsimp only at made
  generalize t.walk false linkLimit (if p.fromRoot then [] else work) p.steps = walked at arrives made
  cases arrives with
  | directory leads => cases made
  | other leads => cases made
  | refused r => cases made
  | @free left goal n leads short nothing =>
      obtain rfl := Except.ok.inj made
      have kept (q : Location) (node : Node) (found : t.node? q = some node) :
          (t.put (n :: goal) .directory).node? q = some node := by
        have apart : q ≠ n :: goal := by
          rintro rfl
          rw [nothing] at found
          cases found
        rw [node_put, if_neg apart, found]
      have way := leads.kept (fun q => kept q .directory) (fun q target => kept q (.link target))
      have here : (t.put (n :: goal) .directory).node? (n :: goal) = some .directory := by
        rw [node_put, if_pos rfl]
      exact ⟨left, n :: goal, way.trans (.into short here (.start _ _ _))⟩

theorem makePath_opens (nonempty : directory ≠ "") (made : t.makePath work directory = .ok t') :
    ∃ place, t'.Opens work directory place := by
  unfold makePath at made
  rw [if_neg nonempty] at made
  cases parsed : Path.ofText directory with
  | error r =>
      rw [parsed] at made
      cases made
  | ok p =>
      rw [parsed] at made
      have led : ∃ left place, Leads t' linkLimit (if p.fromRoot then [] else work) p.steps left place [] := by
        cases makeDirectories_by _ p made with
        | present same leads => exact ⟨_, _, same ▸ leads⟩
        | alone made => exact leads_made p made
        | below parent above last =>
            rcases last with made | ⟨rfl, present⟩
            · exact leads_made p made
            · exact is_directory_leads p present
      obtain ⟨left, place, leads⟩ := led
      exact ⟨place, leads_opens p left parsed leads⟩

theorem opens_here (t : Tree) (work : Location) : t.Opens work "." work := by
  have parsed : Path.ofText "." = .ok ⟨false, [.here], false⟩ :=
    (parsed_text _ _).mpr ⟨by decide, by decide, by decide, by decide⟩
  exact leads_opens _ linkLimit parsed (.here (.start _ _ _))

theorem opens_unique {other : Location} (opens : t.Opens work directory place) (again : t.Opens work directory other) :
    other = place := by
  have same : (Except.ok (.taken other .directory) : Except Refusal Spot) = .ok (.taken place .directory) :=
    again.symm.trans opens
  simpa using same

-- What a bare name finds is what it finds behind a dot.
inductive Resolved (work : Location) (t : Tree) (s s' : String) : Prop where
  | alike (p q : Path) (parsed : Path.ofText s = .ok p) (parsed' : Path.ofText s' = .ok q) (slashed : p.slashed = false)
      (slashed' : q.slashed = false) (located : ∀ follow, t.locate work follow p = t.locate work follow q)
  | long (refused : Path.ofText s = .error .nameTooLong) (refused' : Path.ofText s' = .error .nameTooLong)
  | longer (p : Path) (parsed : Path.ofText s = .ok p) (refused' : Path.ofText s' = .error .nameTooLong)
      (located : ∀ follow, t.locate work follow p = .error .nameTooLong)

theorem parsed_bare (proper : Proper name) :
    Path.ofText name = if Path.limit ≤ name.utf8ByteSize then .error .nameTooLong
      else .ok ⟨false, [.into (.text name)], false⟩ := by
  rw [Path.ofText, if_neg (by simpa using proper.unended), if_neg proper.nonempty]
  split
  · rfl
  · change Except.ok (Path.ofNames (namesOf _)) = _
    rw [namesOf, pieces_whole '/' name.toList proper.unslashed]
    simp [Path.ofNames, proper.nonempty, step_proper name proper]

theorem name_resolved (t : Tree) (work : Location) (proper : Proper name) :
    Resolved work t (Path.join "" name) (Path.join "." name) := by
  have bare : Path.join "" name = name := by simp [Path.join]
  have dotted : Path.join "." name = "." ++ "/" ++ name := by
    rw [join_relative "." name (by decide) proper]
    rfl
  have parsed : Path.ofText "." = .ok ⟨false, [.here], false⟩ :=
    (parsed_text _ _).mpr ⟨by decide, by decide, by decide, by decide⟩
  have behind := parsed_join "." name proper _ parsed
  have size : (Path.join "." name).utf8ByteSize = name.utf8ByteSize + 2 := by
    rw [dotted, String.utf8ByteSize_append, Nat.add_comm]
    rfl
  have alone := parsed_bare proper
  rw [size] at behind
  rw [bare]
  by_cases short : Path.limit ≤ name.utf8ByteSize
  · rw [if_pos short] at alone
    rw [if_pos (Nat.le_add_right_of_le short)] at behind
    exact .long alone behind
  · rw [if_neg short] at alone
    by_cases fits : Path.limit ≤ name.utf8ByteSize + 2
    · rw [if_pos fits] at behind
      refine .longer _ alone behind fun follow => ?_
      have long : (Name.text name).isTooLong = true := by
        have bytes : (Name.text name).bytes.length = name.utf8ByteSize := by simp [Name.bytes]
        simp only [Path.limit] at fits
        simp only [Name.isTooLong, bytes, decide_eq_true_eq]
        omega
      rw [locate_unslashed follow _ rfl, walk]
      simp [long]
    · rw [if_neg fits] at behind
      refine .alike _ _ alone behind rfl rfl fun follow => ?_
      rw [locate_unslashed follow _ rfl, locate_unslashed follow _ rfl]
      change t.walk follow linkLimit work [.into (.text name)] = t.walk follow linkLimit work (.here :: [.into (.text name)])
      rw [walk.eq_def t follow linkLimit work (.here :: _)]

section Resolved

variable {s s' : String} (resolved : Resolved work t s s')

include resolved

theorem find_resolved (follow : Bool) : t.find work follow s = t.find work follow s' := by
  unfold find
  cases resolved with
  | alike p q parsed parsed' slashed slashed' located =>
      rw [parsed, parsed']
      exact located follow
  | long refused refused' => rw [refused, refused']
  | longer p parsed refused' located =>
      rw [parsed, refused']
      exact located follow

theorem writing_resolved : t.findForWriting work s = t.findForWriting work s' := by
  unfold findForWriting
  cases resolved with
  | alike p q parsed parsed' slashed slashed' located =>
      rw [parsed, parsed']
      simp only [located true, slashed, slashed']
  | long refused refused' => rw [refused, refused']
  | longer p parsed refused' located =>
      rw [parsed, refused']
      simp only [located true]

theorem create_resolved : t.create work s = t.create work s' := by
  unfold create
  rw [writing_resolved resolved]

theorem extend_resolved (bytes : ByteArray) : t.extend work s bytes = t.extend work s' bytes := by
  unfold extend
  rw [writing_resolved resolved]

theorem sync_resolved : t.sync work s = t.sync work s' := by
  unfold sync
  rw [writing_resolved resolved]

theorem read_resolved : t.read work s = t.read work s' := by
  unfold read
  rw [find_resolved resolved]

theorem remove_resolved : t.remove work s = t.remove work s' := by
  unfold remove
  rw [find_resolved resolved]

theorem rename_resolved {r r' : String} (target : Resolved work t r r') : t.rename work s r = t.rename work s' r' := by
  unfold rename
  rw [find_resolved resolved]
  cases target with
  | alike p q parsed parsed' slashed slashed' located =>
      rw [parsed, parsed']
      simp only [located false, slashed, slashed']
  | long refused refused' => rw [refused, refused']
  | longer p parsed refused' located =>
      rw [parsed, refused']
      simp only [located false]

end Resolved

end Overseer.Files.Tree
