import Overseer.Proofs.Counter.Alone

set_option autoImplicit false

namespace Overseer.Counter

open Files (Fits Location Name Node Path Proper Tree)
open Host (Machine)

structure Sketch where
  store : Store
  id : UInt64
  log : String
  code : Nat

namespace Sketch

variable (k : Sketch)

def place : Location := [.text k.store.directory]

def artifact : Location := .text (artifactName k.store.stem k.id) :: k.place

def temporary : Location := .text (temporaryName k.store.stem k.id) :: k.place

-- Where what is written to the temporary goes.
def landing (t : Tree) : Location :=
  match t.node? k.temporary with
  | some (.link _) => k.artifact
  | _ => k.temporary

def answer : (c : Host.Call) → Tree → Host.Answer c × Tree
  | .makePath _, t => (.ok (), t)
  | .list _, t => (.ok (t.names k.place), t)
  | .isPresent _, t => ((t.node? k.artifact).isSome, t)
  | .read _, t =>
    match t.node? k.artifact with
    | some (.file content _) => (.ok content, t)
    | some (.link _) => (.error .tooManyLinks, t)
    | _ => (.error .missing, t)
  | .create _, t => (.ok (), t.put (k.landing t) (.file .empty Tree.newMode))
  | .openEnd _, t => (.ok (), t)
  | .extend path bytes, t =>
    if path = k.log then (.ok (), t)
    else match t.node? (k.landing t) with
    | some (.file content mode) => (.ok (), t.put (k.landing t) (.file (content ++ bytes) mode))
    | _ => (.error .missing, t)
  | .sync _, t => (.ok (), t)
  | .rename _ _, t =>
    match t.node? k.temporary with
    | some node => (.ok (), (t.erase k.temporary).put k.artifact node)
    | none => (.error .missing, t)
  | .remove _, t => (.error .missing, t)
  | .clock, t => (⟨0, 0⟩, t)
  | .variable _, t => (none, t)
  | .workingDirectory, t => (none, t)
  | .print _, t => (.ok (), t)
  | .complain _, t => ((), t)
  | .note _, t => ((), t)
  | .listen _ _, t => ((), t)
  | .awaitInterrupt, t => ((), t)
  | .stopRequested, t => (false, t)
  | .launch _ _, t => (.ok (.ended (.exited k.code) 0), t)
  | .pause length _, t => (.ended () length, t)
  | .mark _ _, t => (.ended (.ok ()) 0, t)
  | .post _, t => (none, t)

def site : Site Tree where
  answer := k.answer
  machine t := { Machine.fresh with tree := t }
  listing := .plain
  environment _ := none
  unaltered _ _ := rfl

def isFile : Option Node → Bool
  | some (.file _ _) => true
  | _ => false

-- A link under the one name that leads to the other.
def isLoop : Option Node → Bool
  | some (.link target) => target = artifactName k.store.stem k.id
  | _ => false

def stands (t : Tree) : Bool := (t.node? k.place).any Node.isDirectory

-- The calls that are answered as the machine answers them, and those that have nothing to do with the store.
def covers : Host.Call → Tree → Bool
  | .makePath path, t => path = k.store.directory && k.stands t
  | .list path, t => path = k.store.directory && k.stands t
  | .read path, t =>
    path = k.store.artifactPath k.id && k.stands t && (isFile (t.node? k.artifact) || k.isLoop (t.node? k.artifact))
  | .create path, t =>
    path = k.store.temporaryPath k.id && k.stands t && (t.node? (k.landing t)).isNone &&
      ((t.node? k.temporary).isNone || k.isLoop (t.node? k.temporary))
  | .extend path _, t =>
    path = k.log || path = k.store.temporaryPath k.id && k.stands t && isFile (t.node? (k.landing t)) &&
      (isFile (t.node? k.temporary) || k.isLoop (t.node? k.temporary))
  | .sync path, t =>
    path = k.store.temporaryPath k.id && k.stands t && isFile (t.node? (k.landing t)) &&
      (isFile (t.node? k.temporary) || k.isLoop (t.node? k.temporary))
  | .rename source target, t =>
    source = k.store.temporaryPath k.id && target = k.store.artifactPath k.id && k.stands t &&
      (isFile (t.node? k.temporary) || k.isLoop (t.node? k.temporary)) &&
      ((t.node? k.artifact).isNone || isFile (t.node? k.artifact))
  | .remove _, _ => false
  | _, _ => true

-- Names that the operating system takes, and a process log that is no temporary.
structure Sound : Prop where
  directory : Proper k.store.directory
  path : k.store.directory.utf8ByteSize < Path.limit
  short : (Name.text k.store.directory).isTooLong = false
  stem : Stem k.store.stem
  fits : Fits k.store.directory (temporaryName k.store.stem k.id)
  outside : ∀ id, k.log ≠ k.store.temporaryPath id

variable {k} {t : Tree} (sound : k.Sound)

theorem standing (stands : k.stands t = true) : t.node? k.place = some .directory := by
  unfold Sketch.stands at stands
  cases node : t.node? k.place with
  | none =>
      rw [node] at stands
      cases stands
  | some held =>
      rw [node] at stands
      cases held with
      | directory => rfl
      | _ => cases stands

theorem file_of {node : Option Node} (file : isFile node = true) : ∃ content mode, node = some (.file content mode) := by
  cases node with
  | none => cases file
  | some held =>
      cases held with
      | file content mode => exact ⟨content, mode, rfl⟩
      | _ => cases file

theorem loop_of {node : Option Node} (loop : k.isLoop node = true) :
    node = some (.link (artifactName k.store.stem k.id)) := by
  cases node with
  | none => cases loop
  | some held =>
      cases held with
      | link target => simpa [isLoop] using loop
      | _ => cases loop

theorem unlinked_file {node : Option Node} (file : isFile node = true) (target : String) : node ≠ some (.link target) := by
  obtain ⟨content, mode, held⟩ := file_of file
  simp [held]

include sound

theorem fitting : Fits k.store.directory (artifactName k.store.stem k.id) :=
  fits_artifact sound.directory.nonempty sound.stem sound.fits

theorem home : k.store.home = k.store.directory := if_neg sound.directory.nonempty

theorem parsed : Path.ofText k.store.directory = .ok ⟨false, [.into (.text k.store.directory)], false⟩ := by
  refine (Files.parsed_text _ _).mpr ⟨sound.directory.unended, sound.directory.nonempty, sound.path, ?_⟩
  rw [Files.namesOf, Files.pieces_whole '/' _ sound.directory.unslashed]
  simp [Path.ofNames, sound.directory.nonempty, Files.step_proper _ sound.directory]

theorem leads (stands : k.stands t = true) :
    Tree.Leads t Tree.linkLimit [] [.into (.text k.store.directory)] Tree.linkLimit k.place [] :=
  .into sound.short (standing stands) (.start _ _ _)

theorem opens (stands : k.stands t = true) : t.Opens [] k.store.directory k.place :=
  Tree.leads_opens _ _ (parsed sound) (leads sound stands)

theorem located (stands : k.stands t = true) (name : String) (proper : Proper name) (fits : Fits k.store.directory name) :
    ∃ p, Path.ofText (Path.join k.store.directory name) = .ok p ∧ p.slashed = false ∧
      ∀ follow, t.locate [] follow p = t.walk follow Tree.linkLimit k.place [.into (.text name)] := by
  have joined := Files.parsed_join k.store.directory name proper _ (parsed sound)
  rw [if_neg (Nat.not_le.mpr fits.1)] at joined
  refine ⟨_, joined, rfl, fun follow => ?_⟩
  rw [Tree.locate_unslashed _ _ rfl]
  exact Tree.walk_leads follow (leads sound stands) [.into (.text name)] (.inr (List.cons_ne_nil _ _))

theorem artifact_parsed : Path.ofText (artifactName k.store.stem k.id) =
    .ok ⟨false, [.into (.text (artifactName k.store.stem k.id))], false⟩ := by
  have proper := artifact_proper sound.stem k.id
  have size : (artifactName k.store.stem k.id).utf8ByteSize < Path.limit := by
    apply Nat.lt_of_le_of_lt _ (fitting sound).1
    rw [Files.join_relative _ _ sound.directory.nonempty proper]
    split <;> simp [String.utf8ByteSize_append]
  refine (Files.parsed_text _ _).mpr ⟨proper.unended, proper.nonempty, size, ?_⟩
  rw [Files.namesOf, Files.pieces_whole '/' _ proper.unslashed]
  simp [Path.ofNames, proper.nonempty, Files.step_proper _ proper]

-- A link to its own name is followed until no more links may be.
theorem loop_walk (links : Nat) (loop : t.node? k.artifact = some (.link (artifactName k.store.stem k.id))) :
    t.walk true links k.place [.into (.text (artifactName k.store.stem k.id))] = .error .tooManyLinks := by
  have short := (fitting sound).2
  unfold artifact at loop
  induction links with
  | zero =>
      rw [Tree.walk]
      simp [short, loop]
  | succ links ih =>
      rw [Tree.walk]
      simp [short, loop, artifact_parsed sound, ih]

omit sound in
theorem landing_loop (loop : k.isLoop (t.node? k.temporary) = true) : k.landing t = k.artifact := by
  unfold landing
  rw [loop_of loop]

omit sound in
theorem landing_unlinked (unlinked : ∀ target, t.node? k.temporary ≠ some (.link target)) : k.landing t = k.temporary := by
  unfold landing
  split
  · next target link => exact absurd link (unlinked target)
  · rfl

theorem writing_landing (stands : k.stands t = true)
    (temporary : k.isLoop (t.node? k.temporary) = true ∨ ∀ target, t.node? k.temporary ≠ some (.link target))
    (free : t.node? (k.landing t) = none ∨ isFile (t.node? (k.landing t)) = true) :
    t.findForWriting [] (k.store.temporaryPath k.id) = .ok (t.spot (k.landing t)) := by
  have proper := temporary_proper sound.stem k.id
  have plain : (∀ target, t.node? (k.landing t) ≠ some (.link target)) ∧ t.node? (k.landing t) ≠ some .directory := by
    rcases free with nothing | file
    · simp [nothing]
    · obtain ⟨content, mode, held⟩ := file_of file
      simp [held]
  rcases temporary with loop | unlinked
  · rw [landing_loop loop] at plain ⊢
    obtain ⟨p, parsed, unslashed, walked⟩ := located sound stands (temporaryName k.store.stem k.id) proper sound.fits
    have reached : t.walk true 39 k.place [.into (.text (artifactName k.store.stem k.id))] = .ok (t.spot k.artifact) :=
      Tree.walk_end true 39 _ (fitting sound).2 fun _ => plain.1
    have link : t.walk true Tree.linkLimit k.place [.into (.text (temporaryName k.store.stem k.id))] =
        .ok (t.spot k.artifact) := by
      have short := sound.fits.2
      have held : t.node? (.text (temporaryName k.store.stem k.id) :: k.place) = some (.link (artifactName k.store.stem k.id)) :=
        loop_of loop
      rw [Tree.walk]
      simpa [short, held, Tree.linkLimit, artifact_parsed sound] using reached
    unfold Tree.findForWriting Store.temporaryPath
    rw [parsed]
    dsimp only
    rw [walked, link, Tree.spot]
    cases node : t.node? k.artifact with
    | none => simp [unslashed]
    | some held =>
        cases held with
        | directory => exact absurd node plain.2
        | _ => rfl
  · rw [landing_unlinked unlinked] at plain ⊢
    exact Tree.writing_unlinked (opens sound stands) proper sound.fits plain.1 plain.2

theorem create_landing (stands : k.stands t = true)
    (temporary : k.isLoop (t.node? k.temporary) = true ∨ ∀ target, t.node? k.temporary ≠ some (.link target))
    (free : t.node? (k.landing t) = none) :
    t.create [] (k.store.temporaryPath k.id) = .ok (t.put (k.landing t) (.file .empty Tree.newMode)) := by
  unfold Tree.create
  rw [writing_landing sound stands temporary (.inl free), Tree.spot, free]

theorem extend_landing (stands : k.stands t = true)
    (temporary : k.isLoop (t.node? k.temporary) = true ∨ ∀ target, t.node? k.temporary ≠ some (.link target))
    (bytes content : ByteArray) (mode : Nat) (file : t.node? (k.landing t) = some (.file content mode)) :
    t.extend [] (k.store.temporaryPath k.id) bytes = .ok (t.put (k.landing t) (.file (content ++ bytes) mode)) := by
  unfold Tree.extend
  rw [writing_landing sound stands temporary (.inr (by rw [file]; rfl)), Tree.spot, file]

theorem sync_landing (stands : k.stands t = true)
    (temporary : k.isLoop (t.node? k.temporary) = true ∨ ∀ target, t.node? k.temporary ≠ some (.link target))
    (content : ByteArray) (mode : Nat) (file : t.node? (k.landing t) = some (.file content mode)) :
    t.sync [] (k.store.temporaryPath k.id) = .ok t := by
  unfold Tree.sync
  rw [writing_landing sound stands temporary (.inr (by rw [file]; rfl)), Tree.spot, file]

-- A rename moves the node that the name stands for, and follows no link.
theorem rename_node (stands : k.stands t = true) (node : Node) (held : t.node? k.temporary = some node)
    (moved : node ≠ .directory) (free : t.node? k.artifact = none ∨ isFile (t.node? k.artifact) = true) :
    t.rename [] (k.store.temporaryPath k.id) (k.store.artifactPath k.id) =
      .ok ((t.erase k.temporary).put k.artifact node) := by
  have opened := opens sound stands
  have apart : k.artifact ≠ k.temporary := by
    simpa [artifact, temporary] using artifact_ne_temporary k.store.stem k.id k.id
  obtain ⟨p, parsed, unslashed, source⟩ := Tree.locate_end false opened (temporary_proper sound.stem k.id) sound.fits (by simp)
  obtain ⟨q, parsed', unslashed', target⟩ :=
    Tree.locate_end false opened (artifact_proper sound.stem k.id) (fitting sound) (by simp)
  change t.locate [] false p = .ok (t.spot k.temporary) at source
  change t.locate [] false q = .ok (t.spot k.artifact) at target
  unfold Tree.rename Tree.find Store.temporaryPath Store.artifactPath
  rw [parsed, parsed']
  dsimp only
  rw [source, Tree.spot, held]
  cases node with
  | directory => exact absurd rfl moved
  | _ =>
      dsimp only
      rw [target, Tree.spot]
      rcases free with nothing | file
      · simp [nothing, unslashed']
      · obtain ⟨content, mode, old⟩ := file_of file
        simp [old, apart]

theorem read_loop (stands : k.stands t = true) (loop : k.isLoop (t.node? k.artifact) = true) :
    t.read [] (k.store.artifactPath k.id) = .error .tooManyLinks := by
  obtain ⟨p, parsed, unslashed, walked⟩ :=
    located sound stands (artifactName k.store.stem k.id) (artifact_proper sound.stem k.id) (fitting sound)
  unfold Tree.read Tree.find Store.artifactPath
  rw [parsed]
  dsimp only
  rw [walked, loop_walk sound _ (loop_of loop)]

theorem sketch_alone (c : Host.Call) (t : Tree) (covers : k.covers c t = true) : Alone k.site k.store c t := by
  have own (touches : Touches k.store c)
      (same : (k.site.listing.answer c (k.site.machine t)) = ((k.answer c t).1, k.site.machine (k.answer c t).2)) :
      Alone k.site k.store c t :=
    .here touches _ (spared_refl _) (by rw [same]; rfl) (by rw [same]; exact spared_refl _)
  cases c with
  | makePath path =>
      simp only [Sketch.covers, Bool.and_eq_true, decide_eq_true_eq] at covers
      obtain ⟨rfl, stands⟩ := covers
      refine own .makePath ?_
      change Machine.settle _ (t.makePath [] k.store.directory) = _
      rw [Tree.make_opens (opens sound stands)]
      rfl
  | list path =>
      simp only [Sketch.covers, Bool.and_eq_true, decide_eq_true_eq] at covers
      obtain ⟨rfl, stands⟩ := covers
      refine own .list ?_
      change ((t.list [] k.store.directory).map _, _) = _
      rw [Tree.list_opens (opens sound stands)]
      rfl
  | read path =>
      simp only [Sketch.covers, Bool.and_eq_true, decide_eq_true_eq, Bool.or_eq_true] at covers
      obtain ⟨⟨rfl, stands⟩, file | loop⟩ := covers
      · obtain ⟨content, mode, held⟩ := file_of file
        refine own (.read _) ?_
        change (t.read [] (k.store.artifactPath k.id), _) = _
        rw [Store.artifactPath, Tree.read_entry (opens sound stands) (artifact_proper sound.stem k.id) (fitting sound) content mode held]
        simp [Sketch.answer, held]
      · refine own (.read _) ?_
        change (t.read [] (k.store.artifactPath k.id), _) = _
        rw [read_loop sound stands loop]
        simp [Sketch.answer, loop_of loop]
  | create path =>
      simp only [Sketch.covers, Bool.and_eq_true, decide_eq_true_eq, Bool.or_eq_true, Option.isNone_iff_eq_none] at covers
      obtain ⟨⟨⟨rfl, stands⟩, free⟩, temporary⟩ := covers
      refine own (.create _) ?_
      change Machine.settle _ (t.create [] (k.store.temporaryPath k.id)) = _
      rw [create_landing sound stands (temporary.symm.imp_right fun nothing => by simp [nothing]) free]
      rfl
  | extend path bytes =>
      by_cases log : path = k.log
      · subst log
        have elsewhere : ¬Touches k.store (.extend k.log bytes) := by
          have outside := sound.outside
          generalize k.log = path at outside
          rintro ⟨⟩
          exact outside _ rfl
        refine .elsewhere elsewhere ?_
        change Spared _ _ (k.site.machine (k.answer (.extend k.log bytes) t).2)
        rw [Sketch.answer, if_pos rfl]
        exact spared_refl _
      · simp only [Sketch.covers, log, Bool.and_eq_true, decide_eq_true_eq, Bool.or_eq_true, false_or] at covers
        obtain ⟨⟨⟨rfl, stands⟩, written⟩, temporary⟩ := covers
        obtain ⟨content, mode, held⟩ := file_of written
        refine own (.extend _ _) ?_
        change Machine.settle _ (t.extend [] (k.store.temporaryPath k.id) bytes) = _
        rw [extend_landing sound stands (temporary.symm.imp_right unlinked_file) bytes content mode held]
        simp only [Sketch.answer, log, if_false, held]
        rfl
  | sync path =>
      simp only [Sketch.covers, Bool.and_eq_true, decide_eq_true_eq, Bool.or_eq_true] at covers
      obtain ⟨⟨⟨rfl, stands⟩, written⟩, temporary⟩ := covers
      obtain ⟨content, mode, held⟩ := file_of written
      refine own (.sync _) ?_
      change Machine.settle _ (t.sync [] (k.store.temporaryPath k.id)) = _
      rw [sync_landing sound stands (temporary.symm.imp_right unlinked_file) content mode held]
      rfl
  | rename source target =>
      simp only [Sketch.covers, Bool.and_eq_true, decide_eq_true_eq, Bool.or_eq_true, Option.isNone_iff_eq_none] at covers
      obtain ⟨⟨⟨⟨rfl, rfl⟩, stands⟩, temporary⟩, free⟩ := covers
      obtain ⟨node, held, moved⟩ : ∃ node, t.node? k.temporary = some node ∧ node ≠ .directory := by
        rcases temporary with file | loop
        · obtain ⟨content, mode, held⟩ := file_of file
          exact ⟨_, held, nofun⟩
        · exact ⟨_, loop_of loop, nofun⟩
      refine own (.rename _) ?_
      change Machine.settle _ (t.rename [] (k.store.temporaryPath k.id) (k.store.artifactPath k.id)) = _
      rw [rename_node sound stands node held moved free]
      simp only [Sketch.answer, held]
      rfl
  | remove path => cases covers
  | _ => exact .elsewhere nofun (spared_refl _)

theorem sketch_unlinked (c : Host.Call) (t : Tree) (covers : k.covers c t = true)
    (linkless : Tree.Linkless (t.node? k.temporary)) : Unlinked k.site k.store c t := by
  rintro id shelf rfl held
  simp only [Sketch.covers, Bool.and_eq_true, decide_eq_true_eq] at covers
  obtain ⟨⟨⟨path, stands⟩, -⟩, -⟩ := covers
  obtain rfl := temporary_path_injective sound.directory.nonempty sound.stem id k.id path
  rw [home sound] at held
  have entries := (holding_opens (m := k.site.machine t) (opens sound stands)).symm.trans held
  obtain rfl := Option.some.inj entries
  exact linkless

omit sound in
theorem sound_outside (directory : Proper k.store.directory) (stem : Stem k.store.stem) (unslashed : '/' ∉ k.log.toList)
    (id : UInt64) : k.log ≠ k.store.temporaryPath id := by
  intro same
  obtain ⟨before, text, -⟩ := Files.join_text k.store.directory _ directory.nonempty (temporary_proper stem id)
  apply unslashed
  rw [same, Store.temporaryPath, text]
  simp

end Sketch

end Overseer.Counter
