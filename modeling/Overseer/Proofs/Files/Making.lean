import Overseer.Proofs.Files.Change

set_option autoImplicit false

namespace Overseer.Files.Tree

variable {t t' : Tree} {work : Location} {directory : String} {links left : Nat} {place goal : Location} {steps rest : List Step}

def Sound (t : Tree) : Prop := ∀ n q, t.node? (n :: q) ≠ none → t.node? q = some .directory

theorem leads_directory (sound : t.Sound) (leads : Leads t links place steps left goal rest)
    (directory : t.node? place = some .directory) : t.node? goal = some .directory := by
  induction leads with
  | start => exact directory
  | here later ih => exact ih directory
  | @up links left place goal steps rest later ih =>
      apply ih
      cases place with
      | nil => exact directory
      | cons n q => exact sound n q (by simp [directory])
  | into short found later ih => exact ih found
  | @link links left place goal steps rest n target p short link parsed later ih =>
      apply ih
      split
      · rfl
      · exact directory

theorem sound_put (sound : t.Sound) (n : Name) (d : Location) (node : Node) (parent : t.node? d = some .directory)
    (nothing : t.node? (n :: d) = none) : (t.put (n :: d) node).Sound := by
  intro m q taken
  rw [node_put] at taken
  have directory : t.node? q = some .directory := by
    by_cases same : m :: q = n :: d
    · obtain ⟨-, rfl⟩ := List.cons_eq_cons.mp same
      exact parent
    · rw [if_neg same] at taken
      exact sound m q taken
  have other : q ≠ n :: d := by
    rintro rfl
    rw [directory] at nothing
    cases nothing
  rw [node_put, if_neg other, directory]

theorem sound_empty : empty.Sound := by
  intro n q taken
  simp [empty, node?] at taken

structure Made (t : Tree) (work : Location) (p : Path) : Prop where
  sound : t.Sound
  home : t.node? work = some .directory
  empty : ∃ left place, Leads t linkLimit (if p.fromRoot then [] else work) p.steps left place [] ∧
    ∀ n, t.node? (n :: place) = none

theorem made_directory (p : Path) (sound : t.Sound) (home : t.node? work = some .directory)
    (made : t.makeDirectory work p = .ok t') : Made t' work p := by
  unfold makeDirectory at made
  rw [locate_unslashed false _ rfl] at made
  have arrives := walk_arrives t false linkLimit (if p.fromRoot then [] else work) p.steps
  have begun : t.node? (if p.fromRoot then [] else work) = some .directory := by
    split
    · rfl
    · exact home
  dsimp only at made
  generalize t.walk false linkLimit (if p.fromRoot then [] else work) p.steps = walked at arrives made
  cases arrives with
  | directory leads => cases made
  | other leads => cases made
  | refused r => cases made
  | @free left goal n leads short nothing =>
      obtain rfl := Except.ok.inj made
      have apart (q : Location) (node : Node) (found : t.node? q = some node) : q ≠ n :: goal := by
        rintro rfl
        rw [nothing] at found
        cases found
      have kept (q : Location) (node : Node) (found : t.node? q = some node) :
          (t.put (n :: goal) .directory).node? q = some node := by
        rw [node_put, if_neg (apart q node found), found]
      have parent := leads_directory sound leads begun
      have way := leads.kept (fun q => kept q .directory) (fun q target => kept q (.link target))
      have here : (t.put (n :: goal) .directory).node? (n :: goal) = some .directory := by
        rw [node_put, if_pos rfl]
      refine ⟨sound_put sound n goal .directory parent nothing, kept _ _ home, left, n :: goal,
        way.trans (.into short here (.start _ _ _)), fun m => ?_⟩
      rw [node_put, if_neg (by simp)]
      cases taken : t.node? (m :: n :: goal) with
      | none => rfl
      | some node =>
          rw [sound m (n :: goal) (by simp [taken])] at nothing
          cases nothing

theorem here_then (steps : List Step) :
    ∃ before after, steps = before ++ after ∧ after = steps.dropWhile (· == .here) ∧
      (∀ step ∈ before, step = .here) ∧ after.head? ≠ some .here := by
  induction steps with
  | nil => exact ⟨[], [], rfl, rfl, by simp, by simp⟩
  | cons step steps ih =>
      cases step with
      | here =>
          obtain ⟨before, after, split, rest, still, moves⟩ := ih
          exact ⟨.here :: before, after, congrArg (List.cons _) split, rest, by simpa using still, moves⟩
      | _ => exact ⟨[], _, rfl, rfl, by simp, by simp⟩

-- The steps of a path are those of its parent and one that goes somewhere, with others around it that do not.
theorem parent_steps (p q : Path) (parent : p.parent? = some q) :
    (∀ step ∈ p.steps, step = .here) ∨ q.fromRoot = p.fromRoot ∧
      ∃ before last after, p.steps = q.steps ++ (before ++ last :: after) ∧ last ≠ .here ∧
        (∀ step ∈ before, step = .here) ∧ ∀ step ∈ after, step = .here := by
  obtain ⟨after, ends, split, dropped, still, moves⟩ := here_then p.steps.reverse
  unfold Path.parent? at parent
  rw [← dropped] at parent
  cases ends with
  | nil =>
      left
      intro step member
      rw [List.append_nil] at split
      exact still step (split ▸ List.mem_reverse.mpr member)
  | cons last before =>
      right
      obtain ⟨between, rest, parted, same, quiet, -⟩ := here_then before
      obtain rfl := Option.some.inj parent
      rw [← same]
      refine ⟨rfl, between.reverse, last, after.reverse, ?_, by simpa using moves, by simpa using quiet,
        by simpa using still⟩
      have turned : p.steps = (after ++ last :: (between ++ rest)).reverse := by
        rw [← parted, ← split, List.reverse_reverse]
      simpa using turned

theorem leads_still (t : Tree) (links : Nat) (place : Location) (steps : List Step) (still : ∀ step ∈ steps, step = .here) :
    Leads t links place steps links place [] := by
  induction steps with
  | nil => exact .start _ _ _
  | cons step steps ih =>
      obtain ⟨rfl, others⟩ := List.forall_mem_cons.mp still
      exact .here (ih others)

theorem empty_blocks (empty : ∀ n, t.node? (n :: place) = none)
    (leads : Leads t links goal steps left place []) (before after : List Step) (n : Name)
    (still : ∀ step ∈ before, step = .here) (end_ : Location) :
    t.walk true links goal (steps ++ (before ++ .into n :: after)) ≠ .ok (.taken end_ .directory) := by
  rw [walk_leads true leads _ (.inl rfl), List.nil_append,
    walk_leads true (leads_still t left place before still) _ (.inl rfl), List.nil_append, walk, empty n]
  split
  · simp
  · dsimp only
    split <;> simp

variable (t work) in
-- Every step up is from a directory that is there.
def Firm (p : Path) : Prop :=
  ∀ before after, p.steps = before ++ .up :: after →
    ∃ left place, Leads t linkLimit (if p.fromRoot then [] else work) before left place []

variable (t work) in
structure Unmade (p : Path) : Prop where
  absent : ∀ left place, ¬Leads t linkLimit (if p.fromRoot then [] else work) p.steps left place []
  firm : t.Firm work p

theorem unmade_parent (p q : Path) (unmade : t.Unmade work p) (parent : p.parent? = some q) :
    q.fromRoot = p.fromRoot ∧ ∃ before n after, p.steps = q.steps ++ (before ++ .into n :: after) ∧
      ∀ step ∈ before, step = .here := by
  rcases parent_steps p q parent with still | ⟨root, before, last, after, steps, moves, still, quiet⟩
  · exact absurd (leads_still t _ _ p.steps still) (unmade.absent _ _)
  · cases last with
    | here => exact absurd rfl moves
    | into n => exact ⟨root, before, n, after, steps, still⟩
    | up =>
        rw [← List.append_assoc] at steps
        obtain ⟨left, place, leads⟩ := unmade.firm _ after steps
        have onward := (leads.append (.up :: after)).trans (.up (leads_still t left place.tail after quiet))
        rw [← steps] at onward
        exact absurd onward (unmade.absent _ _)

theorem is_directory_leads (p : Path) (present : t.isDirectory work p = true) :
    ∃ left place, Leads t linkLimit (if p.fromRoot then [] else work) p.steps left place [] := by
  unfold isDirectory at present
  split at present
  · next place located =>
      obtain ⟨left, leads⟩ := leads_of_walk _ ((locate_directory true p).mp located)
      exact ⟨left, place, leads⟩
  · cases present

theorem makeDirectories_present (depth : Nat) (p : Path)
    (leads : Leads t linkLimit (if p.fromRoot then [] else work) p.steps left place []) :
    t.makeDirectories work depth p = .ok t := by
  obtain ⟨end_, node, found⟩ := walk_unfollowed leads
  have present : t.isDirectory work p = true := by
    unfold isDirectory
    rw [(locate_directory true p).mpr (walk_arrived leads)]
  have taken : t.makeDirectory work p = .error .taken := by
    unfold makeDirectory
    rw [locate_unslashed false _ rfl, found]
  unfold makeDirectories
  rw [taken]
  simp [present]

-- A directory that is there will do; one that is not is made, if need be after the one that holds it.
inductive MadeBy (t : Tree) (work : Location) (p : Path) (t' : Tree) : Nat → Prop where
  | present {depth : Nat} {left : Nat} {place : Location} (same : t' = t)
      (leads : Leads t linkLimit (if p.fromRoot then [] else work) p.steps left place []) : MadeBy t work p t' depth
  | alone {depth : Nat} (made : t.makeDirectory work p = .ok t') : MadeBy t work p t' depth
  | below {depth : Nat} {q : Path} {between : Tree} (parent : p.parent? = some q)
      (above : t.makeDirectories work depth q = .ok between)
      (made : between.makeDirectory work p = .ok t' ∨ t' = between ∧ between.isDirectory work p = true) :
      MadeBy t work p t' (depth + 1)

theorem makeDirectories_by (depth : Nat) (p : Path) (made : t.makeDirectories work depth p = .ok t') :
    MadeBy t work p t' depth := by
  unfold makeDirectories at made
  split at made
  · next nothing =>
      simp only [Path.isNothing, Bool.and_eq_true, Bool.not_eq_true', List.isEmpty_iff] at nothing
      have start := leads_still t linkLimit (if p.fromRoot then [] else work) p.steps (by simp [nothing.2])
      exact .present (Except.ok.inj made).symm start
  · split at made
    · next alone =>
        obtain rfl := Except.ok.inj made
        exact .alone alone
    · next r refused =>
        split at made
        · split at made
          · next present =>
              obtain ⟨left, place, leads⟩ := is_directory_leads p present
              exact .present (Except.ok.inj made).symm leads
          · cases made
        · split at made
          · next depth parent some =>
              split at made
              · cases made
              · next between above =>
                  refine .below some above ?_
                  split at made
                  · next last => exact .inl (last.trans made)
                  · split at made
                    · next present => exact .inr ⟨(Except.ok.inj made).symm, present⟩
                    · cases made
          · cases made

theorem makeDirectories_made (depth : Nat) (p : Path) (sound : t.Sound) (home : t.node? work = some .directory)
    (unmade : t.Unmade work p) (made : t.makeDirectories work depth p = .ok t') : Made t' work p := by
  induction depth generalizing p t' with
  | zero =>
      cases makeDirectories_by 0 p made with
      | present same leads => exact absurd leads (unmade.absent _ _)
      | alone made => exact made_directory p sound home made
  | succ depth ih =>
      cases makeDirectories_by _ p made with
      | present same leads => exact absurd leads (unmade.absent _ _)
      | alone made => exact made_directory p sound home made
      | @below depth q between parent above last =>
          obtain ⟨root, before, n, after, steps, still⟩ := unmade_parent p q unmade parent
          -- What is above is there already, or it is made first and is empty, so that nothing in it is in the way.
          by_cases there : ∃ left place, Leads t linkLimit (if q.fromRoot then [] else work) q.steps left place []
          · obtain ⟨left, place, leads⟩ := there
            obtain rfl := Except.ok.inj ((makeDirectories_present depth q leads).symm.trans above)
            rcases last with made | ⟨-, present⟩
            · exact made_directory p sound home made
            · obtain ⟨left, place, leads⟩ := is_directory_leads p present
              exact absurd leads (unmade.absent left place)
          · have lower : t.Unmade work q := by
              refine ⟨fun left place leads => there ⟨left, place, leads⟩, fun first rest split => ?_⟩
              rw [root]
              apply unmade.firm first (rest ++ (before ++ .into n :: after))
              rw [steps, split, List.append_assoc]
              rfl
            have upper := ih q lower above
            rcases last with made | ⟨-, present⟩
            · exact made_directory p upper.sound upper.home made
            · obtain ⟨left, place, leads, empty⟩ := upper.empty
              obtain ⟨left', end_, further⟩ := is_directory_leads p present
              have blocked := empty_blocks empty leads before after n still end_
              rw [root, ← steps] at blocked
              exact absurd (walk_arrived further) blocked

-- No directory is at the path yet, and what is missing of the path is not gone through only to be left again.
structure Absent (t : Tree) (work : Location) (directory : String) : Prop where
  sound : t.Sound
  home : t.node? work = some .directory
  missing : t.list work directory = .error .missing
  path : ∃ p, Path.ofText directory = .ok p ∧ t.Firm work p

theorem absent_closed (absent : t.Absent work directory) (place : Location) : ¬t.Opens work directory place := by
  intro opens
  have listed := absent.missing
  rw [list_opens opens] at listed
  cases listed

theorem absent_nonempty (absent : t.Absent work directory) : directory ≠ "" := by
  obtain ⟨p, parsed, -⟩ := absent.path
  exact ((parsed_text directory p).mp parsed).2.1

theorem absent_name (sound : t.Sound) (home : t.node? work = some .directory) (name : String) (proper : Proper name)
    (path : name.utf8ByteSize < Path.limit) (short : (Name.text name).isTooLong = false)
    (nothing : t.node? (.text name :: work) = none) : t.Absent work name ∧ ∃ t', t.makePath work name = .ok t' := by
  have parsed : Path.ofText name = .ok ⟨false, [.into (.text name)], false⟩ := by
    refine (parsed_text name _).mpr ⟨proper.unended, proper.nonempty, path, ?_⟩
    rw [namesOf, pieces_whole '/' name.toList proper.unslashed]
    simp [Path.ofNames, proper.nonempty, step_proper name proper]
  have located (follow : Bool) : t.locate work follow ⟨false, [.into (.text name)], false⟩ = .ok (.free (.text name :: work)) := by
    rw [locate_unslashed _ _ rfl]
    change t.walk follow linkLimit work [.into (.text name)] = _
    rw [walk_entry follow linkLimit (.text name) short (nothing ▸ trivial), spot, nothing]
  refine ⟨⟨sound, home, ?_, _, parsed, ?_⟩, t.put (.text name :: work) .directory, ?_⟩
  · simp only [list, find, parsed, located true]
  · intro before after split
    have only : [Step.into (.text name)] = before ++ .up :: after := split
    have member : Step.up ∈ [Step.into (.text name)] := by simp [only]
    simp at member
  · have made : t.makeDirectory work ⟨false, [.into (.text name)], false⟩ = .ok (t.put (.text name :: work) .directory) := by
      simp only [makeDirectory, located false]
    simp only [makePath, parsed, proper.nonempty, if_false]
    unfold makeDirectories
    simp [Path.isNothing, made]

theorem sound_below (sound : t.Sound) (empty : ∀ n, t.node? (n :: place) = none) (q : Location) (below : q ≠ []) :
    t.node? (q ++ place) = none := by
  induction q with
  | nil => exact absurd rfl below
  | cons n q ih =>
      cases q with
      | nil => exact empty n
      | cons m q =>
          cases taken : t.node? (n :: ((m :: q) ++ place)) with
          | none => exact taken
          | some node =>
              have above := sound n (m :: q ++ place) (by rw [taken]; exact Option.some_ne_none node)
              rw [ih (List.cons_ne_nil m q)] at above
              cases above

theorem make_absent (absent : t.Absent work directory) (made : t.makePath work directory = .ok t') :
    ∃ place, t'.Opens work directory place ∧ ∀ q, q ≠ [] → t'.node? (q ++ place) = none := by
  obtain ⟨p, parsed, firm⟩ := absent.path
  have unmade : t.Unmade work p := ⟨fun left place leads => absent_closed absent place (leads_opens p left parsed leads), firm⟩
  unfold makePath at made
  rw [if_neg (absent_nonempty absent), parsed] at made
  have whole := makeDirectories_made _ p absent.sound absent.home unmade made
  obtain ⟨left, place, leads, empty⟩ := whole.empty
  exact ⟨place, leads_opens p left parsed leads, sound_below whole.sound empty⟩

theorem make_opens (opens : t.Opens work directory place) : t.makePath work directory = .ok t := by
  obtain ⟨p, left, parsed, leads⟩ := opens_leads opens
  unfold makePath
  rw [if_neg (opens_nonempty opens), parsed]
  exact makeDirectories_present _ p leads

end Overseer.Files.Tree
