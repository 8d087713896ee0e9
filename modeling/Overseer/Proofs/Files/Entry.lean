import Overseer.Proofs.Files.Walk

set_option autoImplicit false

namespace Overseer.Files

structure Proper (name : String) : Prop where
  nonempty : name ≠ ""
  notHere : name ≠ "."
  notUp : name ≠ ".."
  unslashed : '/' ∉ name.toList
  unended : '\x00' ∉ name.toList

def Fits (directory name : String) : Prop :=
  (Path.join directory name).utf8ByteSize < Path.limit ∧ (Name.text name).isTooLong = false

section Pieces

variable {α : Type} [DecidableEq α] (separator : α)

theorem pieces_ne_nil (cs : List α) : pieces separator cs ≠ [] := by
  cases cs with
  | nil => simp [pieces]
  | cons c cs =>
      rw [pieces]
      split
      · simp
      · split <;> simp

theorem pieces_append (a b : List α) : pieces separator (a ++ separator :: b) = pieces separator a ++ pieces separator b := by
  induction a with
  | nil => simp [pieces]
  | cons c cs ih =>
      rw [List.cons_append, pieces, pieces, ih]
      by_cases same : c = separator
      · simp [same]
      · simp only [same, if_false]
        cases first : pieces separator cs with
        | nil => exact absurd first (pieces_ne_nil separator cs)
        | cons p ps => rfl

theorem pieces_whole (cs : List α) (unseparated : separator ∉ cs) : pieces separator cs = [cs] := by
  induction cs with
  | nil => rfl
  | cons c cs ih =>
      rw [List.mem_cons, not_or] at unseparated
      rw [pieces, ih unseparated.2, if_neg (Ne.symm unseparated.1)]

end Pieces

theorem step_proper (name : String) (proper : Proper name) : Path.step (.text name) = .into (.text name) := by
  rw [Path.step, if_neg (by simpa using proper.notHere), if_neg (by simpa using proper.notUp)]

theorem join_relative (directory name : String) (nonempty : directory ≠ "") (proper : Proper name) :
    Path.join directory name =
      if directory.toList.getLast? = some '/' then directory ++ name else directory ++ "/" ++ name := by
  have relative : ¬(decide (name.toList.head? = some '/') || decide (directory = "")) = true := by
    simp only [Bool.or_eq_true, decide_eq_true_eq]
    rintro (head | empty)
    · exact proper.unslashed (List.mem_of_mem_head? head)
    · exact nonempty empty
  rw [Path.join, if_neg relative]

-- A slash stands between the directory's path and the name, one of its own or one that the path ends in.
theorem join_text (directory name : String) (nonempty : directory ≠ "") (proper : Proper name) :
    ∃ before, (Path.join directory name).toList = before ++ '/' :: name.toList ∧
      (directory.toList = before ∨ directory.toList = before ++ ['/']) := by
  rw [join_relative directory name nonempty proper]
  by_cases ended : directory.toList.getLast? = some '/'
  · rw [if_pos ended]
    obtain ⟨before, eq⟩ := List.getLast?_eq_some_iff.mp ended
    exact ⟨before, by rw [String.toList_append, eq, List.append_assoc]; rfl, .inr eq⟩
  · rw [if_neg ended]
    exact ⟨directory.toList, by rw [String.toList_append, String.toList_append, List.append_assoc]; rfl, .inl rfl⟩

theorem join_size (directory name : String) (nonempty : directory ≠ "") (proper : Proper name) :
    directory.utf8ByteSize ≤ (Path.join directory name).utf8ByteSize := by
  rw [join_relative directory name nonempty proper]
  split
  · rw [String.utf8ByteSize_append]
    exact Nat.le_add_right _ _
  · rw [String.utf8ByteSize_append, String.utf8ByteSize_append, Nat.add_assoc]
    exact Nat.le_add_right _ _

def namesOf (cs : List Char) : List Name := (pieces '/' cs).map fun p => .text (String.ofList p)

theorem parsed_text (s : String) (p : Path) :
    Path.ofText s = .ok p ↔
      '\x00' ∉ s.toList ∧ s ≠ "" ∧ s.utf8ByteSize < Path.limit ∧ p = Path.ofNames (namesOf s.toList) := by
  unfold Path.ofText
  by_cases unended : '\x00' ∈ s.toList
  · simp [unended]
  · by_cases nonempty : s = ""
    · simp [nonempty]
    · by_cases long : Path.limit ≤ s.utf8ByteSize
      · simp [unended, nonempty, long, Nat.not_lt.mpr long]
      · simp [unended, nonempty, long, Nat.not_le.mp long, namesOf, eq_comm]

theorem names_of_ne_nil (cs : List Char) : namesOf cs ≠ [] := by
  simp [namesOf, pieces_ne_nil]

theorem head_of_names (cs : List Char) (after : List Name) : (namesOf cs ++ after).head? = (namesOf cs).head? := by
  cases names : namesOf cs with
  | nil => exact absurd names (names_of_ne_nil cs)
  | cons n ns => rfl

theorem names_of_join (before : List Char) (name : String) (proper : Proper name) :
    namesOf (before ++ '/' :: name.toList) = namesOf before ++ [.text name] := by
  rw [namesOf, pieces_append, pieces_whole '/' name.toList proper.unslashed, List.map_append]
  simp [namesOf]

theorem path_of_join (before after : List Char) (name : String) (proper : Proper name)
    (ended : after = before ∨ after = before ++ ['/']) :
    Path.ofNames (namesOf before ++ [.text name]) =
      ⟨(Path.ofNames (namesOf after)).fromRoot, (Path.ofNames (namesOf after)).steps ++ [.into (.text name)], false⟩ := by
  have root : (namesOf after).head? = (namesOf before).head? := by
    rcases ended with rfl | rfl
    · rfl
    · rw [namesOf, pieces_append, List.map_append]
      exact head_of_names before _
  have steps : (namesOf after).filter (· ≠ .text "") = (namesOf before).filter (· ≠ .text "") := by
    rcases ended with rfl | rfl
    · rfl
    · rw [namesOf, pieces_append, List.map_append, List.filter_append]
      simp [namesOf, pieces]
  unfold Path.ofNames
  rw [root, steps, head_of_names before, List.filter_append, List.map_append]
  simp [proper.nonempty, step_proper name proper]

theorem parsed_join (directory name : String) (proper : Proper name) (p : Path)
    (parsed : Path.ofText directory = .ok p) :
    Path.ofText (Path.join directory name) =
      if Path.limit ≤ (Path.join directory name).utf8ByteSize then .error .nameTooLong
      else .ok ⟨p.fromRoot, p.steps ++ [.into (.text name)], false⟩ := by
  obtain ⟨unended, nonempty, -, rfl⟩ := (parsed_text directory p).mp parsed
  obtain ⟨before, text, ended⟩ := join_text directory name nonempty proper
  have whole : '\x00' ∉ (Path.join directory name).toList := by
    have clean : '\x00' ∉ before := by
      rcases ended with same | same
      · exact same ▸ unended
      · rw [same] at unended
        exact fun member => unended (List.mem_append_left _ member)
    rw [text]
    simp [clean, proper.unended]
  have some : Path.join directory name ≠ "" := by
    intro empty
    rw [empty] at text
    simp at text
  rw [Path.ofText, if_neg (by simpa using whole), if_neg some]
  split
  · rfl
  · change Except.ok (Path.ofNames (namesOf _)) = _
    rw [text, names_of_join before name proper, path_of_join before directory.toList name proper ended]

theorem parsed_directory (directory name : String) (nonempty : directory ≠ "") (proper : Proper name) (q : Path)
    (parsed : Path.ofText (Path.join directory name) = .ok q) : ∃ p, Path.ofText directory = .ok p := by
  obtain ⟨unended, -, short, -⟩ := (parsed_text _ q).mp parsed
  obtain ⟨before, text, ended⟩ := join_text directory name nonempty proper
  have clean : '\x00' ∉ directory.toList := by
    have first : '\x00' ∉ before := fun member => unended (text ▸ List.mem_append_left _ member)
    rcases ended with same | same
    · exact same ▸ first
    · simp [same, first]
  have size := Nat.lt_of_le_of_lt (join_size directory name nonempty proper) short
  exact ⟨_, (parsed_text directory _).mpr ⟨clean, nonempty, size, rfl⟩⟩

namespace Tree

variable {t : Tree} {work place : Location} {directory name : String}

theorem lookup_other (nodes : List (Location × Node)) (p q : Location) (node : Node) (other : p ≠ q) :
    ((q, node) :: nodes).lookup p = nodes.lookup p := by
  rw [List.lookup_cons, beq_false_of_ne other]

theorem lookup_erase (nodes : List (Location × Node)) (p q : Location) :
    (nodes.filter fun entry => entry.1 ≠ q).lookup p = if p = q then none else nodes.lookup p := by
  induction nodes with
  | nil => simp
  | cons entry nodes ih =>
      obtain ⟨own, node⟩ := entry
      by_cases erased : own = q
      · rw [List.filter_cons_of_neg (by simpa using erased), ih]
        by_cases same : p = q
        · rw [if_pos same, if_pos same]
        · rw [if_neg same, if_neg same, lookup_other nodes p own node (erased ▸ same)]
      · rw [List.filter_cons_of_pos (by simpa using erased)]
        by_cases same : p = own
        · rw [same, if_neg erased, List.lookup_cons_self, List.lookup_cons_self]
        · rw [lookup_other _ p own node same, lookup_other _ p own node same, ih]

theorem node_erase (n : Name) (d p : Location) :
    (t.erase (n :: d)).node? p = if p = n :: d then none else t.node? p := by
  by_cases root : p = []
  · simp [node?, root]
  · rw [node?, if_neg root, erase, lookup_erase]
    simp [node?, root]

theorem node_put (n : Name) (d p : Location) (node : Node) :
    (t.put (n :: d) node).node? p = if p = n :: d then some node else t.node? p := by
  by_cases same : p = n :: d
  · simp [node?, put, same]
  · have kept := node_erase (t := t) n d p
    rw [if_neg same] at kept ⊢
    rw [← kept, node?, node?, put, lookup_other _ p _ node same]

theorem mem_names (n : Name) (d : Location) : n ∈ t.names d ↔ t.node? (n :: d) ≠ none := by
  have entries : n ∈ t.names d ↔ ∃ node, (n :: d, node) ∈ t.nodes := by
    simp only [names, List.mem_filterMap]
    constructor
    · rintro ⟨⟨own, node⟩, member, called⟩
      cases own with
      | nil => cases called
      | cons m parent =>
          by_cases inside : parent = d
          · simp only [nameIn, inside, if_true, Option.some.injEq] at called
            exact ⟨node, by rw [← called, ← inside]; exact member⟩
          · simp [nameIn, inside] at called
    · rintro ⟨node, member⟩
      exact ⟨_, member, by simp [nameIn]⟩
  rw [entries, node?, if_neg (List.cons_ne_nil n d), ne_eq, List.lookup_eq_none_iff]
  simp

theorem names_erase (n : Name) (d : Location) : (t.erase (n :: d)).names d = (t.names d).filter (· ≠ n) := by
  obtain ⟨nodes⟩ := t
  induction nodes with
  | nil => rfl
  | cons entry nodes ih =>
      obtain ⟨own, node⟩ := entry
      simp only [names, erase] at ih ⊢
      cases own with
      | nil => simpa [nameIn] using ih
      | cons m parent =>
          by_cases inside : parent = d
          · by_cases called : m = n
            · simpa [nameIn, inside, called] using ih
            · simpa [nameIn, inside, called] using ih
          · simpa [nameIn, inside] using ih

theorem names_put (n : Name) (d : Location) (node : Node) :
    (t.put (n :: d) node).names d = n :: (t.names d).filter (· ≠ n) := by
  rw [← names_erase]
  simp [put, names, nameIn]

def Opens (t : Tree) (work : Location) (directory : String) (place : Location) : Prop :=
  t.find work true directory = .ok (.taken place .directory)

theorem locate_directory (follow : Bool) (p : Path) :
    t.locate work follow p = .ok (.taken place .directory) ↔
      t.walk (follow || p.slashed) linkLimit (if p.fromRoot then [] else work) p.steps = .ok (.taken place .directory) := by
  unfold locate
  split
  · next walked => simp [walked]
  · next walked => simp [walked]
  · next node other walked =>
      have plain : node ≠ .directory := fun same => other same
      split <;> simp [walked, plain]
  · next walked => simp [walked]

theorem locate_unslashed (follow : Bool) (p : Path) (unslashed : p.slashed = false) :
    t.locate work follow p = t.walk follow linkLimit (if p.fromRoot then [] else work) p.steps := by
  unfold locate
  rw [unslashed, Bool.or_false]
  split
  · next walked => rw [walked]
  · next walked => rw [walked]
  · next walked => rw [walked]; rfl
  · next walked => rw [walked]

theorem opens_leads (opens : t.Opens work directory place) :
    ∃ p left, Path.ofText directory = .ok p ∧
      Leads t linkLimit (if p.fromRoot then [] else work) p.steps left place [] := by
  unfold Opens find at opens
  cases parsed : Path.ofText directory with
  | error r =>
      rw [parsed] at opens
      cases opens
  | ok p =>
      rw [parsed] at opens
      have walked := (locate_directory true p).mp opens
      obtain ⟨left, leads⟩ := leads_of_walk true walked
      exact ⟨p, left, rfl, leads⟩

theorem leads_opens (p : Path) (left : Nat) (parsed : Path.ofText directory = .ok p)
    (leads : Leads t linkLimit (if p.fromRoot then [] else work) p.steps left place []) :
    t.Opens work directory place := by
  unfold Opens find
  rw [parsed]
  exact (locate_directory true p).mpr (walk_arrived leads)

-- The directory stays where it is as long as the directories and the links do.
theorem opens_kept {t' : Tree} (opens : t.Opens work directory place)
    (directories : ∀ q, t.node? q = some .directory → t'.node? q = some .directory)
    (targets : ∀ q target, t.node? q = some (.link target) → t'.node? q = some (.link target)) :
    t'.Opens work directory place := by
  obtain ⟨p, left, parsed, leads⟩ := opens_leads opens
  exact leads_opens p left parsed (leads.kept directories targets)

-- Neither a directory nor a link: nothing that a walk could go through.
def Blocked : Option Node → Prop
  | some .directory => False
  | some (.link _) => False
  | _ => True

theorem opens_elsewhere {t' : Tree} (opens : t.Opens work directory place) (changed : Location)
    (blocked : Blocked (t.node? changed)) (same : ∀ q, q ≠ changed → t'.node? q = t.node? q) :
    t'.Opens work directory place := by
  have apart (q : Location) (node : Node) (found : t.node? q = some node) (passable : ¬Blocked (some node)) :
      q ≠ changed := by
    rintro rfl
    exact passable (found ▸ blocked)
  apply opens_kept opens
  · intro q found
    rw [same q (apart q _ found id), found]
  · intro q target found
    rw [same q (apart q _ found id), found]

theorem opens_put (opens : t.Opens work directory place) (n : Name) (d : Location) (node : Node)
    (blocked : Blocked (t.node? (n :: d))) : (t.put (n :: d) node).Opens work directory place :=
  opens_elsewhere opens _ blocked fun q other => by rw [node_put, if_neg other]

theorem opens_erase (opens : t.Opens work directory place) (n : Name) (d : Location)
    (blocked : Blocked (t.node? (n :: d))) : (t.erase (n :: d)).Opens work directory place :=
  opens_elsewhere opens _ blocked fun q other => by rw [node_erase, if_neg other]

def spot (t : Tree) (q : Location) : Spot :=
  match t.node? q with
  | none => .free q
  | some node => .taken q node

-- Nothing, a file or a directory: no link that a call would follow elsewhere, and no device.
def Ordinary : Option Node → Prop
  | none => True
  | some (.file _ _) => True
  | some .directory => True
  | _ => False

theorem blocked_ordinary {node : Option Node} (ordinary : Ordinary node) (free : node ≠ some .directory) :
    Blocked node := by
  cases node with
  | none => trivial
  | some node =>
      cases node with
      | directory => exact free rfl
      | file content mode => trivial
      | _ => exact absurd ordinary id

theorem walk_entry (follow : Bool) (links : Nat) (n : Name) (short : n.isTooLong = false)
    (ordinary : Ordinary (t.node? (n :: place))) : t.walk follow links place [.into n] = .ok (t.spot (n :: place)) := by
  rw [walk]
  simp only [short, Bool.false_eq_true, if_false, spot]
  cases found : t.node? (n :: place) with
  | none => simp
  | some node =>
      rw [found] at ordinary
      cases node with
      | directory => simp [walk]
      | file content mode => simp
      | _ => exact absurd ordinary id

theorem locate_entry (opens : t.Opens work directory place) (proper : Proper name) (fits : Fits directory name)
    (ordinary : Ordinary (t.node? (.text name :: place))) :
    ∃ p, Path.ofText (Path.join directory name) = .ok p ∧ p.slashed = false ∧
      ∀ follow, t.locate work follow p = .ok (t.spot (.text name :: place)) := by
  obtain ⟨p, left, parsed, leads⟩ := opens_leads opens
  refine ⟨⟨p.fromRoot, p.steps ++ [.into (.text name)], false⟩, ?_, rfl, fun follow => ?_⟩
  · rw [parsed_join directory name proper p parsed, if_neg (Nat.not_le.mpr fits.1)]
  · rw [locate_unslashed follow _ rfl, walk_leads follow leads [.into (.text name)] (.inr (by simp))]
    exact walk_entry follow left (.text name) fits.2 ordinary

theorem find_entry (follow : Bool) (opens : t.Opens work directory place) (proper : Proper name)
    (fits : Fits directory name) (ordinary : Ordinary (t.node? (.text name :: place))) :
    t.find work follow (Path.join directory name) = .ok (t.spot (.text name :: place)) := by
  obtain ⟨p, parsed, -, located⟩ := locate_entry opens proper fits ordinary
  rw [find, parsed]
  exact located follow

-- Whatever is found by the path of an entry is found in a directory, by a path and a name that are not too
-- long.
theorem found_entry (follow : Bool) (nonempty : directory ≠ "") (proper : Proper name) (spot : Spot)
    (found : t.find work follow (Path.join directory name) = .ok spot) :
    Fits directory name ∧ ∃ place, t.Opens work directory place := by
  unfold find at found
  cases parsed : Path.ofText (Path.join directory name) with
  | error r =>
      rw [parsed] at found
      cases found
  | ok q =>
      obtain ⟨p, whole⟩ := parsed_directory directory name nonempty proper q parsed
      have joined := parsed_join directory name proper p whole
      have short := ((parsed_text _ q).mp parsed).2.2.1
      rw [if_neg (Nat.not_le.mpr short), parsed, Except.ok.injEq] at joined
      rw [parsed, joined] at found
      change t.locate work follow _ = _ at found
      rw [locate_unslashed follow _ rfl] at found
      obtain ⟨left, place, leads⟩ := leads_before follow (.text name) spot found
      rw [walk_leads follow leads [.into (.text name)] (.inr (by simp)), List.nil_append, walk] at found
      cases long : (Name.text name).isTooLong with
      | true => simp [long] at found
      | false => exact ⟨⟨short, long⟩, place, leads_opens p left whole leads⟩

end Tree

end Overseer.Files
