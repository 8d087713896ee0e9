import Overseer.Proofs.Files.Following
import Overseer.Proofs.Files.Home

set_option autoImplicit false

namespace Overseer.Files.Tree

variable {t t' u : Tree} {work place : Location} {directory name other : String} {hidden : Location → Bool}

theorem steady_linkless (steady : Steady t t') {p : Location} (linkless : Linkless (t.node? p)) : Linkless (t'.node? p) := by
  rcases steady p with same | ⟨-, blocked⟩
  · rw [same]
    exact linkless
  · cases node : t'.node? p with
    | none => trivial
    | some held =>
        rw [node] at blocked
        cases held with
        | link target => exact blocked
        | _ => trivial

def set (t : Tree) (p : Location) : Option Node → Tree
  | some node => t.put p node
  | none => t.erase p

abbrev Setting : Type := String × Option Node

def edited (place : Location) (edits : List Setting) (t : Tree) : Tree :=
  edits.foldl (fun t e => t.set (.text e.1 :: place) e.2) t

theorem node_set (n : Name) (d p : Location) (node : Option Node) :
    (t.set (n :: d) node).node? p = if p = n :: d then node else t.node? p := by
  cases node with
  | none => exact node_erase n d p
  | some node => exact node_put n d p node

theorem set_steady (n : Name) (d : Location) {node : Option Node} (before : Blocked (t.node? (n :: d))) (after : Blocked node) :
    Steady t (t.set (n :: d) node) := by
  intro q
  rw [node_set]
  by_cases same : q = n :: d
  · rw [if_pos same, same]
    exact .inr ⟨before, after⟩
  · rw [if_neg same]
    exact .inl rfl

theorem edited_steady (place : Location) (edits : List Setting)
    (fair : ∀ e ∈ edits, Blocked (t.node? (.text e.1 :: place)) ∧ Blocked e.2) : Steady t (edited place edits t) := by
  induction edits generalizing t with
  | nil => exact steady_refl t
  | cons e edits ih =>
      obtain ⟨⟨before, after⟩, others⟩ := List.forall_mem_cons.mp fair
      have first := set_steady (.text e.1) place before after
      exact steady_trans first (ih fun e' member => ⟨steady_blocked first (others e' member).1, (others e' member).2⟩)

def without (t : Tree) (hidden : Location → Bool) : Tree := ⟨t.nodes.filter fun entry => !hidden entry.1⟩

theorem lookup_without (nodes : List (Location × Node)) (p : Location) (seen : hidden p = false) :
    (nodes.filter fun entry => !hidden entry.1).lookup p = nodes.lookup p := by
  induction nodes with
  | nil => rfl
  | cons entry nodes ih =>
      by_cases same : p = entry.1
      · rw [List.filter_cons_of_pos (by simp [← same, seen]), List.lookup_cons, List.lookup_cons, ih]
      · by_cases gone : hidden entry.1 = true
        · rw [List.filter_cons_of_neg (by simp [gone]), ih, List.lookup_cons, beq_false_of_ne same]
        · rw [List.filter_cons_of_pos (by simp [gone]), List.lookup_cons, List.lookup_cons, ih]

theorem node_without (p : Location) (seen : hidden p = false) : (t.without hidden).node? p = t.node? p := by
  unfold node? without
  rw [lookup_without t.nodes p seen]

theorem node_gone {p : Location} (below : p ≠ []) (gone : hidden p = true) : (t.without hidden).node? p = none := by
  rw [node?, if_neg below, without, List.lookup_eq_none_iff]
  intro entry member
  have seen := (List.mem_filter.mp member).2
  rw [bne_iff_ne]
  rintro rfl
  simp [gone] at seen

theorem names_without (d : Location) : (t.without hidden).names d = (t.names d).filter fun n => !hidden (n :: d) := by
  obtain ⟨nodes⟩ := t
  induction nodes with
  | nil => rfl
  | cons entry nodes ih =>
      obtain ⟨own, node⟩ := entry
      simp only [names, without] at ih ⊢
      cases own with
      | nil => cases gone : hidden [] <;> simpa [nameIn, gone] using ih
      | cons m parent =>
          by_cases inside : parent = d
          · subst inside
            cases gone : hidden (m :: parent) <;> simpa [nameIn, gone] using ih
          · cases gone : hidden (m :: parent) <;> simpa [nameIn, gone, inside] using ih

theorem erase_without (p : Location) : (t.erase p).without hidden = (t.without hidden).erase p := by
  unfold without erase
  rw [List.filter_filter, List.filter_filter]
  congr 2
  funext entry
  exact Bool.and_comm _ _

theorem erase_hidden (p : Location) (gone : hidden p = true) : (t.erase p).without hidden = t.without hidden := by
  unfold without erase
  rw [List.filter_filter]
  congr 1
  refine List.filter_congr fun entry _ => ?_
  by_cases same : entry.1 = p
  · simp [same, gone]
  · simp [same]

theorem set_seen (p : Location) (node : Option Node) (seen : hidden p = false) :
    (t.set p node).without hidden = (t.without hidden).set p node := by
  cases node with
  | none => exact erase_without p
  | some node =>
      have behind := congrArg nodes (@erase_without t hidden p)
      unfold set put
      rw [← behind]
      unfold without
      rw [List.filter_cons_of_pos (by simp [seen])]

theorem set_hidden (p : Location) (node : Option Node) (gone : hidden p = true) :
    (t.set p node).without hidden = t.without hidden := by
  cases node with
  | none => exact erase_hidden p gone
  | some node =>
      rw [← erase_hidden (t := t) p gone]
      unfold set put without
      rw [List.filter_cons_of_neg (by simp [gone])]

theorem edited_seen (place : Location) (edits : List Setting) (seen : ∀ e ∈ edits, hidden (.text e.1 :: place) = false) :
    (edited place edits t).without hidden = edited place edits (t.without hidden) := by
  induction edits generalizing t with
  | nil => rfl
  | cons e edits ih =>
      obtain ⟨first, others⟩ := List.forall_mem_cons.mp seen
      change (edited place edits (t.set _ _)).without hidden = edited place edits ((t.without hidden).set _ _)
      rw [ih others, set_seen _ _ first]

theorem edited_hidden (place : Location) (edits : List Setting) (gone : ∀ e ∈ edits, hidden (.text e.1 :: place) = true) :
    (edited place edits t).without hidden = t.without hidden := by
  induction edits generalizing t with
  | nil => rfl
  | cons e edits ih =>
      obtain ⟨first, others⟩ := List.forall_mem_cons.mp gone
      change (edited place edits (t.set _ _)).without hidden = _
      rw [ih others, set_hidden _ _ first]

-- In every tree where the directory is there and has these entries under these names, the call is refused or sets
-- some of them; neither what goes nor what comes is a directory or a link.
structure Does (directory : String) (names : List String) (held : String → Option Node)
    (call : Tree → Location → Except Refusal Tree) (deed : Except Refusal (List Setting)) : Prop where
  fair : ∀ edits, deed = .ok edits → ∀ e ∈ edits, e.1 ∈ names ∧ Blocked (held e.1) ∧ Blocked e.2
  done : ∀ t work place, Opens t work directory place → (∀ n ∈ names, t.node? (.text n :: place) = held n) →
    call t work = deed.map fun edits => edited place edits t

-- The call comes to the entries of these names. If none is a link, what they are tells what it does.
def Local (directory : String) (names : List String) (call : Tree → Location → Except Refusal Tree) : Prop :=
  ∀ held : String → Option Node, (∀ n ∈ names, Linkless (held n)) → ∃ deed, Does directory names held call deed

theorem does_refused {names : List String} {held : String → Option Node} {call : Tree → Location → Except Refusal Tree}
    (r : Refusal) (refused : ∀ t work place, Opens t work directory place →
      (∀ n ∈ names, t.node? (.text n :: place) = held n) → call t work = .error r) :
    ∃ deed, Does directory names held call deed := by
  refine ⟨.error r, ?_, refused⟩
  intro edits told
  cases told

theorem find_linkless (follow : Bool) (opens : t.Opens work directory place) (proper : Proper name) (fits : Fits directory name)
    (linkless : Linkless (t.node? (.text name :: place))) :
    t.find work follow (Path.join directory name) = .ok (t.spot (.text name :: place)) := by
  obtain ⟨p, parsed, -, located⟩ := locate_end follow opens proper fits fun _ => linkless_link linkless
  unfold find
  rw [parsed]
  exact located

theorem find_nothing (follow : Bool) (opens : t.Opens work directory place) (proper : Proper name) (fits : Fits directory name)
    (nothing : t.node? (.text name :: place) = none) :
    t.find work follow (Path.join directory name) = .ok (.free (.text name :: place)) := by
  rw [find_linkless follow opens proper fits (nothing ▸ trivial), spot, nothing]

theorem find_node {node : Node} (follow : Bool) (opens : t.Opens work directory place) (proper : Proper name)
    (fits : Fits directory name) (linkless : Linkless (some node)) (there : t.node? (.text name :: place) = some node) :
    t.find work follow (Path.join directory name) = .ok (.taken (.text name :: place) node) := by
  rw [find_linkless follow opens proper fits (there ▸ linkless), spot, there]

theorem writing_refused (path : String) (r : Refusal) (refused : t.find work true path = .error r) :
    t.findForWriting work path = .error r := by
  unfold find at refused
  unfold findForWriting
  cases parsed : Path.ofText path with
  | error e =>
      rw [parsed] at refused
      exact refused
  | ok p =>
      rw [parsed] at refused
      change t.locate work true p = _ at refused
      simp only [refused]

theorem writing_local (proper : Proper name) (call : Tree → Location → Except Refusal Tree)
    (deed : Option Node → Except Refusal (List Setting))
    (fair : ∀ node edits, deed node = .ok edits → ∀ e ∈ edits, e.1 = name ∧ Blocked e.2)
    (refused : ∀ t work r, t.findForWriting work (Path.join directory name) = .error r → call t work = .error r)
    (found : ∀ t work place, Blocked (t.node? (.text name :: place)) →
      t.findForWriting work (Path.join directory name) = .ok (t.spot (.text name :: place)) →
      call t work = (deed (t.node? (.text name :: place))).map fun edits => edited place edits t) :
    Local directory [name] call := by
  intro held linkless
  have plain := linkless name List.mem_cons_self
  by_cases fits : Fits directory name
  · by_cases taken : held name = some .directory
    · refine does_refused .isDirectory fun t work place opens same => ?_
      have node := (same name List.mem_cons_self).trans taken
      exact refused t work _ (writing_directory opens proper fits node)
    · have blocked := linkless_blocked plain taken
      refine ⟨deed (held name), fun edits told e member => ?_, fun t work place opens same => ?_⟩
      · obtain ⟨own, after⟩ := fair _ edits told e member
        rw [own]
        exact ⟨List.mem_cons_self, blocked, after⟩
      · have node := same name List.mem_cons_self
        rw [← node] at plain taken blocked ⊢
        exact found t work place blocked (writing_unlinked opens proper fits (linkless_link plain) taken)
  · refine does_refused .nameTooLong fun t work place opens same => ?_
    exact refused t work _ (writing_refused _ _ (find_unfit true opens proper fits))

def created (name : String) : Option Node → Except Refusal (List Setting)
  | none => .ok [(name, some (.file .empty newMode))]
  | some (.file _ mode) => .ok [(name, some (.file .empty mode))]
  | some (.tool _) => .ok [(name, some (.file .empty programMode))]
  | some _ => .ok []

theorem create_local (proper : Proper name) :
    Local directory [name] fun t work => t.create work (Path.join directory name) := by
  refine writing_local proper _ (created name) ?_ ?_ ?_
  · intro node edits told
    cases node with
    | none => cases told; simp [Blocked]
    | some held => cases held <;> cases told <;> simp [Blocked]
  · intro t work r refused
    unfold create
    rw [refused]
  · intro t work place blocked found
    unfold create
    rw [found, spot]
    cases node : t.node? (.text name :: place) with
    | none => rfl
    | some held =>
        rw [node] at blocked
        cases held with
        | directory => exact absurd blocked id
        | link target => exact absurd blocked id
        | _ => rfl

def extended (name : String) (bytes : ByteArray) : Option Node → Except Refusal (List Setting)
  | none => .error .missing
  | some (.file content mode) => .ok [(name, some (.file (content ++ bytes) mode))]
  | some .fullDevice => if bytes.isEmpty then .ok [] else .error .noSpace
  | some _ => .ok []

theorem extend_local (proper : Proper name) (bytes : ByteArray) :
    Local directory [name] fun t work => t.extend work (Path.join directory name) bytes := by
  refine writing_local proper _ (extended name bytes) ?_ ?_ ?_
  · intro node edits told
    cases node with
    | none => cases told
    | some held =>
        cases held with
        | fullDevice =>
            dsimp only [extended] at told
            split at told <;> cases told
            simp
        | _ => cases told; simp [Blocked]
  · intro t work r refused
    unfold extend
    rw [refused]
  · intro t work place blocked found
    unfold extend
    rw [found, spot]
    cases node : t.node? (.text name :: place) with
    | none => rfl
    | some held =>
        rw [node] at blocked
        cases held with
        | directory => exact absurd blocked id
        | link target => exact absurd blocked id
        | fullDevice =>
            dsimp only [extended]
            split <;> rfl
        | _ => rfl

-- Devices cannot be brought to the disk.
def synced : Option Node → Except Refusal (List Setting)
  | some .fullDevice => .error .invalid
  | some .sinkDevice => .error .invalid
  | _ => .ok []

theorem sync_local (proper : Proper name) :
    Local directory [name] fun t work => t.sync work (Path.join directory name) := by
  refine writing_local proper _ synced ?_ ?_ ?_
  · intro node edits told
    unfold synced at told
    split at told <;> cases told
    simp
  · intro t work r refused
    unfold sync
    rw [refused]
  · intro t work place blocked found
    unfold sync
    rw [found, spot]
    cases node : t.node? (.text name :: place) with
    | none => rfl
    | some held => cases held <;> rfl

theorem remove_local (proper : Proper name) :
    Local directory [name] fun t work => t.remove work (Path.join directory name) := by
  intro held linkless
  have plain := linkless name List.mem_cons_self
  by_cases fits : Fits directory name
  · cases here : held name with
    | none =>
        refine does_refused .missing fun t work place opens same => ?_
        have nothing := (same name List.mem_cons_self).trans here
        dsimp only [remove]
        rw [find_nothing false opens proper fits nothing]
    | some own =>
        rw [here] at plain
        by_cases taken : own = .directory
        · refine does_refused .isDirectory fun t work place opens same => ?_
          have there := (same name List.mem_cons_self).trans here
          dsimp only [remove]
          rw [find_node false opens proper fits plain there, taken]
        · refine ⟨.ok [(name, none)], ?_, fun t work place opens same => ?_⟩
          · rintro edits ⟨⟩ e member
            obtain rfl := List.mem_singleton.mp member
            exact ⟨List.mem_cons_self, here ▸ linkless_blocked plain (by simpa using taken), trivial⟩
          · have there := (same name List.mem_cons_self).trans here
            dsimp only [remove]
            rw [find_node false opens proper fits plain there]
            cases own with
            | directory => exact absurd rfl taken
            | _ => rfl
  · refine does_refused .nameTooLong fun t work place opens same => ?_
    dsimp only [remove]
    rw [find_unfit false opens proper fits]

theorem rename_does {held : String → Option Node} {node : Node} (proper : Proper name) (properOther : Proper other)
    (different : name ≠ other) (fits : Fits directory name) (here : held name = some node) (plain : Linkless (some node))
    (moved : node ≠ .directory) (plainOther : Linkless (held other)) :
    ∃ deed, Does directory [name, other] held
      (fun t work => t.rename work (Path.join directory name) (Path.join directory other)) deed := by
  have source {t : Tree} {work place : Location} (opens : Opens t work directory place)
      (same : ∀ n ∈ [name, other], t.node? (.text n :: place) = held n) :
      t.find work false (Path.join directory name) = .ok (.taken (.text name :: place) node) :=
    find_node false opens proper fits plain ((same name (by simp)).trans here)
  by_cases fitsOther : Fits directory other
  · have placed {t : Tree} {work place : Location} (opens : Opens t work directory place)
        (same : ∀ n ∈ [name, other], t.node? (.text n :: place) = held n) :=
      rename_placed (source opens same) moved opens properOther fitsOther (by simpa using different.symm)
    by_cases closed : held other = some .directory
    · refine does_refused .isDirectory fun t work place opens same => ?_
      rw [placed opens same, (same other (by simp)).trans closed]
    · refine ⟨.ok [(name, none), (other, some node)], ?_, fun t work place opens same => ?_⟩
      · rintro edits ⟨⟩ e member
        have blocked := linkless_blocked plain (by simpa using moved)
        have either : e = (name, none) ∨ e = (other, some node) := by simpa using member
        rcases either with rfl | rfl
        · exact ⟨by simp, here ▸ blocked, trivial⟩
        · exact ⟨by simp, linkless_blocked plainOther closed, blocked⟩
      · rw [placed opens same, same other (by simp)]
        cases free : held other with
        | none => rfl
        | some held =>
            cases held with
            | directory => exact absurd free closed
            | _ => rfl
  · refine does_refused .nameTooLong fun t work place opens same => ?_
    exact rename_unplaced (source opens same) moved _ _ (find_unfit false opens properOther fitsOther)

theorem rename_local (proper : Proper name) (properOther : Proper other) (different : name ≠ other) :
    Local directory [name, other] fun t work => t.rename work (Path.join directory name) (Path.join directory other) := by
  intro held linkless
  have plain := linkless name (by simp)
  by_cases fits : Fits directory name
  · cases here : held name with
    | none =>
        refine does_refused .missing fun t work place opens same => ?_
        have nothing := (same name (by simp)).trans here
        dsimp only [rename]
        rw [find_nothing false opens proper fits nothing]
    | some node =>
        rw [here] at plain
        by_cases taken : node = .directory
        · refine does_refused .invalid fun t work place opens same => ?_
          have there := (same name (by simp)).trans here
          dsimp only [rename]
          rw [find_node false opens proper fits plain there, taken]
        · exact rename_does proper properOther different fits here plain taken (linkless other (by simp))
  · refine does_refused .nameTooLong fun t work place opens same => ?_
    dsimp only [rename]
    rw [find_unfit false opens proper fits]

-- A way that does not need what is hidden stays, whatever becomes of that.
theorem without_opens {t' : Tree} (opens : (t.without hidden).Opens work directory place) (below : hidden [] = false)
    (steady : ∀ q, hidden q = false → t'.node? q = t.node? q ∨ Blocked (t.node? q) ∧ Blocked (t'.node? q)) :
    t'.Opens work directory place := by
  have kept (q : Location) (node : Node) (found : (t.without hidden).node? q = some node) (passable : ¬Blocked (some node)) :
      t'.node? q = some node := by
    have seen : hidden q = false := by
      cases gone : hidden q with
      | false => rfl
      | true =>
          have inside : q ≠ [] := by
            rintro rfl
            cases below.symm.trans gone
          rw [node_gone inside gone] at found
          cases found
    rw [node_without q seen] at found
    rcases steady q seen with same | ⟨before, -⟩
    · exact same.trans found
    · exact absurd (found ▸ before) passable
  exact opens_kept opens (fun q found => kept q _ found id) fun q target found => kept q _ found id

-- The directory is in the same place of both, and they differ at hidden places only.
structure Beside (work : Location) (directory : String) (place : Location) (hidden : Location → Bool) (t t' : Tree) : Prop where
  opens : t.Opens work directory place
  opens' : t'.Opens work directory place
  same : t'.without hidden = t.without hidden

theorem beside_refl (opens : t.Opens work directory place) (hidden : Location → Bool) : Beside work directory place hidden t t :=
  ⟨opens, opens, rfl⟩

section Beside

variable (beside : Beside work directory place hidden t t')

include beside

theorem beside_node (p : Location) (seen : hidden p = false) : t'.node? p = t.node? p := by
  rw [← node_without p seen, beside.same, node_without p seen]

theorem beside_names : (t'.names place).filter (fun n => !hidden (n :: place)) =
    (t.names place).filter fun n => !hidden (n :: place) := by
  rw [← names_without, beside.same, names_without]

theorem beside_find (follow : Bool) (proper : Proper name) (seen : hidden (.text name :: place) = false)
    (linkless : Linkless (t.node? (.text name :: place))) :
    t'.find work follow (Path.join directory name) = t.find work follow (Path.join directory name) := by
  have same := beside_node beside _ seen
  by_cases fits : Fits directory name
  · rw [find_linkless follow beside.opens proper fits linkless,
      find_linkless follow beside.opens' proper fits (same ▸ linkless), spot, spot, same]
  · rw [find_unfit follow beside.opens proper fits, find_unfit follow beside.opens' proper fits]

variable {names : List String} {call : Tree → Location → Except Refusal Tree} (within : Local directory names call)
  (linkless : ∀ n ∈ names, Linkless (t.node? (.text n :: place)))

include within linkless

theorem local_both (seen : ∀ n ∈ names, hidden (.text n :: place) = false) :
    (∃ r, call t work = .error r ∧ call t' work = .error r) ∨
      ∃ u u', call t work = .ok u ∧ call t' work = .ok u' ∧ Steady t u ∧ Beside work directory place hidden u u' := by
  obtain ⟨deed, fair, does⟩ := within (fun n => t.node? (.text n :: place)) linkless
  have one := does t work place beside.opens fun _ _ => rfl
  have two := does t' work place beside.opens' fun n member => beside_node beside _ (seen n member)
  cases deed with
  | error r => exact .inl ⟨r, one, two⟩
  | ok edits =>
      have allowed := fair edits rfl
      have steady := edited_steady (t := t) place edits fun e member => (allowed e member).2
      have steady' : Steady t' (edited place edits t') := edited_steady place edits fun e member => by
        rw [beside_node beside _ (seen _ (allowed e member).1)]
        exact (allowed e member).2
      refine .inr ⟨_, _, one, two, steady, steady_opens steady beside.opens, steady_opens steady' beside.opens', ?_⟩
      have shown (e : Setting) (member : e ∈ edits) := seen _ (allowed e member).1
      rw [edited_seen place edits shown, edited_seen place edits shown, beside.same]

theorem local_hidden (gone : ∀ n ∈ names, hidden (.text n :: place) = true) :
    (∃ r, call t work = .error r) ∨
      ∃ u, call t work = .ok u ∧ Steady t u ∧ Beside work directory place hidden u t' := by
  obtain ⟨deed, fair, does⟩ := within (fun n => t.node? (.text n :: place)) linkless
  have one := does t work place beside.opens fun _ _ => rfl
  cases deed with
  | error r => exact .inl ⟨r, one⟩
  | ok edits =>
      have allowed := fair edits rfl
      have steady := edited_steady (t := t) place edits fun e member => (allowed e member).2
      refine .inr ⟨_, one, steady, steady_opens steady beside.opens, beside.opens', ?_⟩
      rw [edited_hidden place edits fun e member => gone _ (allowed e member).1]
      exact beside.same

end Beside

end Overseer.Files.Tree
