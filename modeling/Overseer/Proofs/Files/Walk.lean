import Overseer.Files.Tree
/-!
Walks through a tree of files. A walk is a chain of strides through directories and links, and it ends
in a directory, at some other node, or at a place where nothing is.
-/
set_option autoImplicit false

namespace Overseer.Files

namespace Tree

-- From a directory and the steps to go to another directory and the steps left there, with the links that
-- may still be followed at either point.
inductive Leads (t : Tree) : Nat → Location → List Step → Nat → Location → List Step → Prop where
  | start (links : Nat) (place : Location) (steps : List Step) : Leads t links place steps links place steps
  | here {links left : Nat} {place goal : Location} {steps rest : List Step}
      (later : Leads t links place steps left goal rest) : Leads t links place (.here :: steps) left goal rest
  | up {links left : Nat} {place goal : Location} {steps rest : List Step}
      (later : Leads t links place.tail steps left goal rest) : Leads t links place (.up :: steps) left goal rest
  | into {links left : Nat} {place goal : Location} {steps rest : List Step} {n : Name}
      (short : n.isTooLong = false) (directory : t.node? (n :: place) = some .directory)
      (later : Leads t links (n :: place) steps left goal rest) :
      Leads t links place (.into n :: steps) left goal rest
  | link {links left : Nat} {place goal : Location} {steps rest : List Step} {n : Name} {target : String} {p : Path}
      (short : n.isTooLong = false) (link : t.node? (n :: place) = some (.link target))
      (parsed : Path.ofText target = .ok p)
      (later : Leads t links (if p.fromRoot then [] else place) (p.steps ++ steps) left goal rest) :
      Leads t (links + 1) place (.into n :: steps) left goal rest

inductive Arrives (t : Tree) (links : Nat) (place : Location) (steps : List Step) : Except Refusal Spot → Prop where
  | directory {left : Nat} {goal : Location} (leads : Leads t links place steps left goal []) :
      Arrives t links place steps (.ok (.taken goal .directory))
  | free {left : Nat} {goal : Location} {n : Name} (leads : Leads t links place steps left goal [.into n])
      (short : n.isTooLong = false) (nothing : t.node? (n :: goal) = none) : Arrives t links place steps (.ok (.free (n :: goal)))
  | other {left : Nat} {goal : Location} {n : Name} {node : Node} (leads : Leads t links place steps left goal [.into n])
      (something : t.node? (n :: goal) = some node) (plain : node ≠ .directory) :
      Arrives t links place steps (.ok (.taken (n :: goal) node))
  | refused (r : Refusal) : Arrives t links place steps (.error r)

variable {t : Tree} {links left : Nat} {place goal : Location} {steps rest : List Step}

theorem Arrives.after {links' : Nat} {place' : Location} {steps' : List Step} {spot : Except Refusal Spot}
    (arrives : Arrives t links' place' steps' spot)
    (stride : ∀ {left : Nat} {goal : Location} {rest : List Step},
      Leads t links' place' steps' left goal rest → Leads t links place steps left goal rest) :
    Arrives t links place steps spot := by
  cases arrives with
  | directory leads => exact .directory (stride leads)
  | free leads short nothing => exact .free (stride leads) short nothing
  | other leads something plain => exact .other (stride leads) something plain
  | refused r => exact .refused r

theorem walk_arrives (t : Tree) (follow : Bool) (links : Nat) (place : Location) (steps : List Step) :
    Arrives t links place steps (t.walk follow links place steps) := by
  fun_induction walk t follow links place steps with
  | case1 links place => exact .directory (.start _ _ _)
  | case2 links place rest ih => exact ih.after .here
  | case3 links place rest ih => exact ih.after .up
  | case4 => exact .refused _
  | case5 links place n short nothing => exact .free (.start _ _ _) (by simpa using short) nothing
  | case6 => exact .refused _
  | case7 links place n rest short directory ih => exact ih.after (.into (by simpa using short) directory)
  | case8 links place n rest short target link last =>
      obtain rfl : rest = [] := by
        simp only [Bool.and_eq_true, decide_eq_true_eq] at last
        exact last.1
      exact .other (.start _ _ _) link (by simp)
  | case9 => exact .refused _
  | case10 => exact .refused _
  | case11 place n rest short target link last links p parsed ih =>
      exact ih.after (.link (by simpa using short) link parsed)
  | case12 links place n short node directory link something => exact .other (.start _ _ _) something directory
  | case13 => exact .refused _

-- Where more steps follow, or links are followed to the end, a walk can be told from any of its strides.
theorem walk_leads (follow : Bool) (leads : Leads t links place steps left goal rest) (more : List Step)
    (onward : follow = true ∨ more ≠ []) :
    t.walk follow links place (steps ++ more) = t.walk follow left goal (rest ++ more) := by
  induction leads with
  | start => rfl
  | here later ih =>
      rw [List.cons_append, walk]
      exact ih
  | up later ih =>
      rw [List.cons_append, walk]
      exact ih
  | into short directory later ih =>
      rw [List.cons_append, walk]
      simp only [short, Bool.false_eq_true, if_false, directory]
      exact ih
  | @link links left place goal steps rest n target p short link parsed later ih =>
      have unfinished : (decide (steps ++ more = []) && !follow) = false := by
        rcases onward with followed | other
        · rw [followed]
          simp
        · simp [other]
      rw [List.cons_append, walk]
      simp only [short, Bool.false_eq_true, if_false, link, unfinished, parsed]
      rw [← List.append_assoc]
      exact ih

theorem walk_arrived (leads : Leads t links place steps left goal []) :
    t.walk true links place steps = .ok (.taken goal .directory) := by
  have same := walk_leads true leads [] (.inl rfl)
  rw [List.append_nil, List.append_nil, walk] at same
  exact same

theorem leads_of_walk (follow : Bool) (found : t.walk follow links place steps = .ok (.taken goal .directory)) :
    ∃ left, Leads t links place steps left goal [] := by
  have arrives := walk_arrives t follow links place steps
  rw [found] at arrives
  cases arrives with
  | directory leads => exact ⟨_, leads⟩
  | other leads something plain => exact absurd rfl plain

theorem walk_unfollowed (leads : Leads t links place steps left goal []) :
    ∃ end_ node, t.walk false links place steps = .ok (.taken end_ node) := by
  generalize none : ([] : List Step) = rest at leads
  induction leads with
  | start =>
      subst none
      exact ⟨_, _, by rw [walk]⟩
  | here later ih =>
      rw [walk]
      exact ih none
  | up later ih =>
      rw [walk]
      exact ih none
  | into short directory later ih =>
      rw [walk]
      simp only [short, Bool.false_eq_true, if_false, directory]
      exact ih none
  | @link links left place goal steps rest n target p short link parsed later ih =>
      rw [walk]
      simp only [short, Bool.false_eq_true, if_false, link, parsed]
      cases steps with
      | nil => exact ⟨_, _, rfl⟩
      | cons step steps => exact ih none

-- Strides go through directories and links only, so a change elsewhere does not touch them.
theorem Leads.kept {t' : Tree} (leads : Leads t links place steps left goal rest)
    (directories : ∀ q, t.node? q = some .directory → t'.node? q = some .directory)
    (targets : ∀ q target, t.node? q = some (.link target) → t'.node? q = some (.link target)) :
    Leads t' links place steps left goal rest := by
  induction leads with
  | start => exact .start _ _ _
  | here later ih => exact .here ih
  | up later ih => exact .up ih
  | into short directory later ih => exact .into short (directories _ directory) ih
  | link short link parsed later ih => exact .link short (targets _ _ link) parsed ih

theorem Leads.append (leads : Leads t links place steps left goal rest) (more : List Step) :
    Leads t links place (steps ++ more) left goal (rest ++ more) := by
  induction leads with
  | start => exact .start _ _ _
  | here later ih => exact .here ih
  | up later ih => exact .up ih
  | into short directory later ih => exact .into short directory ih
  | link short link parsed later ih =>
      refine .link short link parsed ?_
      rw [List.append_eq, ← List.append_assoc]
      exact ih

theorem Leads.trans {links' : Nat} {place' : Location} {steps' : List Step}
    (first : Leads t links place steps links' place' steps') (second : Leads t links' place' steps' left goal rest) :
    Leads t links place steps left goal rest := by
  induction first with
  | start => exact second
  | here later ih => exact .here (ih second)
  | up later ih => exact .up (ih second)
  | into short directory later ih => exact .into short directory (ih second)
  | link short link parsed later ih => exact .link short link parsed (ih second)

inductive Passes (t : Tree) (links : Nat) (place : Location) (steps more : List Step) (left : Nat) (goal : Location) :
    List Step → Prop where
  | within {between : List Step} (leads : Leads t links place steps left goal between) :
      Passes t links place steps more left goal (between ++ more)
  | beyond {rest : List Step} {left' : Nat} {goal' : Location} (leads : Leads t links place steps left' goal' []) :
      Passes t links place steps more left goal rest

theorem Passes.after {links' : Nat} {place' : Location} {steps' more : List Step}
    (passes : Passes t links' place' steps' more left goal rest)
    (stride : ∀ {left : Nat} {goal : Location} {rest : List Step},
      Leads t links' place' steps' left goal rest → Leads t links place steps left goal rest) :
    Passes t links place steps more left goal rest := by
  cases passes with
  | within leads => exact .within (stride leads)
  | beyond leads => exact .beyond (stride leads)

theorem leads_passes {all : List Step} (leads : Leads t links place all left goal rest) (steps more : List Step)
    (joined : all = steps ++ more) : Passes t links place steps more left goal rest := by
  induction leads generalizing steps with
  | start links place all =>
      subst joined
      exact .within (.start _ _ _)
  | @here links left place goal all rest later ih =>
      cases steps with
      | nil => exact .beyond (.start _ _ _)
      | cons step steps =>
          obtain ⟨rfl, tail⟩ := List.cons_eq_cons.mp joined
          exact (ih steps tail).after .here
  | @up links left place goal all rest later ih =>
      cases steps with
      | nil => exact .beyond (.start _ _ _)
      | cons step steps =>
          obtain ⟨rfl, tail⟩ := List.cons_eq_cons.mp joined
          exact (ih steps tail).after .up
  | @into links left place goal all rest n short directory later ih =>
      cases steps with
      | nil => exact .beyond (.start _ _ _)
      | cons step steps =>
          obtain ⟨rfl, tail⟩ := List.cons_eq_cons.mp joined
          exact (ih steps tail).after (.into short directory)
  | @link links left place goal all rest n target p short link parsed later ih =>
      cases steps with
      | nil => exact .beyond (.start _ _ _)
      | cons step steps =>
          obtain ⟨rfl, tail⟩ := List.cons_eq_cons.mp joined
          have joined : p.steps ++ all = (p.steps ++ steps) ++ more := by
            rw [tail, List.append_assoc]
            rfl
          exact (ih (p.steps ++ steps) joined).after (.link short link parsed)

theorem leads_before (follow : Bool) (n : Name) (spot : Spot)
    (found : t.walk follow links place (steps ++ [.into n]) = .ok spot) :
    ∃ left goal, Leads t links place steps left goal [] := by
  have arrives := walk_arrives t follow links place (steps ++ [.into n])
  have passed {left : Nat} {goal : Location} {rest : List Step} (short : rest.length ≤ 1)
      (leads : Leads t links place (steps ++ [.into n]) left goal rest) :
      ∃ left goal, Leads t links place steps left goal [] := by
    cases leads_passes leads steps [.into n] rfl with
    | @within between inside =>
        have none : between = [] := by simpa using short
        exact ⟨_, _, none ▸ inside⟩
    | beyond inside => exact ⟨_, _, inside⟩
  rw [found] at arrives
  cases arrives with
  | directory leads => exact passed (by simp) leads
  | free leads => exact passed (by simp) leads
  | other leads => exact passed (by simp) leads

end Tree

end Overseer.Files
