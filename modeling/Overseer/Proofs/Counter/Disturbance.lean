import Overseer.Proofs.Counter.Answers
import Overseer.Proofs.Counter.Interference

set_option autoImplicit false

namespace Overseer.Counter

open Files (Location Name Path Proper)
open Files.Tree (Blocked Ordinary blocked_ordinary)
open Host (Answer Call Listing Machine)
open Program (Given Runs leave)
open Text (Numeral.word32)

-- What may become of a call: it is served, or it is refused and has changed nothing, or it is refused when
-- its file has been created or a part of its bytes has been written.
inductive Disturbed (listing : Listing) (m : Machine) : (c : Call) → Answer c → Machine → Prop where
  | served (c : Call) : Disturbed listing m c (listing.answer c m).1 (listing.answer c m).2
  | refused {c : Call} {told : Answer c} (r : Refusal) (refuses : refuse r c = some told) : Disturbed listing m c told m
  | created {path : String} {t : Files.Tree} (r : Refusal) (made : m.tree.create m.work path = .ok t) :
      Disturbed listing m (.create path) (.error r) { m with tree := t }
  | torn {path : String} {bytes : ByteArray} {t : Files.Tree} (r : Refusal) (length : Nat)
      (written : m.tree.extend m.work path (bytes.extract 0 length) = .ok t) :
      Disturbed listing m (.extend path bytes) (.error r) { m with tree := t }

def Suffers (listing : Listing) : Machine → List Exchange → Machine → Prop
  | m, [], m' => m' = m
  | m, e :: rest, m' => ∃ between, Disturbed listing m e.1 e.2 between ∧ Suffers listing between rest m'

-- All is as it was, but for an entry of the directory that is still a file or nothing, or a directory.
structure Confined (store : Store) (place : Location) (name : String) (m m' : Machine) : Prop where
  work : m'.work = m.work
  opens : m'.tree.Opens m'.work store.home place
  own : Ordinary (m'.tree.node? (.text name :: place))
  others : ∀ q, q ≠ .text name :: place → m'.tree.node? q = m.tree.node? q
  names : (m'.tree.names place).filter (· ≠ .text name) = (m.tree.names place).filter (· ≠ .text name)

-- Nothing has changed but the temporary, and whoever asks the store is told what he was told before.
structure Untouched (listing : Listing) (store : Store) (id : UInt64) (m m' : Machine) : Prop where
  work : m'.work = m.work
  others : ∀ q, (∀ place, m.tree.Opens m.work store.home place → q ≠ .text (temporaryName store.stem id) :: place) →
    m'.tree.node? q = m.tree.node? q
  allocates : (store.allocate.run listing.answer m').1 = (store.allocate.run listing.answer m).1
  lists : (store.list.run listing.answer m').1 = (store.list.run listing.answer m).1
  reads : ∀ other, ((store.read other).run listing.answer m').1 = ((store.read other).run listing.answer m).1

variable {store : Store} {listing : Listing} {m m' m'' : Machine} {place : Location} {name : String} {id : UInt64}

theorem suffers_append (a b : List Exchange) :
    Suffers listing m (a ++ b) m' ↔ ∃ between, Suffers listing m a between ∧ Suffers listing between b m' := by
  induction a generalizing m with
  | nil => simp [Suffers]
  | cons e rest ih =>
      simp only [List.cons_append, Suffers, ih]
      constructor
      · rintro ⟨first, disturbed, between, later, further⟩
        exact ⟨between, ⟨first, disturbed, later⟩, further⟩
      · rintro ⟨between, ⟨first, disturbed, later⟩, further⟩
        exact ⟨first, disturbed, between, later, further⟩

theorem disturbed_served {c : Call} {told : Answer c} (granted : ∀ r, refuse r c ≠ some told)
    (disturbed : Disturbed listing m c told m') : (listing.answer c m).1 = told ∧ m' = (listing.answer c m).2 := by
  cases disturbed with
  | served => exact ⟨rfl, rfl⟩
  | refused r refuses => exact absurd refuses (granted r)
  | created r made => exact absurd rfl (granted r)
  | torn r length written => exact absurd rfl (granted r)

theorem suffers_served {h : List Exchange} (granted : ∀ e ∈ h, ∀ r, refuse r e.1 ≠ some e.2)
    (suffers : Suffers listing m h m') : Given listing.answer m h ∧ m' = leave listing.answer m h := by
  induction h generalizing m with
  | nil => exact ⟨trivial, suffers⟩
  | cons e rest ih =>
      obtain ⟨first, others⟩ := List.forall_mem_cons.mp granted
      obtain ⟨between, disturbed, later⟩ := suffers
      obtain ⟨told, rfl⟩ := disturbed_served first disturbed
      obtain ⟨given, left⟩ := ih others later
      exact ⟨⟨told, given⟩, left⟩

theorem confined_refl (opens : m.tree.Opens m.work store.home place) (ordinary : Ordinary (m.tree.node? (.text name :: place))) :
    Confined store place name m m :=
  ⟨rfl, opens, ordinary, fun _ _ => rfl, rfl⟩

theorem confined_trans (first : Confined store place name m m') (second : Confined store place name m' m'') :
    Confined store place name m m'' where
  work := second.work.trans first.work
  opens := second.opens
  own := second.own
  others q other := (second.others q other).trans (first.others q other)
  names := second.names.trans first.names

theorem confined_put (opens : m.tree.Opens m.work store.home place) (blocked : Blocked (m.tree.node? (.text name :: place)))
    (content : ByteArray) (mode : Nat) :
    Confined store place name m { m with tree := m.tree.put (.text name :: place) (.file content mode) } where
  work := rfl
  opens := Files.Tree.opens_put opens _ _ _ blocked
  own := by simp [Files.Tree.node_put, Ordinary]
  others q other := by simp [Files.Tree.node_put, other]
  names := by simp [Files.Tree.names_put]

theorem confined_erase (opens : m.tree.Opens m.work store.home place) (blocked : Blocked (m.tree.node? (.text name :: place))) :
    Confined store place name m { m with tree := m.tree.erase (.text name :: place) } where
  work := rfl
  opens := Files.Tree.opens_erase opens _ _ blocked
  own := by simp [Files.Tree.node_erase, Ordinary]
  others q other := by simp [Files.Tree.node_erase, other]
  names := by simp [Files.Tree.names_erase]

theorem create_told {path : String} {r : Except Refusal Files.Tree} (made : m.tree.create m.work path = r) :
    listing.answer (.create path) m = m.settle r := congrArg m.settle made

theorem extend_told {path : String} {bytes : ByteArray} {r : Except Refusal Files.Tree}
    (written : m.tree.extend m.work path bytes = r) : listing.answer (.extend path bytes) m = m.settle r :=
  congrArg m.settle written

theorem remove_told {path : String} {r : Except Refusal Files.Tree} (removed : m.tree.remove m.work path = r) :
    listing.answer (.remove path) m = m.settle r := congrArg m.settle removed

section Calls

variable (opens : m.tree.Opens m.work store.home place) (proper : Proper name)

include opens proper

theorem made_confined {t : Files.Tree} (ordinary : Ordinary (m.tree.node? (.text name :: place)))
    (made : m.tree.create m.work (Path.join store.directory name) = .ok t) :
    Confined store place name m { m with tree := t } ∧ ∃ mode, t.node? (.text name :: place) = some (.file .empty mode) := by
  rw [home_same store m proper (m.tree.create m.work) fun _ _ => Files.Tree.create_resolved] at made
  obtain ⟨free, mode, rfl⟩ := Files.Tree.create_granted opens proper ordinary made
  exact ⟨confined_put opens (blocked_ordinary ordinary free) _ _, mode, by rw [Files.Tree.node_put, if_pos rfl]⟩

theorem create_confined {told : Except Refusal Unit} (ordinary : Ordinary (m.tree.node? (.text name :: place)))
    (disturbed : Disturbed listing m (.create (Path.join store.directory name)) told m') :
    Confined store place name m m' ∧
      (told = .ok () → ∃ mode, m'.tree.node? (.text name :: place) = some (.file .empty mode)) := by
  cases disturbed with
  | served =>
      cases made : m.tree.create m.work (Path.join store.directory name) with
      | error r =>
          rw [create_told made]
          exact ⟨confined_refl opens ordinary, nofun⟩
      | ok t =>
          rw [create_told made]
          obtain ⟨kept, file⟩ := made_confined opens proper ordinary made
          exact ⟨kept, fun _ => file⟩
  | refused r refuses =>
      cases refuses
      exact ⟨confined_refl opens ordinary, nofun⟩
  | created r made => exact ⟨(made_confined opens proper ordinary made).1, nofun⟩

theorem written_confined {t : Files.Tree} {content : ByteArray} {mode : Nat} (bytes : ByteArray)
    (file : m.tree.node? (.text name :: place) = some (.file content mode))
    (written : m.tree.extend m.work (Path.join store.directory name) bytes = .ok t) :
    Confined store place name m { m with tree := t } ∧
      t.node? (.text name :: place) = some (.file (content ++ bytes) mode) := by
  rw [home_same store m proper (m.tree.extend m.work · bytes) fun _ _ resolved =>
    Files.Tree.extend_resolved resolved bytes] at written
  obtain rfl := Files.Tree.extend_granted opens proper content bytes mode file written
  exact ⟨confined_put opens (file ▸ trivial) _ _, by rw [Files.Tree.node_put, if_pos rfl]⟩

theorem extend_confined {told : Except Refusal Unit} {content bytes : ByteArray} {mode : Nat}
    (file : m.tree.node? (.text name :: place) = some (.file content mode))
    (disturbed : Disturbed listing m (.extend (Path.join store.directory name) bytes) told m') :
    Confined store place name m m' ∧
      (told = .ok () → m'.tree.node? (.text name :: place) = some (.file (content ++ bytes) mode)) := by
  have same : Confined store place name m m := confined_refl opens (file ▸ trivial)
  cases disturbed with
  | served =>
      cases written : m.tree.extend m.work (Path.join store.directory name) bytes with
      | error r =>
          rw [extend_told written]
          exact ⟨same, nofun⟩
      | ok t =>
          rw [extend_told written]
          obtain ⟨kept, longer⟩ := written_confined opens proper bytes file written
          exact ⟨kept, fun _ => longer⟩
  | refused r refuses =>
      cases refuses
      exact ⟨same, nofun⟩
  | torn r length written => exact ⟨(written_confined opens proper _ file written).1, nofun⟩

theorem remove_confined {told : Except Refusal Unit} (ordinary : Ordinary (m.tree.node? (.text name :: place)))
    (disturbed : Disturbed listing m (.remove (Path.join store.directory name)) told m') :
    Confined store place name m m' ∧ (told = .ok () → m'.tree.node? (.text name :: place) = none) := by
  cases disturbed with
  | served =>
      cases removed : m.tree.remove m.work (Path.join store.directory name) with
      | error r =>
          rw [remove_told removed]
          exact ⟨confined_refl opens ordinary, fun granted => by cases granted⟩
      | ok t =>
          rw [remove_told removed]
          rw [home_same store m proper (m.tree.remove m.work) fun _ _ => Files.Tree.remove_resolved] at removed
          obtain ⟨free, rfl⟩ := Files.Tree.remove_granted opens proper removed
          exact ⟨confined_erase opens (blocked_ordinary ordinary free), fun _ => by simp [Machine.settle, Files.Tree.node_erase]⟩
  | refused r refuses =>
      cases refuses
      exact ⟨confined_refl opens ordinary, fun granted => by cases granted⟩

end Calls

theorem sync_still {path : String} {told : Except Refusal Unit} (disturbed : Disturbed listing m (.sync path) told m') :
    m' = m := by
  cases disturbed with
  | served =>
      cases answered : (listing.answer (.sync path) m).1 with
      | error r => exact refused_still r _ rfl answered
      | ok done => exact granted_sync path answered
  | refused r refuses => rfl

theorem rename_refused {source target : String} {r : Refusal}
    (disturbed : Disturbed listing m (.rename source target) (.error r) m') : m' = m := by
  generalize refused : Except.error r = told at disturbed
  cases disturbed with
  | served => exact refused_still r _ rfl refused.symm
  | refused r refuses => rfl

section Write

variable (plain : Stem store.stem) (opens : m.tree.Opens m.work store.home place)
  (temporary : Ordinary (m.tree.node? (.text (temporaryName store.stem id) :: place)))

include plain opens temporary

theorem unwritten_confined {path : String} {bytes : ByteArray} {h : List Exchange} {r : Refusal}
    (wrote : Wrote (store.temporaryPath id) path bytes h (.error r)) (suffers : Suffers listing m h m') :
    Confined store place (temporaryName store.stem id) m m' := by
  have proper := temporary_proper plain id
  cases wrote with
  | uncreated r =>
      obtain ⟨first, creating, rfl⟩ := suffers
      exact (create_confined opens proper temporary creating).1
  | unextended r =>
      obtain ⟨first, creating, second, extending, rfl⟩ := suffers
      obtain ⟨kept, file⟩ := create_confined opens proper temporary creating
      obtain ⟨mode, file⟩ := file rfl
      exact confined_trans kept (extend_confined kept.opens proper file extending).1
  | unsynced r =>
      obtain ⟨first, creating, second, extending, third, syncing, rfl⟩ := suffers
      obtain ⟨kept, file⟩ := create_confined opens proper temporary creating
      obtain ⟨mode, file⟩ := file rfl
      obtain rfl := sync_still syncing
      exact confined_trans kept (extend_confined kept.opens proper file extending).1
  | named told =>
      obtain ⟨first, creating, second, extending, third, syncing, fourth, naming, rfl⟩ := suffers
      obtain ⟨kept, file⟩ := create_confined opens proper temporary creating
      obtain ⟨mode, file⟩ := file rfl
      obtain rfl := sync_still syncing
      obtain rfl := rename_refused naming
      exact confined_trans kept (extend_confined kept.opens proper file extending).1

theorem written_replaced {count : UInt32} {h : List Exchange}
    (artifact : Ordinary (m.tree.node? (.text (artifactName store.stem id) :: place)))
    (wrote : Wrote (store.temporaryPath id) (store.artifactPath id) (Numeral.word32 count).toUTF8 h (.ok ()))
    (suffers : Suffers listing m h m') : Replaced store id count m m' place := by
  have granted : ∀ e ∈ h, ∀ r, refuse r e.1 ≠ some e.2 := by
    generalize done : Except.ok () = told at wrote
    cases wrote with
    | named told =>
        subst done
        simp [refuse]
    | _ => cases done
  obtain ⟨given, rfl⟩ := suffers_served granted suffers
  exact wrote_replaced plain opens (Files.Tree.linkless_ordinary temporary)
    (fun free => Files.Tree.avoids_blocked opens (blocked_ordinary artifact free)) wrote given

end Write

section Confined

variable (plain : Stem store.stem) (opens : m.tree.Opens m.work store.home place)
  (kept : Confined store place (temporaryName store.stem id) m m')

include opens kept

theorem confined_shows : store.shows listing m' = store.shows listing m := by
  rw [shows_home listing opens, shows_home listing kept.opens]
  have foreign := ordinal_temporary store.stem id
  have perm := listing.perm m (m.tree.names place)
  have perm' := listing.perm m' (m'.tree.names place)
  rw [sorted_perm store.stem perm, sorted_perm store.stem perm', ← sorted_without _ (m.tree.names place) _ foreign,
    ← sorted_without _ (m'.tree.names place) _ foreign, kept.names]

include plain

theorem confined_count (files : ∀ n, Ordinary (m.tree.node? (n :: place))) (called : String) (other : UInt64)
    (own : ordinal? store.stem called = some other) :
    countAt m' (Path.join store.directory called) = countAt m (Path.join store.directory called) := by
  have proper := ordinal_proper plain own
  have apart : Name.text called :: place ≠ .text (temporaryName store.stem id) :: place := by
    intro same
    obtain ⟨equal, -⟩ := List.cons_eq_cons.mp same
    rw [Name.text.inj equal, ordinal_temporary] at own
    cases own
  exact count_same opens kept.work kept.opens proper (files _) (kept.others _ apart)

theorem confined_untouched (listing : Listing) (files : ∀ n, Ordinary (m.tree.node? (n :: place))) :
    Untouched listing store id m m' where
  work := kept.work
  others q other := kept.others q (other place opens)
  allocates := by
    rw [allocate_still (home_made opens), allocate_still (home_made kept.opens), confined_shows opens kept]
  lists := list_alike (confined_shows opens kept) (confined_count plain opens kept files)
  reads := read_alike (confined_shows opens kept) (confined_count plain opens kept files)

end Confined

theorem untouched_refl (listing : Listing) (store : Store) (id : UInt64) (m : Machine) : Untouched listing store id m m :=
  ⟨rfl, fun _ _ => rfl, rfl, rfl, fun _ => rfl⟩

section Closed

variable (closed : ∀ place, ¬m.tree.Opens m.work store.directory place) (some : store.directory ≠ "")

include closed some

theorem closed_uncreated {told : Except Refusal Unit} (plain : Stem store.stem)
    (disturbed : Disturbed listing m (.create (store.temporaryPath id)) told m') : m' = m ∧ told ≠ .ok () := by
  obtain ⟨r, uncreated⟩ : ∃ r, listing.answer (.create (store.temporaryPath id)) m = (.error r, m) :=
    closed_create listing closed some (temporary_proper plain id)
  cases disturbed with
  | served =>
      rw [uncreated]
      exact ⟨rfl, by simp⟩
  | refused r refuses =>
      cases refuses
      exact ⟨rfl, by simp⟩
  | created r made =>
      rw [create_told made] at uncreated
      cases uncreated

theorem closed_unremoved {told : Except Refusal Unit} (plain : Stem store.stem)
    (disturbed : Disturbed listing m (.remove (store.temporaryPath id)) told m') : m' = m := by
  obtain ⟨r, unremoved⟩ : ∃ r, listing.answer (.remove (store.temporaryPath id)) m = (.error r, m) :=
    closed_remove listing closed some (temporary_proper plain id)
  cases disturbed with
  | served => rw [unremoved]
  | refused r refuses => rfl

end Closed

theorem closed_still (plain : Stem store.stem) (closed : ∀ place, ¬m.tree.Opens m.work store.home place) {count : UInt32}
    {h : List Exchange} {r : Except Failure Unit} (updated : Updated store id count h r) (suffers : Suffers listing m h m') :
    m' = m ∧ r ≠ .ok () := by
  have some : store.directory ≠ "" := by
    intro empty
    apply closed m.work
    rw [Store.home, if_pos empty]
    exact Files.Tree.opens_here m.tree m.work
  rw [Store.home, if_neg some] at closed
  cases updated with
  | written h wrote =>
      generalize granted : Except.ok () = told at wrote
      cases wrote with
      | uncreated r => cases granted
      | _ => exact absurd rfl (closed_uncreated closed some plain suffers.choose_spec.1).2
  | unwritten h r removed wrote =>
      cases wrote with
      | uncreated r =>
          obtain ⟨first, created, second, cleared, rfl⟩ := suffers
          obtain ⟨rfl, -⟩ := closed_uncreated closed some plain created
          exact ⟨closed_unremoved closed some plain cleared, by simp⟩
      | _ => exact absurd rfl (closed_uncreated closed some plain suffers.choose_spec.1).2

theorem update_all_or_nothing {count : UInt32} {h : List Exchange} {r : Except Failure Unit} (plain : Stem store.stem)
    (files : ∀ place n, m.tree.Opens m.work store.home place → Ordinary (m.tree.node? (n :: place)))
    (run : Runs (store.update id count) h r) (suffers : Suffers listing m h m') :
    match r with
    | .ok () => ∃ place, Replaced store id count m m' place
    | .error f => f.fault.kind = .storage ∧ (∃ refusal, f = .unwritable (store.artifactPath id) refusal) ∧
        Untouched listing store id m m' ∧
        ∀ place content mode, m'.tree.Opens m'.work store.home place →
          m'.tree.node? (.text (temporaryName store.stem id) :: place) = some (.file content mode) →
          ∃ refusal, ⟨.remove (store.temporaryPath id), .error refusal⟩ ∈ h := by
  have updated := update_course store id count h r run
  by_cases opened : ∃ place, m.tree.Opens m.work store.home place
  · obtain ⟨place, opens⟩ := opened
    have temporary := files place (.text (temporaryName store.stem id)) opens
    cases updated with
    | written h wrote => exact ⟨place, written_replaced plain opens temporary (files place _ opens) wrote suffers⟩
    | unwritten h refusal removed wrote =>
        obtain ⟨between, writing, after, removing, rfl⟩ := (suffers_append h _).mp suffers
        have kept := unwritten_confined plain opens temporary wrote writing
        obtain ⟨cleared, gone⟩ := remove_confined kept.opens (temporary_proper plain id) kept.own removing
        have whole := confined_trans kept cleared
        refine ⟨rfl, ⟨refusal, rfl⟩, confined_untouched plain opens whole listing fun n => files place n opens, ?_⟩
        intro other content mode opens' file
        cases removed with
        | error refused => exact ⟨refused, List.mem_append_right _ List.mem_cons_self⟩
        | ok done =>
            rw [Files.Tree.opens_unique cleared.opens opens', gone rfl] at file
            cases file
  · -- Without a directory the first call is refused, and the machine is the same to the end.
    have closed (place : Location) : ¬m.tree.Opens m.work store.home place := fun opens => opened ⟨place, opens⟩
    obtain ⟨rfl, failed⟩ := closed_still plain closed updated suffers
    cases updated with
    | written h wrote => exact absurd rfl failed
    | unwritten h refusal removed wrote =>
        exact ⟨rfl, ⟨refusal, rfl⟩, untouched_refl listing store id m', fun place _ _ opens => absurd opens (closed place)⟩

-- The disk is full before all digits are written, and then does not let go of the temporary.
def cutShort (store : Store) (id : UInt64) (count : UInt32) : List Exchange :=
  [⟨.create (store.temporaryPath id), .ok ()⟩,
    ⟨.extend (store.temporaryPath id) (Numeral.word32 count).toUTF8, .error .noSpace⟩,
    ⟨.remove (store.temporaryPath id), .error .denied⟩]

theorem update_all_or_nothing_torn :
    ∃ m', Runs (Store.update ⟨".", "f"⟩ 1 42) (cutShort ⟨".", "f"⟩ 1 42) (.error (.unwritable "./f00001" .noSpace)) ∧
      Suffers .plain .fresh (cutShort ⟨".", "f"⟩ 1 42) m' ∧ Untouched .plain ⟨".", "f"⟩ 1 .fresh m' := by
  have opens : Machine.fresh.tree.Opens Machine.fresh.work "." [] := Files.Tree.opens_here _ _
  have plain : Stem "f" := by constructor <;> decide
  have proper := temporary_proper plain 1
  have fits : Files.Fits "." (temporaryName "f" 1) := by constructor <;> decide
  have nothing (n : Name) : Machine.fresh.tree.node? [n] = none := rfl
  have files (place : Location) (n : Name) (there : Machine.fresh.tree.Opens Machine.fresh.work (Store.home ⟨".", "f"⟩) place) :
      Ordinary (Machine.fresh.tree.node? (n :: place)) := by
    rw [Files.Tree.opens_unique opens there, nothing]
    trivial
  obtain ⟨mode, made⟩ := Files.Tree.create_entry opens proper fits (nothing _ ▸ trivial) (by rw [nothing]; nofun)
  have opens' := Files.Tree.opens_put opens (.text (temporaryName "f" 1)) [] (.file .empty mode) (nothing _ ▸ trivial)
  have written := Files.Tree.extend_entry opens' proper fits .empty ((Numeral.word32 42).toUTF8.extract 0 1) mode
    (by rw [Files.Tree.node_put, if_pos rfl])
  have creating : Disturbed .plain .fresh (.create (Path.join "." (temporaryName "f" 1))) (.ok ())
      { Machine.fresh with tree := Machine.fresh.tree.put [.text (temporaryName "f" 1)] (.file .empty mode) } := by
    have served : Disturbed .plain .fresh (.create (Path.join "." (temporaryName "f" 1))) _ _ := .served _
    rw [create_told made] at served
    exact served
  have run : Runs (Store.update ⟨".", "f"⟩ 1 42) (cutShort ⟨".", "f"⟩ 1 42) (.error (.unwritable "./f00001" .noSpace)) :=
    .ask (.ask (.ask (.done _)))
  obtain ⟨m', suffers⟩ : ∃ m', Suffers .plain .fresh (cutShort ⟨".", "f"⟩ 1 42) m' :=
    ⟨_, _, creating, _, .torn .noSpace 1 written, _, .refused .denied rfl, rfl⟩
  exact ⟨m', run, suffers, (update_all_or_nothing plain files run suffers).2.2.1⟩

end Overseer.Counter
