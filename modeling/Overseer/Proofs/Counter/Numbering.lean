import Mathlib.Data.List.Forall2
import Overseer.Proofs.Counter.Answers
import Overseer.Proofs.Files.Following

set_option autoImplicit false

namespace Overseer.Counter

open Files (Location Name Path)
open Host (Listing Machine)
open Program (Given leave)
open Text (Numeral.word32)

variable {store : Store} {listing : Listing} {m m' : Machine} {place : Location} {id : UInt64} {count : UInt32}

-- The directory is there, and the session's artifact is in it, whatever it is.
structure Bearing (store : Store) (id : UInt64) (m : Machine) (place : Location) : Prop where
  opens : m.tree.Opens m.work store.directory place
  present : m.tree.node? (.text (artifactName store.stem id) :: place) ≠ none

theorem wrote_bearing {h : List Exchange} {bytes : ByteArray} (plain : Stem store.stem) (some : store.directory ≠ "")
    (opens : m.tree.Opens m.work store.directory place)
    (absent : m.tree.node? (.text (artifactName store.stem id) :: place) = none)
    (wrote : Wrote (store.temporaryPath id) (store.artifactPath id) bytes h (.ok ()))
    (given : Given listing.answer m h) : Bearing store id (leave listing.answer m h) place := by
  generalize granted : Except.ok () = told at wrote
  cases wrote with
  | uncreated r => cases granted
  | unextended r => cases granted
  | unsynced r => cases granted
  | named told =>
      subst granted
      have proper := temporary_proper plain id
      obtain ⟨created, filled, synced, t, creating, filling, syncing, naming, left⟩ := write_trees plain _ rfl given
      rw [Store.home, if_neg some] at creating filling syncing naming
      have steady := Files.Tree.steady_trans (Files.Tree.create_steady _ creating) (Files.Tree.extend_steady _ _ filling)
      obtain ⟨spot, found⟩ := Files.Tree.sync_found _ syncing
      obtain rfl := Files.Tree.sync_granted _ syncing
      have there := Files.Tree.steady_opens steady opens
      have erased := Files.Tree.opens_unwritten there proper spot found
      obtain ⟨node, -, -, -, rfl⟩ := Files.Tree.rename_moves (artifactName store.stem id) there proper (artifact_proper plain id)
        (artifact_ne_temporary _ _ _).symm naming
      have blocked := Files.Tree.steady_blocked steady (q := .text (artifactName store.stem id) :: place) (by rw [absent]; trivial)
      rw [left]
      refine ⟨Files.Tree.opens_put erased _ _ node ?_, ?_⟩
      · rw [Files.Tree.node_erase, if_neg (by simpa using artifact_ne_temporary store.stem id id)]
        exact blocked
      · change Files.Tree.node? (Files.Tree.put _ _ _) _ ≠ none
        rw [Files.Tree.node_put, if_pos rfl]
        simp

theorem begin_wrote (granted : ((store.begin id).run listing.answer m).1 = .ok ()) :
    ∃ m' h, Alike m m' ∧ Wrote (store.temporaryPath id) (store.artifactPath id) (Numeral.word32 0).toUTF8 h (.ok ()) ∧
      Given listing.answer m' h ∧ ((store.begin id).run listing.answer m).2 = leave listing.answer m' h := by
  obtain ⟨m', alike, same⟩ := begin_run store listing id m
  rw [same] at granted ⊢
  have given := Program.history_given listing.answer (store.update id 0) m'
  have updated := update_course store id 0 _ _ (Program.runs_history listing.answer (store.update id 0) m')
  rw [← Program.leave_history]
  rw [granted] at updated
  generalize (store.update id 0).history listing.answer m' = h at given updated ⊢
  generalize done : Except.ok () = told at updated
  cases updated with
  | written h wrote => exact ⟨m', h, alike, wrote, given, rfl⟩
  | unwritten h r removed wrote => cases done

theorem begin_bearing (plain : Stem store.stem) (some : store.directory ≠ "")
    (opens : m.tree.Opens m.work store.directory place)
    (absent : m.tree.node? (.text (artifactName store.stem id) :: place) = none)
    (granted : ((store.begin id).run listing.answer m).1 = .ok ()) :
    Bearing store id ((store.begin id).run listing.answer m).2 place := by
  obtain ⟨m', h, ⟨tree, work⟩, wrote, given, left⟩ := begin_wrote granted
  rw [left]
  rw [← tree, ← work] at opens
  rw [← tree] at absent
  exact wrote_bearing plain some opens absent wrote given

theorem mem_join {directory name : String} {c : Char} (member : c ∈ name.toList) : c ∈ (Path.join directory name).toList := by
  unfold Path.join
  split
  · exact member
  · split <;> simp [member]

theorem begin_stem (unslashed : '/' ∉ store.stem.toList) (granted : ((store.begin id).run listing.answer m).1 = .ok ()) :
    Stem store.stem := by
  refine ⟨unslashed, fun inside => ?_⟩
  obtain ⟨m', h, -, wrote, given, -⟩ := begin_wrote granted
  have created : (listing.answer (.create (store.temporaryPath id)) m').1 = .ok () := by
    generalize done : Except.ok () = told at wrote
    cases wrote with
    | named told => exact given.1.trans done
    | _ => cases done
  obtain ⟨t, made, -⟩ := Host.settle_granted created
  cases found : m'.tree.findForWriting m'.work (store.temporaryPath id) with
  | error r =>
      unfold Files.Tree.create at made
      rw [found] at made
      cases made
  | ok spot =>
      obtain ⟨p, parsed⟩ := Files.Tree.writing_parsed found
      apply ((Files.parsed_text _ p).mp parsed).1
      apply mem_join
      rw [temporary_text, artifact_text]
      simp [inside]

theorem shows_opens (listing : Listing) (opens : m.tree.Opens m.work store.directory place) :
    store.shows listing m = .ok (sorted store.stem (listing.order m (m.tree.names place))) := by
  unfold Store.shows
  rw [Files.Tree.list_opens opens]

theorem allocated_absent (some : store.directory ≠ "") (granted : (store.allocate.run listing.answer m).1 = .ok id) :
    ∃ place, (store.allocate.run listing.answer m).2.tree.Opens (store.allocate.run listing.answer m).2.work store.directory place ∧
      (store.allocate.run listing.answer m).2.tree.node? (.text (artifactName store.stem id) :: place) = none := by
  have answered := allocate_answer store listing m
  cases made : m.tree.makePath m.work store.directory with
  | error r =>
      rw [made] at answered
      rw [answered] at granted
      cases granted
  | ok t =>
      rw [made] at answered
      obtain ⟨m', ⟨tree, work⟩, told⟩ := answered
      obtain ⟨place, opens⟩ := Files.Tree.makePath_opens some made
      rw [told] at granted ⊢
      rw [shows_opens (m := { m with tree := t }) listing opens] at granted
      refine ⟨place, by rw [tree, work]; exact opens, ?_⟩
      rw [tree]
      cases present : t.node? (.text (artifactName store.stem id) :: place) with
      | none => rfl
      | some node =>
          have listed : Name.text (artifactName store.stem id) ∈ listing.order { m with tree := t } (t.names place) := by
            rw [(listing.perm _ _).mem_iff, Files.Tree.mem_names, present]
            nofun
          have member := (mem_sorted store.stem _ ⟨id, artifactName store.stem id⟩).mpr ⟨listed, ordinal_artifact _ _⟩
          exact absurd (next_above _ _ id granted _ member) Std.lt_irrefl

theorem begun_bearing {m'' : Machine} (plain : Stem store.stem) (some : store.directory ≠ "")
    (allocated : store.allocate.run listing.answer m = (.ok id, m'))
    (begun : (store.begin id).run listing.answer m' = (.ok (), m'')) : ∃ place, Bearing store id m'' place := by
  obtain ⟨place, opens, absent⟩ := allocated_absent some (congrArg Prod.fst allocated)
  rw [allocated] at opens absent
  have bearing := begin_bearing plain some opens absent (congrArg Prod.fst begun)
  rw [begun] at bearing
  exact ⟨place, bearing⟩

theorem mapM_pairs {α β ε : Type} (f : α → Except ε β) (all : List α) (results : List β) (told : all.mapM f = .ok results) :
    List.Forall₂ (fun a b => f a = .ok b) all results := by
  induction all generalizing results with
  | nil =>
      obtain rfl := Except.ok.inj told
      exact .nil
  | cons first rest ih =>
      rw [List.mapM_cons] at told
      cases one : f first with
      | error e =>
          rw [one] at told
          cases told
      | ok b =>
          rw [one] at told
          cases others : rest.mapM f with
          | error e =>
              rw [others] at told
              cases told
          | ok bs =>
              rw [others] at told
              obtain rfl := Except.ok.inj told
              exact .cons one (ih bs others)

theorem pairs_member {α β : Type} {R : α → β → Prop} {all : List α} {results : List β} (pairs : List.Forall₂ R all results)
    (a : α) (member : a ∈ all) : ∃ b ∈ results, R a b := by
  induction pairs with
  | nil => cases member
  | cons one others ih =>
      rcases List.mem_cons.mp member with rfl | later
      · exact ⟨_, List.mem_cons_self, one⟩
      · obtain ⟨b, inside, related⟩ := ih later
        exact ⟨b, List.mem_cons_of_mem _ inside, related⟩

section Bearing

variable (bearing : Bearing store id m place)

include bearing

theorem bearing_member (listing : Listing) :
    ⟨id, artifactName store.stem id⟩ ∈ sorted store.stem (listing.order m (m.tree.names place)) := by
  refine (mem_sorted _ _ _).mpr ⟨?_, ordinal_artifact _ _⟩
  rw [(listing.perm m _).mem_iff, Files.Tree.mem_names]
  exact bearing.present

theorem bearing_allocates (listing : Listing) :
    (∃ other, (store.allocate.run listing.answer m).1 = .ok other ∧ id < other) ∨
      (store.allocate.run listing.answer m).1 = .error (.noNumberAfter 18446744073709551615) ∧
        ∃ name, m.tree.node? (.text name :: place) ≠ none ∧ ordinal? store.stem name = some 18446744073709551615 := by
  rw [allocate_still (Files.Tree.make_opens bearing.opens), shows_opens listing bearing.opens]
  change (∃ other, nextId _ = _ ∧ _) ∨ nextId _ = _ ∧ _
  cases next : nextId (sorted store.stem (listing.order m (m.tree.names place))) with
  | ok other => exact .inl ⟨other, rfl, next_above _ _ other next _ (bearing_member bearing listing)⟩
  | error f =>
      obtain ⟨rfl, a, member, top⟩ := next_refused _ _ f next
      obtain ⟨listed, own⟩ := (mem_sorted _ _ a).mp member
      rw [(listing.perm m _).mem_iff, Files.Tree.mem_names] at listed
      exact .inr ⟨rfl, a.name, listed, top ▸ own⟩

theorem bearing_lists (listing : Listing) (counts : List (UInt64 × UInt32))
    (told : (store.list.run listing.answer m).1 = .ok counts) : ∃ count, (id, count) ∈ counts := by
  rw [list_answer, shows_opens listing bearing.opens] at told
  obtain ⟨given, inside, counted⟩ := pairs_member (mapM_pairs _ _ _ told) _ (bearing_member bearing listing)
  cases known : countAt m (Path.join store.directory (artifactName store.stem id)) with
  | error f =>
      rw [known] at counted
      cases counted
  | ok count =>
      rw [known] at counted
      obtain rfl := Except.ok.inj counted
      exact ⟨count, inside⟩

end Bearing

-- A store whose directory has no name sees none of its artifacts, and gives every session the same number.
theorem nameless_allocates (listing : Listing) (m : Machine) (nameless : store.directory = "") :
    (store.allocate.run listing.answer m).1 = .ok 1 := by
  have made : m.tree.makePath m.work store.directory = .ok m.tree := by
    rw [nameless]
    rfl
  rw [allocate_still made, Store.shows, nameless]
  rfl

-- Neither does one whose stem has a slash in it, since the name of no entry has one.
theorem slashed_allocates (listing : Listing) (opens : m.tree.Opens m.work store.directory place)
    (slashed : '/' ∈ store.stem.toList)
    (whole : ∀ name, m.tree.node? (.text name :: place) ≠ none → '/' ∉ name.toList) :
    (store.allocate.run listing.answer m).1 = .ok 1 := by
  have unseen : sorted store.stem (listing.order m (m.tree.names place)) = [] := by
    refine List.eq_nil_iff_forall_not_mem.mpr fun a member => ?_
    obtain ⟨listed, own⟩ := (mem_sorted _ _ a).mp member
    rw [(listing.perm m _).mem_iff, Files.Tree.mem_names] at listed
    obtain ⟨ds, named, -⟩ := ordinal_digits _ _ _ own
    exact whole a.name listed (named ▸ List.mem_append_left _ slashed)
  rw [allocate_still (Files.Tree.make_opens opens), shows_opens listing opens, unseen]
  rfl

end Overseer.Counter
