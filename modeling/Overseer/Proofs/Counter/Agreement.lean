import Overseer.Proofs.Counter.Numbering
import Overseer.Proofs.Counter.Padding

set_option autoImplicit false

namespace Overseer.Counter

open Files (Name Path)
open Host (Listing Machine)
open Text (Numeral.word32)

variable {store : Store} {listing : Listing} {m : Machine} {id : UInt64}

-- The entries of the directory, of which there are none where it cannot be listed.
def Store.entries (store : Store) (m : Machine) : List Name :=
  match m.tree.list m.work store.directory with
  | .ok names => names
  | .error _ => []

theorem shows_order (store : Store) (listing other : Listing) (m : Machine) : store.shows other m = store.shows listing m := by
  unfold Store.shows
  cases m.tree.list m.work store.directory with
  | error r => rfl
  | ok names => exact congrArg Except.ok ((sorted_perm _ (other.perm m names)).trans (sorted_perm _ (listing.perm m names)).symm)

theorem shows_entries {all : List Found} (shown : store.shows listing m = .ok all) :
    all = sorted store.stem (store.entries m) := by
  unfold Store.shows at shown
  unfold Store.entries
  cases told : m.tree.list m.work store.directory with
  | error r =>
      rw [told] at shown
      by_cases missing : r = .missing
      · simp only [missing, if_true] at shown
        obtain rfl := Except.ok.inj shown
        simp [sorted, found]
      · simp only [missing, if_false] at shown
        cases shown
  | ok names =>
      rw [told] at shown
      obtain rfl := Except.ok.inj shown
      exact sorted_perm _ (listing.perm m names)

theorem unlisted_unread (plain : Stem store.stem) (some : store.directory ≠ "") {name : String}
    (own : ordinal? store.stem name = .some id) (unlisted : Name.text name ∉ store.entries m) :
    ∃ r, countAt m (Path.join store.directory name) = .error (.unreadable (Path.join store.directory name) r) := by
  have proper := ordinal_proper plain own
  unfold countAt Files.Tree.read
  cases found : m.tree.find m.work true (Path.join store.directory name) with
  | error r => exact ⟨r, rfl⟩
  | ok spot =>
      obtain ⟨fits, place, opens⟩ := Files.Tree.found_entry true some proper spot found
      have nothing : m.tree.node? (.text name :: place) = none := by
        unfold Store.entries at unlisted
        rw [Files.Tree.list_opens opens] at unlisted
        exact not_not.mp (mt (Files.Tree.mem_names _ _).mpr unlisted)
      rw [Files.Tree.find_entry true opens proper fits (nothing ▸ trivial), Files.Tree.spot, nothing] at found
      obtain rfl := Except.ok.inj found
      exact ⟨.missing, rfl⟩

theorem unfound_unread (plain : Stem store.stem) (some : store.directory ≠ "")
    (absent : ((sorted store.stem (store.entries m)).find? fun a => a.id == id) = none) :
    ∃ r, countAt m (store.artifactPath id) = .error (.unreadable (store.artifactPath id) r) := by
  have own := ordinal_artifact store.stem id
  refine unlisted_unread plain some own fun member => ?_
  have inside := (mem_sorted _ _ ⟨id, artifactName store.stem id⟩).mpr ⟨member, own⟩
  exact absurd (beq_self_eq_true id) (List.find?_eq_none.mp absent _ inside)

def Tells (store : Store) (m : Machine) (a : Found) (pair : UInt64 × UInt32) : Prop :=
  pair.1 = a.id ∧ countAt m (Path.join store.directory a.name) = .ok pair.2

theorem list_tells {counts : List (UInt64 × UInt32)} (listed : (store.list.run listing.answer m).1 = .ok counts) :
    store.shows listing m = .ok (sorted store.stem (store.entries m)) ∧
      List.Forall₂ (Tells store m) (sorted store.stem (store.entries m)) counts := by
  rw [list_answer] at listed
  cases shown : store.shows listing m with
  | error f =>
      rw [shown] at listed
      cases listed
  | ok all =>
      obtain rfl := shows_entries shown
      rw [shown] at listed
      refine ⟨rfl, (mapM_pairs _ _ _ listed).imp fun a pair told => ?_⟩
      cases count : countAt m (Path.join store.directory a.name) with
      | error f =>
          rw [count] at told
          cases told
      | ok own =>
          rw [count] at told
          obtain rfl := Except.ok.inj told
          exact ⟨rfl, count⟩

theorem first_pair {all : List Found} {counts : List (UInt64 × UInt32)} (pairs : List.Forall₂ (Tells store m) all counts)
    (id : UInt64) : Option.Rel (Tells store m) (all.find? fun a => a.id == id) (counts.find? fun pair => pair.1 == id) := by
  induction pairs with
  | nil => exact .none
  | @cons a pair all counts told others ih =>
      by_cases own : a.id = id
      · rw [List.find?_cons_of_pos (by simpa using own), List.find?_cons_of_pos (by simpa [told.1] using own)]
        exact .some told
      · rw [List.find?_cons_of_neg (by simpa using own), List.find?_cons_of_neg (by simpa [told.1] using own)]
        exact ih

theorem first_found {all : List Found} {counts : List (UInt64 × UInt32)} {pair : UInt64 × UInt32}
    (pairs : List.Forall₂ (Tells store m) all counts) (first : (counts.find? fun pair => pair.1 == id) = some pair) :
    ∃ a, (all.find? fun a => a.id == id) = some a ∧ Tells store m a pair := by
  have related := first_pair pairs id
  rw [first] at related
  cases among : all.find? fun a => a.id == id with
  | none =>
      rw [among] at related
      cases related
  | some a =>
      rw [among] at related
      cases related with
      | some told => exact ⟨a, rfl, told⟩

theorem none_found {all : List Found} {counts : List (UInt64 × UInt32)} (pairs : List.Forall₂ (Tells store m) all counts)
    (without : ∀ pair ∈ counts, pair.1 ≠ id) : (all.find? fun a => a.id == id) = none := by
  have related := first_pair pairs id
  have none : (counts.find? fun pair => pair.1 == id) = none :=
    List.find?_eq_none.mpr fun pair member => by simpa using without pair member
  rw [none] at related
  cases among : all.find? fun a => a.id == id with
  | none => rfl
  | some a =>
      rw [among] at related
      cases related

theorem pairs_ordered {all : List Found} {counts : List (UInt64 × UInt32)} (pairs : List.Forall₂ (Tells store m) all counts) :
    counts.map Prod.fst = all.map Found.id := by
  induction pairs with
  | nil => rfl
  | cons told others ih => rw [List.map_cons, List.map_cons, told.1, ih]

theorem mapM_failure {α β ε : Type} (f : α → Except ε β) (all : List α) (e : ε) (failed : all.mapM f = .error e) :
    ∃ a ∈ all, f a = .error e := by
  induction all with
  | nil => cases failed
  | cons first rest ih =>
      rw [List.mapM_cons] at failed
      cases one : f first with
      | error e' =>
          rw [one] at failed
          obtain rfl := Except.error.inj failed
          exact ⟨first, List.mem_cons_self, one⟩
      | ok b =>
          rw [one] at failed
          cases others : rest.mapM f with
          | error e' =>
              rw [others] at failed
              obtain rfl := Except.error.inj failed
              obtain ⟨a, member, refused⟩ := ih others
              exact ⟨a, List.mem_cons_of_mem _ member, refused⟩
          | ok bs =>
              rw [others] at failed
              cases failed

-- A listing that succeeds has one pair for each artifact that is there, in the order of their numbers, and the
-- first pair of a session tells what is read of it. Of a session without a pair nothing can be read.
structure Agrees (store : Store) (m : Machine) (counts : List (UInt64 × UInt32))
    (read : UInt64 → Except Failure UInt32) : Prop where
  artifacts : ∃ all, all.Perm (found store.stem (store.entries m)) ∧ List.Forall₂ (Tells store m) all counts
  ordered : (counts.map Prod.fst).Pairwise (· ≤ ·)
  reads : ∀ id pair, (counts.find? fun pair => pair.1 == id) = some pair → read id = .ok pair.2
  refuses : ∀ id, (∀ pair ∈ counts, pair.1 ≠ id) → ∃ f, read id = .error f ∧ f.fault.kind = .storage

theorem list_agrees (plain : Stem store.stem) (some : store.directory ≠ "") {counts : List (UInt64 × UInt32)}
    (listed : (store.list.run listing.answer m).1 = .ok counts) :
    Agrees store m counts fun id => ((store.read id).run listing.answer m).1 := by
  obtain ⟨shown, pairs⟩ := list_tells listed
  have reads (id : UInt64) : ((store.read id).run listing.answer m).1 =
      countAt m (Path.join store.directory (store.nameAmong (sorted store.stem (store.entries m)) id)) := by
    rw [read_answer, shown]
    rfl
  refine ⟨⟨_, List.mergeSort_perm _ _, pairs⟩, ?_, fun id pair first => ?_, fun id without => ?_⟩
  · rw [pairs_ordered pairs, List.pairwise_map]
    refine (sorted_ordered store.stem _).imp ?_
    rintro a b (less | ⟨same, -⟩)
    · exact Std.le_of_lt less
    · exact Std.le_of_eq same
  · obtain ⟨a, among, told⟩ := first_found pairs first
    rw [reads, Store.nameAmong, among]
    exact told.2
  · have absent := none_found pairs without
    obtain ⟨r, refused⟩ := unfound_unread plain some absent
    rw [reads, Store.nameAmong, absent]
    exact ⟨_, refused, rfl⟩

theorem list_failure {f : Failure} {names : List Name} (failed : (store.list.run listing.answer m).1 = .error f)
    (listed : m.tree.list m.work store.directory = .ok names) :
    ∃ name id, Name.text name ∈ names ∧ ordinal? store.stem name = some id ∧
      countAt m (Path.join store.directory name) = .error f := by
  have shown : store.shows listing m = .ok (sorted store.stem (listing.order m names)) := by
    unfold Store.shows
    rw [listed]
  rw [list_answer, shown] at failed
  obtain ⟨a, member, refused⟩ := mapM_failure _ _ f failed
  obtain ⟨present, own⟩ := (mem_sorted _ _ a).mp member
  refine ⟨a.name, a.id, (listing.perm m names).mem_iff.mp present, own, ?_⟩
  cases count : countAt m (Path.join store.directory a.name) with
  | ok own =>
      rw [count] at refused
      cases refused
  | error g =>
      rw [count] at refused
      exact congrArg Except.error (Except.error.inj refused)

-- Whatever a directory with a name holds, the sessions listed and the counts read are the same under every
-- order of listing, and they agree.
theorem list_and_read_agree (plain : Stem store.stem) (some : store.directory ≠ "") (m : Machine) :
    ∃ (listed : Except Failure (List (UInt64 × UInt32))) (read : UInt64 → Except Failure UInt32),
      (∀ listing : Listing, (store.list.run listing.answer m).1 = listed ∧
        ∀ id, ((store.read id).run listing.answer m).1 = read id) ∧
      (∀ counts, listed = .ok counts → Agrees store m counts read) ∧
      ∀ f names, listed = .error f → m.tree.list m.work store.directory = .ok names →
        ∃ name id, Name.text name ∈ names ∧ ordinal? store.stem name = .some id ∧
          countAt m (Path.join store.directory name) = .error f := by
  refine ⟨_, fun id => ((store.read id).run (Listing.answer .plain) m).1, fun listing => ⟨?_, fun id => ?_⟩,
    fun counts listed => list_agrees plain some listed, fun f names failed listed => list_failure failed listed⟩
  · rw [list_answer, list_answer, shows_order store .plain listing m]
  · change _ = ((store.read id).run (Listing.answer .plain) m).1
    rw [read_answer, read_answer, shows_order store .plain listing m]

def crowd : Machine :=
  { Machine.fresh with tree := ⟨[([.text "notes"], .file "7".toUTF8 Files.Tree.newMode),
    ([.text "f1"], .file (Numeral.word32 9).toUTF8 Files.Tree.newMode),
    ([.text "f00002"], .file (Numeral.word32 4).toUTF8 Files.Tree.newMode),
    ([.text "f00001"], .file (Numeral.word32 7).toUTF8 Files.Tree.newMode)]⟩ }

theorem crowd_sorted : sorted "f" (crowd.tree.names []) = [⟨1, "f00001"⟩, ⟨1, "f1"⟩, ⟨2, "f00002"⟩] := by
  have order : (crowd.tree.names []).Perm [.text "notes", .text "f00001", .text "f1", .text "f00002"] := by decide
  have artifacts : found "f" [.text "notes", .text "f00001", .text "f1", .text "f00002"] =
      [⟨1, "f00001"⟩, ⟨1, "f1"⟩, ⟨2, "f00002"⟩] := by decide
  rw [sorted_perm "f" order, sorted, artifacts]
  exact List.mergeSort_of_pairwise (by decide)

theorem crowd_count (name : String) (id : UInt64) (count : UInt32) (own : ordinal? "f" name = some id)
    (fits : Files.Fits "." name)
    (file : crowd.tree.node? [.text name] = some (.file (Numeral.word32 count).toUTF8 Files.Tree.newMode)) :
    countAt crowd (Path.join "." name) = .ok count := by
  have plain : Stem "f" := by constructor <;> decide
  have opens : crowd.tree.Opens crowd.work (Store.home ⟨".", "f"⟩) [] := Files.Tree.opens_here _ _
  exact (count_entry opens (ordinal_proper plain own) fits _ _ file).trans (count_of_numeral _ count)

theorem list_and_read_agree_crowded : Stem "f" ∧ "." ≠ "" ∧
    ((Store.list ⟨".", "f"⟩).run (Listing.answer .plain) crowd).1 = .ok [(1, 7), (1, 9), (2, 4)] ∧
    ((Store.read ⟨".", "f"⟩ 1).run (Listing.answer .plain) crowd).1 = .ok 7 ∧
    ((Store.read ⟨".", "f"⟩ 2).run (Listing.answer .plain) crowd).1 = .ok 4 ∧
    ∃ f, ((Store.read ⟨".", "f"⟩ 3).run (Listing.answer .plain) crowd).1 = .error f := by
  have plain : Stem "f" := by constructor <;> decide
  have first : countAt crowd (Path.join "." "f00001") = .ok 7 :=
    crowd_count "f00001" 1 7 (by decide) (by constructor <;> decide) (by rfl)
  have second : countAt crowd (Path.join "." "f1") = .ok 9 :=
    crowd_count "f1" 1 9 (by decide) (by constructor <;> decide) (by rfl)
  have third : countAt crowd (Path.join "." "f00002") = .ok 4 :=
    crowd_count "f00002" 2 4 (by decide) (by constructor <;> decide) (by rfl)
  have listed : ((Store.list ⟨".", "f"⟩).run (Listing.answer .plain) crowd).1 = .ok [(1, 7), (1, 9), (2, 4)] := by
    have shown : Store.shows ⟨".", "f"⟩ .plain crowd = .ok [⟨1, "f00001"⟩, ⟨1, "f1"⟩, ⟨2, "f00002"⟩] := by
      rw [shows_home .plain (Files.Tree.opens_here _ _)]
      exact congrArg Except.ok crowd_sorted
    rw [list_answer, shown]
    simp only [Except.bind, List.mapM_cons, List.mapM_nil, first, second, third]
    rfl
  obtain ⟨told, read, answers, agrees, -⟩ := @list_and_read_agree ⟨".", "f"⟩ plain (by decide) crowd
  obtain ⟨same, reads⟩ := answers .plain
  have agree := agrees _ (same.symm.trans listed)
  refine ⟨plain, by decide, listed, ?_, ?_, ?_⟩
  · exact (reads 1).trans (agree.reads 1 (1, 7) rfl)
  · exact (reads 2).trans (agree.reads 2 (2, 4) rfl)
  · obtain ⟨f, refused, -⟩ := agree.refuses 3 (by simp)
    exact ⟨f, (reads 3).trans refused⟩

-- A directory without a name is never listed, but what is read is read in the working directory.
theorem nameless_directory_hides :
    ((Store.list ⟨"", "f"⟩).run (Listing.answer .plain) (lone "f00001" (Numeral.word32 7))).1 = .ok [] ∧
    ((Store.read ⟨"", "f"⟩ 1).run (Listing.answer .plain) (lone "f00001" (Numeral.word32 7))).1 = .ok 7 := by
  have shown : Store.shows ⟨"", "f"⟩ .plain (lone "f00001" (Numeral.word32 7)) = .ok [] := rfl
  have plain : Stem "f" := by constructor <;> decide
  refine ⟨?_, ?_⟩
  · rw [list_answer, shown]
    rfl
  · rw [read_answer, shown]
    exact lone_count ⟨"", "f"⟩ rfl "f00001" 7 (by constructor <;> decide) (artifact_proper plain 1)

end Overseer.Counter
