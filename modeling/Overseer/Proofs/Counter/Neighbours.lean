import Overseer.Proofs.Counter.Lone
import Overseer.Proofs.Counter.Request
import Overseer.Proofs.Counter.Territory

set_option autoImplicit false

namespace Overseer.Counter

open Files (Location Name Path Tree)
open Files.Tree (Beside Blocked Linkless Local linkless_blocked)
open Host (Listing Machine)
open Text (Numeral.word32)

variable {p q store : Store} {listing : Listing} {m m' : Machine} {place : Location} {id : UInt64} {name : String}

structure Neighbours (p q : Store) : Prop where
  plain : Stem p.stem
  plain' : Stem q.stem
  shared : q.directory = p.directory
  apart : Unextended p.stem q.stem
  apart' : Unextended q.stem p.stem

theorem neighbours_home (neighbours : Neighbours p q) : q.home = p.home := by
  unfold Store.home
  rw [neighbours.shared]

-- The second machine is what the first would be without the calls of the neighbour. Their trees differ at most at
-- hidden places, which are those of the names that the neighbour writes. No link stands where the store reads or
-- where either would write through it; under the neighbour's artifacts links may stand that the way leads past.
structure Undisturbed (p q : Store) (place : Location) (hidden past : Location → Bool) (m m' : Machine) : Prop where
  hides : ∀ l, hidden l = true ↔ ∃ name, Writes q.stem name ∧ l = .text name :: place
  work : m'.work = m.work
  beside : Beside m.work p.home place hidden m.tree m'.tree
  own : ∀ name, Own p.stem name → Linkless (m.tree.node? (.text name :: place))
  temporaries : ∀ id, Linkless (m.tree.node? (.text (temporaryName q.stem id) :: place))
  artifacts : ∀ id, past (.text (artifactName q.stem id) :: place) = false →
    Linkless (m.tree.node? (.text (artifactName q.stem id) :: place))
  below : past [] = false
  way : (m.tree.without past).Opens m.work p.home place

section Undisturbed

variable {hidden past : Location → Bool} (neighbours : Neighbours p q) (near : Undisturbed p q place hidden past m m')

include near

theorem near_alike {u u' : Machine} (alike : Alike m u) (alike' : Alike m' u') : Undisturbed p q place hidden past u u' := by
  obtain ⟨tree, work⟩ := alike
  obtain ⟨tree', work'⟩ := alike'
  refine ⟨near.hides, by rw [work, work', near.work], ?_, ?_, ?_, ?_, near.below, ?_⟩
  · rw [tree, work, tree']
    exact near.beside
  · rw [tree]
    exact near.own
  · rw [tree]
    exact near.temporaries
  · rw [tree]
    exact near.artifacts
  · rw [tree, work]
    exact near.way

theorem near_opens : m'.tree.Opens m'.work p.home place := near.work ▸ near.beside.opens'

theorem near_steady {u u' : Tree} (steady : Tree.Steady m.tree u) (beside : Beside m.work p.home place hidden u u') :
    Undisturbed p q place hidden past { m with tree := u } { m' with tree := u' } where
  hides := near.hides
  work := near.work
  beside := beside
  own name own := Tree.steady_linkless steady (near.own name own)
  temporaries id := Tree.steady_linkless steady (near.temporaries id)
  artifacts id away := Tree.steady_linkless steady (near.artifacts id away)
  below := near.below
  way := Tree.without_opens near.way near.below fun q seen => by
    rw [Tree.node_without q seen]
    exact steady q

theorem near_hidden (writes : Writes q.stem name) : hidden (.text name :: place) = true :=
  (near.hides _).mpr ⟨name, writes, rfl⟩

include neighbours

theorem near_seen (own : Own p.stem name) : hidden (.text name :: place) = false := by
  refine Bool.eq_false_iff.mpr fun gone => ?_
  obtain ⟨other, writes, same⟩ := (near.hides _).mp gone
  obtain rfl : name = other := by simpa using same
  exact own_unwritten neighbours.apart neighbours.apart' own writes

-- What becomes of the files is settled by a call on the store's own entries: it is the same on both machines.
theorem near_own {names : List String} {call : Tree → Location → Except Refusal Tree} (within : Local p.home names call)
    (own : ∀ n ∈ names, Writes p.stem n) :
    (m.settle (call m.tree m.work)).1 = (m'.settle (call m'.tree m'.work)).1 ∧
      Undisturbed p q place hidden past (m.settle (call m.tree m.work)).2 (m'.settle (call m'.tree m'.work)).2 := by
  have mine (n : String) (member : n ∈ names) := own_of_writes (own n member)
  rw [near.work]
  rcases Tree.local_both near.beside within (fun n member => near.own n (mine n member))
    (fun n member => near_seen neighbours near (mine n member)) with ⟨r, one, two⟩ | ⟨u, u', one, two, steady, beside⟩
  · rw [one, two]
    exact ⟨rfl, near⟩
  · rw [one, two]
    exact ⟨rfl, near_steady near steady beside⟩

theorem near_temporary {call : Tree → Location → Except Refusal Tree} (id : UInt64)
    (within : Local q.home [temporaryName q.stem id] call) :
    Undisturbed p q place hidden past (m.settle (call m.tree m.work)).2 m' := by
  have written : ∀ n ∈ [temporaryName q.stem id], Writes q.stem n := temporary_writes q.stem id
  have linkless : ∀ n ∈ [temporaryName q.stem id], Linkless (m.tree.node? (.text n :: place)) :=
    List.forall_mem_singleton.mpr (near.temporaries id)
  rw [neighbours_home neighbours] at within
  rcases Tree.local_hidden near.beside within linkless (fun n member => near_hidden near (written n member)) with
    ⟨r, refused⟩ | ⟨u, granted, steady, beside⟩
  · rw [refused]
    exact near
  · rw [granted]
    exact near_steady near steady beside

theorem near_renamed (id : UInt64) : Undisturbed p q place hidden past
    (m.settle (m.tree.rename m.work (q.temporaryPath id) (q.artifactPath id))).2 m' := by
  have plain := neighbours.plain'
  have proper := temporary_proper plain id
  have properOther := artifact_proper plain id
  have different := artifact_ne_temporary q.stem id
  cases renamed : m.tree.rename m.work (q.temporaryPath id) (q.artifactPath id) with
  | error r => exact near
  | ok u =>
      have whole := (home_rename q m proper properOther).symm.trans renamed
      rw [neighbours_home neighbours] at whole
      obtain ⟨node, stood, moved, free, rfl⟩ :=
        Tree.rename_moves _ near.beside.opens proper properOther (different id).symm whole
      -- What is moved is a file or a device: a walk goes neither through what comes nor, past the hidden links, through
      -- what it takes the place of.
      have linkless : Linkless (some node) := stood ▸ near.temporaries id
      have source : Blocked (some node) := linkless_blocked linkless (by simpa using moved)
      generalize moving : (m.tree.erase _).put _ node = u
      have nodes (l : Location) : u.node? l = if l = .text (artifactName q.stem id) :: place then some node
          else if l = .text (temporaryName q.stem id) :: place then none else m.tree.node? l := by
        rw [← moving, Tree.node_put, Tree.node_erase]
      have steady (l : Location) (seen : past l = false) :
          u.node? l = m.tree.node? l ∨ Blocked (m.tree.node? l) ∧ Blocked (u.node? l) := by
        rw [nodes]
        split
        · next artifact =>
            subst artifact
            exact .inr ⟨linkless_blocked (near.artifacts id seen) free, source⟩
        · split
          · next temporary =>
              rw [temporary, stood]
              exact .inr ⟨source, trivial⟩
          · exact .inl rfl
      have still (name : String) (before : Linkless (m.tree.node? (.text name :: place))) :
          Linkless (u.node? (.text name :: place)) := by
        rw [nodes]
        split
        · exact linkless
        · split
          · trivial
          · exact before
      have gone : u.without hidden = m.tree.without hidden := by
        have hides (name : String) (writes : Writes q.stem name) := near_hidden near writes
        exact moving ▸ Tree.edited_hidden place [(temporaryName q.stem id, none), (artifactName q.stem id, some node)]
          (List.forall_mem_cons.mpr ⟨hides _ ⟨id, .inr rfl⟩, List.forall_mem_singleton.mpr (hides _ ⟨id, .inl rfl⟩)⟩)
      have opens := Tree.without_opens near.way near.below steady
      have way : (u.without past).Opens m.work p.home place := Tree.without_opens near.way near.below fun l seen => by
        rw [Tree.node_without l seen]
        exact steady l seen
      exact ⟨near.hides, near.work, ⟨opens, near.beside.opens', near.beside.same.trans gone.symm⟩,
        fun name own => still name (near.own name own), fun other => still _ (near.temporaries other),
        fun other away => still _ (near.artifacts other away), near.below, way⟩

-- Each term stands alone, with its colon, so that the call is found before it is compared with the machine's answer.
theorem near_writing {c : Host.Call} (writing : Writing p c) :
    (listing.answer c m).1 = (listing.answer c m').1 ∧
      Undisturbed p q place hidden past (listing.answer c m).2 (listing.answer c m').2 := by
  have plain := neighbours.plain
  cases writing with
  | create id => exact (near_own neighbours near (create_own plain id) (temporary_writes p.stem id) :)
  | extend id bytes => exact (near_own neighbours near (extend_own plain id bytes) (temporary_writes p.stem id) :)
  | sync id => exact (near_own neighbours near (sync_own plain id) (temporary_writes p.stem id) :)
  | rename id => exact (near_own neighbours near (rename_own plain id) (names_writes p.stem id) :)
  | remove id => exact (near_own neighbours near (remove_own plain id) (temporary_writes p.stem id) :)

theorem other_writing {c : Host.Call} (writing : Writing q c) : Undisturbed p q place hidden past (listing.answer c m).2 m' := by
  have plain := neighbours.plain'
  cases writing with
  | create id => exact (near_temporary neighbours near id (create_own plain id) :)
  | extend id bytes => exact (near_temporary neighbours near id (extend_own plain id bytes) :)
  | sync id => exact (near_temporary neighbours near id (sync_own plain id) :)
  | rename id => exact (near_renamed neighbours near id :)
  | remove id => exact (near_temporary neighbours near id (remove_own plain id) :)

theorem near_update (id : UInt64) (count : UInt32) :
    ((p.update id count).run listing.answer m).1 = ((p.update id count).run listing.answer m').1 ∧
      Undisturbed p q place hidden past ((p.update id count).run listing.answer m).2 ((p.update id count).run listing.answer m').2 :=
  Program.run_simulated listing.answer (Undisturbed p q place hidden past)
    (fun _ _ _ writing near => near_writing neighbours near writing) _ (update_asks p id count) m m' near

theorem other_update (id : UInt64) (count : UInt32) :
    Undisturbed p q place hidden past ((q.update id count).run listing.answer m).2 m' := by
  have along : Program.Along listing.answer (fun _ _ => True) m ((q.update id count).history listing.answer m) :=
    Program.along_always (fun _ _ => trivial) m _
  have step (c : Host.Call) (s : Machine) (writing : Writing q c) (_ : True) (near : Undisturbed p q place hidden past s m') :
      Undisturbed p q place hidden past (listing.answer c s).2 m' := other_writing neighbours near writing
  exact Program.run_keeps (fun s => Undisturbed p q place hidden past s m') step _ (update_asks q id count) m along near

theorem near_shows (listing : Listing) : p.shows listing m' = p.shows listing m := by
  rw [shows_home listing (near_opens near), shows_home listing near.beside.opens]
  congr 1
  by_cases empty : p.directory = ""
  · rw [if_pos empty, if_pos empty]
  · rw [if_neg empty, if_neg empty]
    have foreign (name : String) (gone : (!hidden (.text name :: place)) = false) : ordinal? p.stem name = none := by
      cases numbered : ordinal? p.stem name with
      | none => rfl
      | some id =>
          rw [near_seen neighbours near (.inl ⟨id, numbered⟩)] at gone
          cases gone
    calc sorted p.stem (listing.order m' (m'.tree.names place))
      _ = sorted p.stem (m'.tree.names place) := sorted_perm _ (listing.perm _ _)
      _ = sorted p.stem ((m'.tree.names place).filter fun n => !hidden (n :: place)) := (sorted_filter _ _ _ foreign).symm
      _ = sorted p.stem ((m.tree.names place).filter fun n => !hidden (n :: place)) := by rw [Tree.beside_names near.beside]
      _ = sorted p.stem (m.tree.names place) := sorted_filter _ _ _ foreign
      _ = sorted p.stem (listing.order m (m.tree.names place)) := (sorted_perm _ (listing.perm _ _)).symm

theorem near_count (numbered : ordinal? p.stem name = some id) :
    countAt m' (Path.join p.directory name) = countAt m (Path.join p.directory name) := by
  have proper := ordinal_proper neighbours.plain numbered
  have own : Own p.stem name := .inl ⟨id, numbered⟩
  have found := Tree.beside_find near.beside true proper (near_seen neighbours near own) (near.own name own)
  unfold countAt
  rw [home_same p m' proper (m'.tree.read m'.work) fun _ _ => Tree.read_resolved,
    home_same p m proper (m.tree.read m.work) fun _ _ => Tree.read_resolved, near.work]
  unfold Tree.read
  rw [found]

theorem near_serve (listing : Listing) (r : Request) :
    ((p.serve r).run listing.answer m).1 = ((p.serve r).run listing.answer m').1 ∧
      Undisturbed p q place hidden past ((p.serve r).run listing.answer m).2 ((p.serve r).run listing.answer m').2 := by
  have shown := near_shows neighbours near listing
  have counts (name : String) (id : UInt64) (own : ordinal? p.stem name = some id) := near_count neighbours near own
  cases r with
  | allocate =>
      obtain ⟨u, alike, told⟩ := allocate_there listing (home_made near.beside.opens)
      obtain ⟨u', alike', told'⟩ := allocate_there listing (home_made (near_opens near))
      rw [Store.serve, told, told', shown]
      exact ⟨rfl, near_alike near alike alike'⟩
  | begin id =>
      obtain ⟨u, alike, told⟩ := begin_run p listing id m
      obtain ⟨u', alike', told'⟩ := begin_run p listing id m'
      rw [Store.serve, told, told']
      exact near_update neighbours (near_alike near alike alike') id 0
  | update id count => exact near_update neighbours near id count
  | read id =>
      obtain ⟨u, alike, told⟩ := read_run p listing m id
      obtain ⟨u', alike', told'⟩ := read_run p listing m' id
      refine ⟨(read_alike shown counts id).symm, ?_⟩
      rw [Store.serve, told, told']
      exact near_alike near alike alike'
  | list =>
      obtain ⟨u, alike, told⟩ := list_run p listing m
      obtain ⟨u', alike', told'⟩ := list_run p listing m'
      refine ⟨(list_alike shown counts).symm, ?_⟩
      rw [Store.serve, told, told']
      exact near_alike near alike alike'

theorem other_serve (listing : Listing) (r : Request) :
    Undisturbed p q place hidden past ((q.serve r).run listing.answer m).2 m' := by
  have home := neighbours_home neighbours
  have looks {u : Machine} (alike : Alike m u) := near_alike near alike (alike_refl m')
  cases r with
  | allocate =>
      obtain ⟨u, alike, told⟩ := allocate_there listing (home_made (home.symm ▸ near.beside.opens))
      rw [Store.serve, told]
      exact looks alike
  | begin id =>
      obtain ⟨u, alike, told⟩ := begin_run q listing id m
      rw [Store.serve, told]
      exact other_update neighbours (looks alike) id 0
  | update id count => exact other_update neighbours near id count
  | read id =>
      obtain ⟨u, alike, told⟩ := read_run q listing m id
      rw [Store.serve, told]
      exact looks alike
  | list =>
      obtain ⟨u, alike, told⟩ := list_run q listing m
      rw [Store.serve, told]
      exact looks alike

end Undisturbed

def Store.served (store : Store) (listing : Listing) : List Request → Machine → List (Sigma (Reply Failure)) × Machine
  | [], m => ([], m)
  | r :: rest, m =>
    let told := (store.serve r).run listing.answer m
    let later := store.served listing rest told.2
    (⟨r, told.1⟩ :: later.1, later.2)

-- What a store is asked with another store's requests in between, whose answers are left out.
def Store.interleaved (p q : Store) (listing : Listing) :
    List (Request ⊕ Request) → Machine → List (Sigma (Reply Failure)) × Machine
  | [], m => ([], m)
  | .inl r :: rest, m =>
    let told := (p.serve r).run listing.answer m
    let later := p.interleaved q listing rest told.2
    (⟨r, told.1⟩ :: later.1, later.2)
  | .inr r :: rest, m => p.interleaved q listing rest ((q.serve r).run listing.answer m).2

theorem near_interleaved {hidden past : Location → Bool} (neighbours : Neighbours p q) (near : Undisturbed p q place hidden past m m')
    (listing : Listing) (requests : List (Request ⊕ Request)) :
    (p.interleaved q listing requests m).1 = (p.served listing (requests.filterMap Sum.getLeft?) m').1 ∧
      Undisturbed p q place hidden past (p.interleaved q listing requests m).2
        (p.served listing (requests.filterMap Sum.getLeft?) m').2 := by
  induction requests generalizing m m' with
  | nil => exact ⟨rfl, near⟩
  | cons request rest ih =>
      cases request with
      | inl r =>
          obtain ⟨same, later⟩ := near_serve neighbours near listing r
          obtain ⟨answers, left⟩ := ih later
          refine ⟨?_, left⟩
          change Sigma.mk r _ :: _ = Sigma.mk r _ :: _
          rw [same]
          exact congrArg _ answers
      | inr r => exact ih (other_serve neighbours near listing r)

-- In a directory where no link stands under a name that the store reads or writes, or under a temporary of its
-- neighbour, and which is not reached through one under a name of the neighbour's artifacts, the store answers what it
-- would if the neighbour had not been asked, and what it has written is the same in the end.
theorem neighbours_undisturbed (neighbours : Neighbours p q) (opens : m.tree.Opens m.work p.home place)
    (own : ∀ name, Own p.stem name → Linkless (m.tree.node? (.text name :: place)))
    (temporaries : ∀ id, Linkless (m.tree.node? (.text (temporaryName q.stem id) :: place)))
    (avoids : m.tree.Avoids m.work p.home place fun l =>
      ∃ id, l = .text (artifactName q.stem id) :: place ∧ ¬Linkless (m.tree.node? l))
    (listing : Listing) (requests : List (Request ⊕ Request)) :
    (p.interleaved q listing requests m).1 = (p.served listing (requests.filterMap Sum.getLeft?) m).1 ∧
      ∀ name, Own p.stem name → (p.interleaved q listing requests m).2.tree.node? (.text name :: place) =
        (p.served listing (requests.filterMap Sum.getLeft?) m).2.tree.node? (.text name :: place) := by
  classical
  have near : Undisturbed p q place (fun l => decide (∃ name, Writes q.stem name ∧ l = .text name :: place))
      (fun l => decide (∃ id, l = .text (artifactName q.stem id) :: place ∧ ¬Linkless (m.tree.node? l))) m m := {
    hides := fun l => decide_eq_true_iff
    work := rfl
    beside := Tree.beside_refl opens _
    own := own
    temporaries := temporaries
    artifacts := fun id away => Classical.not_not.mp fun link => of_decide_eq_false away ⟨id, rfl, link⟩
    below := by simp
    way := avoids _ fun l away => Tree.node_without l (decide_eq_false away) }
  obtain ⟨answers, left⟩ := near_interleaved neighbours near listing requests
  exact ⟨answers, fun name own => (Tree.beside_node left.beside _ (near_seen neighbours left own)).symm⟩

theorem neighbours_letters : Neighbours ⟨".", "p"⟩ ⟨".", "q"⟩ where
  plain := by constructor <;> decide
  plain' := by constructor <;> decide
  shared := rfl
  apart _ _ := by simp
  apart' _ _ := by simp

theorem single_read (t : Tree) (count : UInt32) (listed : sorted "p" (t.names []) = [⟨1, "p00001"⟩])
    (file : t.node? [.text "p00001"] = some (.file (Numeral.word32 count).toUTF8 Tree.newMode)) :
    ((Store.read ⟨".", "p"⟩ 1).run (Listing.answer .plain) { Machine.fresh with tree := t }).1 = .ok count := by
  have plain : Stem "p" := by constructor <;> decide
  have opens : t.Opens [] (Store.home ⟨".", "p"⟩) [] := Tree.opens_here t []
  have entry := count_entry (m := { Machine.fresh with tree := t }) opens (artifact_proper plain 1)
    (by constructor <;> decide) _ _ file
  rw [read_answer, shows_home .plain opens]
  change countAt _ (Path.join "." (Store.nameAmong _ (sorted "p" (t.names [])) 1)) = _
  rw [listed]
  exact entry.trans (count_of_numeral _ count)

theorem neighbours_undisturbed_first :
    let m := lone "p00001" (Numeral.word32 7)
    Neighbours ⟨".", "p"⟩ ⟨".", "q"⟩ ∧ m.tree.Opens m.work "." [] ∧
      (∀ name, Own "p" name → Linkless (m.tree.node? [.text name])) ∧
      (∀ id, Linkless (m.tree.node? [.text (temporaryName "q" id)])) ∧
      (m.tree.Avoids m.work "." [] fun l => ∃ id, l = [.text (artifactName "q" id)] ∧ ¬Linkless (m.tree.node? l)) ∧
      ((Store.update ⟨".", "q"⟩ 1 3).run (Listing.answer .plain) m).1 = .ok () ∧
      (Store.interleaved ⟨".", "p"⟩ ⟨".", "q"⟩ .plain [.inr (.update 1 3), .inl (.read 1)] m).1 = [⟨.read 1, .ok 7⟩] := by
  intro m
  have opens : m.tree.Opens m.work "." [] := lone_opens _ _
  have linkless (name : String) : Linkless (m.tree.node? [.text name]) := by
    rw [lone_node]
    split <;> trivial
  have avoids : m.tree.Avoids m.work "." [] fun l => ∃ id, l = [.text (artifactName "q" id)] ∧ ¬Linkless (m.tree.node? l) :=
    Tree.avoids_nothing opens fun l ⟨id, same, link⟩ => link (same ▸ linkless _)
  have own : ordinal? "p" "p00001" = some 1 := by decide
  have counted : ((Store.read ⟨".", "p"⟩ 1).run (Listing.answer .plain) m).1 = .ok 7 := by
    refine single_read m.tree 7 ?_ rfl
    simp [m, lone, Tree.names, Tree.nameIn, sorted, found, own]
  obtain ⟨answers, -⟩ := neighbours_undisturbed neighbours_letters opens (fun name _ => linkless name)
    (fun id => linkless _) avoids .plain [.inr (.update 1 3), .inl (.read 1)]
  refine ⟨neighbours_letters, opens, fun name _ => linkless name, fun id => linkless _, avoids, ?_, answers.trans ?_⟩
  · exact lone_updated neighbours_letters.plain' _ _ (alike_refl _) 1 3 (by decide) (by decide) (by constructor <;> decide)
  · change [Sigma.mk _ _] = _
    exact congrArg (fun told => [Sigma.mk (Request.read 1) told]) counted

def uncrossed (bytes : ByteArray) : Tree :=
  ⟨[([.text "q00001"], .link "p00001"), ([.text "p00001"], .file bytes Tree.newMode)]⟩

theorem crossed_rename (bytes : ByteArray) :
    (crossed ".q00001.tmp" "p00001" bytes).rename [] "./.q00001.tmp" "./q00001" = .ok (uncrossed bytes) := by
  have plain := neighbours_letters.plain'
  have found : (crossed ".q00001.tmp" "p00001" bytes).find [] false "./.q00001.tmp" =
      .ok (.taken [.text ".q00001.tmp"] (.link "p00001")) :=
    Tree.find_end false (Tree.opens_here _ []) (temporary_proper plain 1) (by constructor <;> decide) (by simp)
  exact Tree.rename_placed found (by simp) (Tree.opens_here _ []) (artifact_proper plain 1) (by constructor <;> decide)
    (by decide)

theorem crossed_update (bytes : ByteArray) (count : UInt32) :
    (Store.update ⟨".", "q"⟩ 1 count).run (Listing.answer .plain)
      { Machine.fresh with tree := crossed ".q00001.tmp" "p00001" bytes } =
      (.ok (), { Machine.fresh with tree := uncrossed (Numeral.word32 count).toUTF8 }) := by
  have different : ".q00001.tmp" ≠ "p00001" := by decide
  have proper : Files.Proper ".q00001.tmp" := temporary_proper neighbours_letters.plain' 1
  have properTarget : Files.Proper "p00001" := artifact_proper neighbours_letters.plain 1
  have fits : Files.Fits "." ".q00001.tmp" := by constructor <;> decide
  have temporary : Store.temporaryPath ⟨".", "q"⟩ 1 = Path.join "." ".q00001.tmp" := rfl
  have create := crossed_create bytes different proper properTarget fits (by decide)
  have extend := crossed_extend .empty different proper properTarget fits (by decide) (Numeral.word32 count).toUTF8
  have sync := crossed_sync (Numeral.word32 count).toUTF8 different proper properTarget fits (by decide)
  have rename : Files.Tree.rename _ [] (Path.join "." ".q00001.tmp") (Store.artifactPath ⟨".", "q"⟩ 1) = _ :=
    crossed_rename (Numeral.word32 count).toUTF8
  rw [ByteArray.empty_append] at extend
  simp only [Store.update, Store.write, Program.bind_eq, Program.run_bind, Host.ask, Program.run_call, temporary,
    Listing.answer, Machine.answer, Machine.settle, Machine.fresh, create, extend, sync, rename]
  rfl

theorem crossed_counted (count : UInt32) : ((Store.read ⟨".", "p"⟩ 1).run (Listing.answer .plain)
    { Machine.fresh with tree := crossed ".q00001.tmp" "p00001" (Numeral.word32 count).toUTF8 }).1 = .ok count := by
  have own : ordinal? "p" "p00001" = some 1 := by decide
  have foreign : ordinal? "p" ".q00001.tmp" = none := by decide
  refine single_read _ count ?_ rfl
  simp [crossed, Tree.names, Tree.nameIn, sorted, found, own, foreign]

theorem uncrossed_counted (count : UInt32) : ((Store.read ⟨".", "p"⟩ 1).run (Listing.answer .plain)
    { Machine.fresh with tree := uncrossed (Numeral.word32 count).toUTF8 }).1 = .ok count := by
  have own : ordinal? "p" "p00001" = some 1 := by decide
  have foreign : ordinal? "p" "q00001" = none := by decide
  refine single_read _ count ?_ rfl
  simp [uncrossed, Tree.names, Tree.nameIn, sorted, found, own, foreign]

theorem linked_neighbour_disturbs : Neighbours ⟨".", "p"⟩ ⟨".", "q"⟩ ∧
    let m := { Machine.fresh with tree := crossed ".q00001.tmp" "p00001" (Numeral.word32 7).toUTF8 }
    m.tree.Opens m.work "." [] ∧
      (Store.interleaved ⟨".", "p"⟩ ⟨".", "q"⟩ .plain [.inr (.update 1 3), .inl (.read 1)] m).1 = [⟨.read 1, .ok 3⟩] ∧
      (Store.served ⟨".", "p"⟩ .plain [.read 1] m).1 = [⟨.read 1, .ok 7⟩] := by
  refine ⟨neighbours_letters, Tree.opens_here _ _, ?_, ?_⟩
  · simp only [Store.interleaved, Store.serve, crossed_update, uncrossed_counted]
  · simp only [Store.served, Store.serve, crossed_counted]

end Overseer.Counter
