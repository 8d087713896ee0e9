import Mathlib.Data.List.Infix
import Overseer.Proofs.Counter.Lone
import Overseer.Proofs.Counter.Sharing
import Overseer.Proofs.Counter.Stock

set_option autoImplicit false

namespace Overseer.Counter

open Files (Fits Name Node Path)
open Host (Action Answer Call Listing Machine)
open Text (Numeral.word32)

def counts (id : UInt64) (requests : List Request) : List UInt32 := requests.filterMap (Request.count? id)

variable {ι : Type}

def published (id : UInt64) (trace : List (Event ι)) : List UInt32 :=
  trace.filterMap fun e => e.request.gives id e.exchange

-- An event after these shows of the artifacts no more than is there by then.
def Shows (store : Store) (first : Shelf) (before : List (Event ι)) (e : Event ι) : Prop :=
  match e.exchange with
  | ⟨.read path, .ok bytes⟩ => ∃ id node, path = store.artifactPath id ∧ e.request.Reads id ∧
      Becomes store.stem first id (published id before) node ∧ Files.Tree.contents node = some bytes
  | ⟨.list _, .ok names⟩ => ∀ a ∈ found store.stem names,
      a.name = artifactName store.stem a.id ∧ (first.Has a.name ∨ published a.id before ≠ [])
  | _ => True

-- For each session, the counts that a client may yet give it.
abbrev Dues : Type := UInt64 → List UInt32

inductive Engaged (store : Store) (tasks : List Request) (shelf : Shelf) : Client → Dues → Prop where
  | free (later : List Request) (part : later <:+ tasks) :
      Engaged store tasks shelf ⟨none, later⟩ fun id => counts id later
  | busy (r : Request) (rest : Action (Reply Failure r)) (later : List Request) (part : r :: later <:+ tasks)
      (stage : Stage) (careful : Careful store r stage rest) (held : Held store.stem r stage shelf) :
      Engaged store tasks shelf ⟨some ⟨r, rest⟩, later⟩ fun id => stage.owed r id ++ counts id later

def Written (tasks : ι → List Request) (id : UInt64) : Prop := ∃ i, counts id (tasks i) ≠ []

def Apart (tasks : ι → List Request) : Prop :=
  ∀ i j id, counts id (tasks i) ≠ [] → counts id (tasks j) ≠ [] → i = j

-- After these events: every artifact has become what has been given to its session, and what has been given with
-- what is still due are counts of the session's only writer, in their order.
structure Kept (store : Store) (place : Files.Location) (first : Shelf) (tasks : ι → List Request)
    (before : List (Event ι)) (w : World ι) (shelf : Shelf) (owed : ι → Dues) : Prop where
  stands : Stands store w.machine place shelf
  orderly : Orderly store.stem (Written tasks) shelf
  artifact : ∀ id, Becomes store.stem first id (published id before) (shelf [.text (artifactName store.stem id)])
  engaged : ∀ i, Engaged store (tasks i) shelf (w.clients i) (owed i)
  due : ∀ i id, counts id (tasks i) ≠ [] → (published id before ++ owed i id).Sublist (counts id (tasks i))
  own : ∀ id, published id before = [] ∨ Written tasks id

theorem published_append (id : UInt64) (a b : List (Event ι)) :
    published id (a ++ b) = published id a ++ published id b := List.filterMap_append

theorem published_silent (i : ι) (r : Request) (id : UInt64) (silent : r.count? id = none) (h : List Exchange) :
    published id (h.map fun e => (⟨i, r, e⟩ : Event ι)) = [] := by
  apply List.filterMap_eq_nil_iff.mpr
  intro e member
  obtain ⟨exchange, -, rfl⟩ := List.mem_map.mp member
  exact Option.eq_none_iff_forall_ne_some.mpr fun count given => by
    rw [given_count given] at silent
    cases silent

theorem counts_cons (id : UInt64) (r : Request) (later : List Request) :
    counts id (r :: later) = (r.count? id).toList ++ counts id later := by
  unfold counts
  cases writes : r.count? id with
  | none => simp [writes]
  | some count => simp [writes]

theorem counts_part {r : Request} {later tasks : List Request} {id : UInt64} {count : UInt32}
    (part : r :: later <:+ tasks) (writes : r.count? id = some count) : counts id tasks ≠ [] := by
  intro empty
  have member : count ∈ counts id tasks := List.mem_filterMap.mpr ⟨r, part.mem List.mem_cons_self, writes⟩
  rw [empty] at member
  cases member

theorem becomes_nothing {stem : String} {first : Shelf} {id : UInt64} {counts : List UInt32} {node : Option Node}
    (becomes : Becomes stem first id counts node) (nothing : counts = []) : node = first [.text (artifactName stem id)] := by
  cases becomes with
  | unchanged => rfl
  | replaced earlier count mode => simp at nothing

theorem becomes_present {stem : String} {first : Shelf} {id : UInt64} {earlier : List UInt32} {node : Option Node}
    (becomes : Becomes stem first id earlier node) (present : node ≠ none) :
    first.Has (artifactName stem id) ∨ earlier ≠ [] := by
  cases becomes with
  | unchanged => exact .inl present
  | replaced earlier count mode => exact .inr (List.append_ne_nil_of_right_ne_nil _ (List.cons_ne_nil _ _))

section Kept

variable [DecidableEq ι] {store : Store} {listing : Listing} {place : Files.Location} {first : Shelf}
  {tasks : ι → List Request} {before : List (Event ι)} {w : World ι} {shelf : Shelf} {owed : ι → Dues}

-- One client has moved on. The dues of the others stay, since no other writes for the same session.
theorem kept_moved (apart : Apart tasks) (kept : Kept store place first tasks before w shelf owed) (i : ι)
    (client : Client) (own : Dues) (events : List (Event ι)) (m : Machine) (shelf' : Shelf)
    (stands : Stands store m place shelf') (orderly : Orderly store.stem (Written tasks) shelf')
    (artifact : ∀ id, Becomes store.stem first id (published id before ++ published id events)
      (shelf' [.text (artifactName store.stem id)]))
    (engaged : Engaged store (tasks i) shelf' client own)
    (others : ∀ j, j ≠ i → Engaged store (tasks j) shelf' (w.clients j) (owed j))
    (fewer : ∀ id, (published id events ++ own id).Sublist (owed i id))
    (writer : ∀ id, published id events = [] ∨ counts id (tasks i) ≠ []) :
    ∃ owed', Kept store place first tasks (before ++ events) (w.set m i client) shelf' owed' := by
  refine ⟨Function.update owed i own, stands, orderly, ?_, ?_, ?_, ?_⟩
  · intro id
    rw [published_append]
    exact artifact id
  · intro j
    change Engaged store (tasks j) shelf' (Function.update w.clients i client j) _
    by_cases same : j = i
    · subst same
      rw [Function.update_self, Function.update_self]
      exact engaged
    · rw [Function.update_of_ne same, Function.update_of_ne same]
      exact others j same
  · intro j id writes
    rw [published_append]
    by_cases same : j = i
    · subst same
      rw [Function.update_self, List.append_assoc]
      exact ((fewer id).append_left _).trans (kept.due j id writes)
    · rw [Function.update_of_ne same]
      rcases writer id with nothing | wrote
      · rw [nothing, List.append_nil]
        exact kept.due j id writes
      · exact absurd (apart j i id writes wrote) same
  · intro id
    rw [published_append]
    rcases writer id with nothing | wrote
    · rw [nothing, List.append_nil]
      exact kept.own id
    · exact .inr ⟨i, wrote⟩

theorem kept_quiet (apart : Apart tasks) (kept : Kept store place first tasks before w shelf owed) (i : ι)
    (client : Client) (own : Dues) (engaged : Engaged store (tasks i) shelf client own)
    (fewer : ∀ id, (own id).Sublist (owed i id)) :
    ∃ owed', Kept store place first tasks before (w.set w.machine i client) shelf owed' := by
  have moved := kept_moved apart kept i client own [] w.machine shelf kept.stands kept.orderly
    (fun id => (List.append_nil (published id before)).symm ▸ kept.artifact id) engaged (fun j _ => kept.engaged j)
    fewer fun _ => .inl rfl
  rwa [List.append_nil] at moved

omit [DecidableEq ι] in
theorem engaged_turned {client : Client} {own : Dues} {r : Request} {e : Exchange} {shelf' : Shelf}
    {requests : List Request} (turn : Turn store.stem r shelf e shelf')
    (apart : ∀ id count, r.count? id = some count → counts id requests = [])
    (engaged : Engaged store requests shelf client own) : Engaged store requests shelf' client own := by
  cases engaged with
  | free later part => exact .free later part
  | busy other rest later part stage careful held =>
      refine .busy other rest later part stage careful (turn_held turn ?_ held)
      intro id count writes
      cases wrote : other.count? id with
      | none => rfl
      | some k => exact absurd (apart id count writes) (counts_part part wrote)

theorem kept_turned (apart : Apart tasks) (kept : Kept store place first tasks before w shelf owed) (i : ι)
    (r : Request) (rest : Action (Reply Failure r)) (later : List Request) (part : r :: later <:+ tasks i)
    (stage : Stage) (mine : owed i = fun id => stage.owed r id ++ counts id later) (e : Exchange)
    (may : May store r stage e.1) (m : Machine) (shelf' : Shelf)
    (turned : Turned store r stage shelf place e m shelf') (careful : Careful store r (stage.after e.1 e.2) rest) :
    ∃ owed', Kept store place first tasks (before ++ [⟨i, r, e⟩]) (w.set m i ⟨some ⟨r, rest⟩, later⟩) shelf'
      owed' := by
  have gives (id : UInt64) : published id [(⟨i, r, e⟩ : Event ι)] = (r.gives id e).toList := by
    unfold published
    cases given : r.gives id e <;> simp [given]
  have others (j : ι) (other : j ≠ i) : Engaged store (tasks j) shelf' (w.clients j) (owed j) := by
    apply engaged_turned turned.turn _ (kept.engaged j)
    intro id count writes
    by_contra wrote
    exact other (apart j i id wrote (counts_part part writes))
  have fewer (id : UInt64) : (published id [(⟨i, r, e⟩ : Event ι)] ++
      ((stage.after e.1 e.2).owed r id ++ counts id later)).Sublist (owed i id) := by
    rw [gives, mine, ← List.append_assoc]
    exact (may_owed may e.2 id).append_right _
  have writer (id : UInt64) : published id [(⟨i, r, e⟩ : Event ι)] = [] ∨ counts id (tasks i) ≠ [] := by
    rw [gives]
    cases given : r.gives id e with
    | none => exact .inl rfl
    | some count => exact .inr (counts_part part (given_count given))
  apply kept_moved apart kept i _ _ _ m shelf' turned.stands (turn_orderly turned.turn kept.orderly) _
    (.busy r rest later part _ careful turned.held) others fewer writer
  intro id
  rw [gives]
  exact turn_artifact turned.turn first id _ (kept.artifact id)

omit [DecidableEq ι] in
theorem shows_seen {r : Request} {e : Exchange} (kept : Kept store place first tasks before w shelf owed) (i : ι)
    (sees : Sees store r shelf e) : Shows store first before ⟨i, r, e⟩ := by
  obtain ⟨c, told⟩ := e
  cases c with
  | read path =>
      cases told with
      | error refusal => trivial
      | ok bytes =>
          obtain ⟨id, own, reads, holds⟩ := sees
          exact ⟨id, _, own, reads, kept.artifact id, holds⟩
  | list path =>
      cases told with
      | error refusal => trivial
      | ok names =>
          intro a member
          obtain ⟨own, has⟩ := sees a member
          rw [Shelf.Has, own] at has
          exact ⟨own, own ▸ becomes_present (kept.artifact a.id) has⟩
  | _ => trivial

theorem kept_turn (listing : Listing) (plain : Stem store.stem) (apart : Apart tasks)
    (kept : Kept store place first tasks before w shelf owed) (i : ι) (move : Move) :
    (∀ e, (w.turn store listing i move).1 = some e → Shows store first before e) ∧
      ∃ shelf' owed', Kept store place first tasks (before ++ (w.turn store listing i move).1.toList)
        (w.turn store listing i move).2 shelf' owed' := by
  have nothing (e : Event ι) (shown : none = some e) : Shows store first before e := nomatch shown
  have still : ∃ shelf' owed', Kept store place first tasks (before ++ []) w shelf' owed' :=
    ⟨shelf, owed, (List.append_nil before).symm ▸ kept⟩
  have quiet (client : Client) (own : Dues) (engaged : Engaged store (tasks i) shelf client own)
      (fewer : ∀ id, (own id).Sublist (owed i id)) :
      ∃ shelf' owed', Kept store place first tasks (before ++ []) (w.set w.machine i client) shelf' owed' := by
    rw [List.append_nil]
    exact ⟨shelf, kept_quiet apart kept i client own engaged fewer⟩
  have engaged := kept.engaged i
  generalize mine : owed i = own at engaged
  unfold World.turn
  generalize w.clients i = client at engaged
  cases engaged with
  | free later part =>
      cases later with
      | nil => exact ⟨nothing, still⟩
      | cons r later =>
          refine ⟨nothing, quiet _ _ (.busy r _ later part .unwritten (careful_serve store r) fun _ _ _ => trivial) fun id => ?_⟩
          rw [mine]
          exact (counts_cons id r later).symm ▸ .refl _
  | busy r rest later part stage careful held =>
      cases careful with
      | done reply =>
          refine ⟨nothing, quiet _ _ (.free later ((List.suffix_cons r later).trans part)) fun id => ?_⟩
          rw [mine]
          exact List.sublist_append_right _ _
      | @ask stage c next may cautious =>
          dsimp only
          cases tried : attempt listing w.machine move c next with
          | none => exact ⟨nothing, still⟩
          | some tried' =>
              obtain ⟨e, rest, m⟩ := tried'
              have writer (own : UInt64) (count : UInt32) (writes : r.count? own = some count) : Written tasks own :=
                ⟨i, counts_part part writes⟩
              obtain ⟨shelf', turned, may', careful'⟩ :=
                attempt_turned plain kept.stands kept.orderly writer held may cautious tried
              refine ⟨?_, shelf', ?_⟩
              · rintro _ ⟨⟩
                exact shows_seen kept i turned.sees
              · exact kept_turned apart kept i r rest later part stage mine e may' m shelf' turned careful'

theorem kept_play (listing : Listing) (plain : Stem store.stem) (apart : Apart tasks) (schedule : List (ι × Move))
    (kept : Kept store place first tasks before w shelf owed) :
    (∀ earlier e later, w.play store listing schedule = earlier ++ e :: later →
        Shows store first (before ++ earlier) e) ∧
      ∀ id, published id (before ++ w.play store listing schedule) = [] ∨
        ∃ i, (published id (before ++ w.play store listing schedule)).Sublist (counts id (tasks i)) := by
  -- The events so far grow with each move, since what one may show is told by all before it.
  induction schedule generalizing before w shelf owed with
  | nil =>
      rw [World.play, List.append_nil]
      constructor
      · intro earlier e later split
        cases earlier <;> cases split
      · intro id
        rcases kept.own id with nothing | ⟨i, writes⟩
        · exact .inl nothing
        · exact .inr ⟨i, (List.sublist_append_left _ _).trans (kept.due i id writes)⟩
  | cons head schedule ih =>
      obtain ⟨i, move⟩ := head
      obtain ⟨shows, shelf', owed', kept'⟩ := kept_turn listing plain apart kept i move
      obtain ⟨later, whole⟩ := ih kept'
      rw [World.play]
      rw [List.append_assoc] at whole
      refine ⟨?_, whole⟩
      generalize (w.turn store listing i move).1 = shown at shows later ⊢
      cases shown with
      | none => simpa using later
      | some e =>
          intro earlier e' after split
          cases earlier with
          | nil =>
              obtain ⟨rfl, -⟩ := List.cons_eq_cons.mp split
              rw [List.append_nil]
              exact shows e rfl
          | cons e'' earlier =>
              obtain ⟨rfl, rest⟩ := List.cons_eq_cons.mp split
              have after := later earlier e' after rest
              rwa [List.append_assoc] at after

end Kept

theorem published_prefix (id : UInt64) (a b : List (Event ι)) : published id a <+: published id (a ++ b) :=
  published_append id a b ▸ List.prefix_append _ _

def Obtains (store : Store) (id : UInt64) (bytes : ByteArray) (e : Event ι) : Prop :=
  e.exchange = ⟨.read (store.artifactPath id), .ok bytes⟩

theorem shows_obtained {store : Store} {first : Shelf} {before : List (Event ι)} {e : Event ι} {id : UInt64}
    {bytes : ByteArray} (nonempty : store.directory ≠ "") (plain : Stem store.stem)
    (shows : Shows store first before e) (obtains : Obtains store id bytes e) :
    ∃ node, Becomes store.stem first id (published id before) node ∧ Files.Tree.contents node = some bytes := by
  unfold Shows at shows
  rw [obtains] at shows
  obtain ⟨own, node, same, -, becomes⟩ := shows
  obtain rfl := artifact_path_injective nonempty plain id own same
  exact ⟨node, becomes⟩

-- Where every session has one writer at most, reads and listings show whole counts of the session itself, in the
-- order in which its writer gave them, whatever fails and whoever crashes.
theorem readers_see_whole_counts [DecidableEq ι] (store : Store) (listing : Listing) (m : Machine)
    (place : Files.Location) (first : Shelf) (plain : Stem store.stem) (stands : Stands store m place first)
    (tasks : ι → List Request) (orderly : Orderly store.stem (Written tasks) first) (apart : Apart tasks)
    (schedule : List (ι × Move)) :
    let trace := (World.mk m fun i => ⟨none, tasks i⟩).play store listing schedule
    (∀ before e after, trace = before ++ e :: after → Shows store first before e) ∧
      (∀ id, published id trace = [] ∨ ∃ i, (published id trace).Sublist (counts id (tasks i))) ∧
      ∀ id before e between e' after bytes bytes', trace = before ++ e :: (between ++ e' :: after) →
        Obtains store id bytes e → Obtains store id bytes' e' →
        ∃ older newer node node', older <+: newer ∧ newer <+: published id trace ∧
          Becomes store.stem first id older node ∧ Files.Tree.contents node = some bytes ∧
          Becomes store.stem first id newer node' ∧ Files.Tree.contents node' = some bytes' := by
  intro trace
  have begun :
      Kept store place first tasks [] (World.mk m fun i => ⟨none, tasks i⟩) first fun i id => counts id (tasks i) :=
    ⟨stands, orderly, fun _ => .unchanged, fun i => .free _ List.suffix_rfl, fun _ _ _ => .refl _, fun _ => .inl rfl⟩
  obtain ⟨shows, given⟩ := kept_play listing plain apart schedule begun
  refine ⟨shows, given, ?_⟩
  intro id before e between e' after bytes bytes' split obtains obtains'
  have nonempty := Files.Tree.opens_nonempty stands.opens
  have split' : trace = (before ++ e :: between) ++ e' :: after := by
    rw [split, List.append_assoc, List.cons_append]
  obtain ⟨node, older, held⟩ := shows_obtained nonempty plain (shows _ _ _ split) obtains
  obtain ⟨node', newer, held'⟩ := shows_obtained nonempty plain (shows _ _ _ split') obtains'
  refine ⟨_, _, node, node', published_prefix id before (e :: between), ?_, older, held, newer, held'⟩
  rw [split']
  exact published_prefix id _ _

theorem read_obtains {store : Store} {m : Machine} {place : Files.Location} {shelf : Shelf} (listing : Listing)
    {written : UInt64 → Prop} (plain : Stem store.stem) (stands : Stands store m place shelf)
    (orderly : Orderly store.stem written shelf) (id : UInt64)
    (fits : Fits store.directory (artifactName store.stem id)) (bytes : ByteArray) (mode : Nat)
    (file : shelf [.text (artifactName store.stem id)] = some (.file bytes mode)) :
    ⟨.read (store.artifactPath id), .ok bytes⟩ ∈ (store.read id).history listing.answer m := by
  obtain ⟨names, m', lists, alike, run⟩ := artifacts_run listing stands
  have told : (listing.answer (.read (store.artifactPath id)) m').1 = .ok bytes :=
    ready_read listing (stands_alike alike stands) (artifact_proper plain id) fits bytes mode file
  have reading : ⟨.read (store.artifactPath id), .ok bytes⟩ ∈
      (Store.readAt (store.artifactPath id)).history listing.answer m' :=
    told ▸ List.mem_cons_self
  rw [Store.read, Program.bind_eq, Program.history_bind, run]
  apply List.mem_append_right
  dsimp only
  split
  · next a found =>
      have same : a.id = id := by simpa using List.find?_some found
      obtain ⟨present, numbered⟩ := (mem_sorted _ _ a).mp (List.mem_of_find?_eq_some found)
      have own := orderly.canonical a.name a.id ((lists.2 _).mp present) numbered
      rw [own, same]
      exact reading
  · exact reading

theorem write_obtained [DecidableEq ι] (store : Store) (listing : Listing) (plain : Stem store.stem)
    (fits : ∀ id, Fits store.directory (temporaryName store.stem id)) {w : World ι} {place : Files.Location}
    {shelf : Shelf} {written : UInt64 → Prop} (ready : Ready store w.machine place shelf)
    (orderly : Orderly store.stem written shelf) (i j : ι)
    (other : j ≠ i) (id : UInt64) (count : UInt32) (later later' : List Request)
    (writer : w.clients i = ⟨none, .update id count :: later⟩)
    (reader : w.clients j = ⟨none, .read id :: later'⟩) :
    ∃ schedule, ⟨j, .read id, ⟨.read (store.artifactPath id), .ok (Numeral.word32 count).toUTF8⟩⟩ ∈
      w.play store listing schedule := by
  obtain ⟨m, mode, run, ready'⟩ := update_ready listing plain fits ready id count
  have writes : (Request.update id count).count? id = some count := if_pos rfl
  have turn : Turn store.stem (.update id count) shelf
      ⟨.rename (store.temporaryPath id) (store.artifactPath id), .ok ()⟩
      (shelf.filed store.stem id (Numeral.word32 count).toUTF8 mode) := .artifact _ _ id count writes mode
  have nonempty := Files.Tree.opens_nonempty ready.stands.opens
  have obtained := read_obtains listing plain ready'.stands (turn_orderly turn orderly) id
    (fits_artifact nonempty plain (fits id)) _ mode (Shelf.filed_artifact _ _ _)
  obtain ⟨first, writing⟩ := play_request store listing w writer
  have idle : (w.set ((store.serve (.update id count)).run listing.answer w.machine).2 i ⟨none, later⟩).clients j =
      ⟨none, .read id :: later'⟩ := (w.set_other _ i j _ other).trans reader
  obtain ⟨second, reading⟩ := play_request store listing _ idle
  refine ⟨List.replicate first (i, .go) ++ (List.replicate second (j, .go) ++ []), ?_⟩
  rw [writing, reading]
  apply List.mem_append_right
  apply List.mem_append_left
  apply List.mem_map.mpr
  refine ⟨_, ?_, rfl⟩
  have now : ((store.serve (.update id count)).run listing.answer w.machine).2 = m := congrArg Prod.snd run
  rw [World.set, now]
  exact obtained

def pair : Bool → List Request
  | false => [.update 1 4, .update 1 12]
  | true => [.read 1]

theorem readers_see_whole_counts_pair :
    ∃ m schedule, let trace := (World.mk m fun i => ⟨none, pair i⟩).play ⟨"counters", "failures_"⟩ .plain schedule
      ⟨true, .read 1, ⟨.read "counters/failures_00001", .ok "4".toUTF8⟩⟩ ∈ trace ∧
        ∀ before e after, trace = before ++ e :: after → Shows ⟨"counters", "failures_"⟩ .bare before e := by
  have plain := failures_stem
  have fits := fits_last counters_proper.nonempty plain ⟨by decide, by decide⟩
  obtain ⟨absent, makable⟩ := counters_absent
  obtain ⟨m, place, -, stands⟩ := @made_absent ⟨"counters", "failures_"⟩ Machine.fresh .plain absent makable
  have orderly : Orderly "failures_" (Written pair) .bare :=
    ⟨fun _ => trivial, fun _ _ => trivial, fun _ _ present => absurd rfl present⟩
  have apart : Apart pair := by
    intro i j id
    cases i <;> cases j <;> simp [pair, counts, Request.count?]
  have path : Store.artifactPath ⟨"counters", "failures_"⟩ 1 = "counters/failures_00001" := by decide
  let w := World.mk m fun i => ⟨none, pair i⟩
  have ready : Ready ⟨"counters", "failures_"⟩ w.machine place .bare := ready_bare stands
  obtain ⟨schedule, obtained⟩ :=
    write_obtained ⟨"counters", "failures_"⟩ .plain plain fits ready orderly false true (by decide) 1 4 _ _ rfl rfl
  have text : Numeral.word32 4 = "4" := by decide
  rw [path, text] at obtained
  exact ⟨m, schedule, obtained, (readers_see_whole_counts ⟨"counters", "failures_"⟩ .plain m place .bare plain stands
    pair orderly apart schedule).1⟩

def beside : Bool → List Request
  | false => [.update 1 3]
  | true => [.read 2]

theorem crossed_stands (bytes : ByteArray) :
    Stands ⟨".", "p"⟩ { Machine.fresh with tree := crossed ".p00001.tmp" "p00002" bytes } []
      (crossed ".p00001.tmp" "p00002" bytes).node? where
  opens := Files.Tree.opens_here _ _
  unique := by simp [crossed, Files.Tree.names, Files.Tree.nameIn]
  holds q _ := by rw [List.append_nil]

theorem crossed_orderly (bytes : ByteArray) :
    Orderly "p" (fun _ => False) (crossed ".p00001.tmp" "p00002" bytes).node? where
  artifact id := by
    by_cases own : artifactName "p" id = "p00002"
    · rw [own, crossed_file]
      trivial
    · have linked : artifactName "p" id ≠ ".p00001.tmp" := artifact_ne_temporary "p" id 1
      rw [crossed_nothing bytes own linked]
      trivial
  temporary id := False.elim
  canonical name id has numbered := by
    have temporary : ordinal? "p" ".p00001.tmp" = none := by decide
    have artifact : ordinal? "p" "p00002" = some 2 := by decide
    by_cases own : name = "p00002"
    · rw [own, artifact] at numbered
      rw [own, ← Option.some.inj numbered]
      rfl
    · by_cases linked : name = ".p00001.tmp"
      · rw [linked, temporary] at numbered
        cases numbered
      · exact absurd (crossed_nothing bytes own linked) has

-- The temporary of the one session is a link to the artifact of the other, which is emptied through it: the reader
-- obtains neither the count that was there nor one that was given to it.
theorem linked_temporary_torn :
    let store : Store := ⟨".", "p"⟩
    let m := { Machine.fresh with tree := crossed ".p00001.tmp" "p00002" (Numeral.word32 7).toUTF8 }
    Stands store m [] m.tree.node? ∧ Orderly "p" (fun _ => False) m.tree.node? ∧ Apart beside ∧
      ∃ schedule before e after, (World.mk m fun i => ⟨none, beside i⟩).play store .plain schedule = before ++ e :: after ∧
        Obtains store 2 .empty e ∧ ¬Shows store m.tree.node? before e := by
  intro store m
  have apart : Apart beside := by
    intro i j id
    cases i <;> cases j <;> simp [beside, counts, Request.count?]
  refine ⟨crossed_stands _, crossed_orderly _, apart, ?_⟩
  let m' := { Machine.fresh with tree := crossed ".p00001.tmp" "p00002" .empty }
  have plain : Stem store.stem := by constructor <;> decide
  have created : Listing.plain.answer (.create (store.temporaryPath 1)) m = (.ok (), m') := by
    have create := crossed_create (Numeral.word32 7).toUTF8 (by decide) (temporary_proper plain 1) (artifact_proper plain 2)
      (by constructor <;> decide) (by decide)
    change m.settle (m.tree.create m.work (store.temporaryPath 1)) = _
    exact congrArg m.settle create
  have file : m'.tree.node? [.text (artifactName store.stem 2)] = some (.file .empty Files.Tree.newMode) :=
    crossed_file .empty
  have obtained := read_obtains .plain plain (crossed_stands .empty) (crossed_orderly .empty) 2 (by constructor <;> decide) _ _ file
  obtain ⟨earlier, later, reading⟩ := List.append_of_mem obtained
  -- The writer begins and empties the temporary, and then the reader goes on alone.
  let w := World.mk m fun i => ⟨none, beside i⟩
  let w' := w.set m false ⟨some ⟨.update 1 3, store.update 1 3⟩, []⟩
  have first : w.turn store .plain false .go = (none, w') := turn_start store .plain w .go rfl
  have second := turn_answered store .plain w' _ _ (w.set_same m false _)
  change World.turn _ _ w' false .go = (some ⟨false, .update 1 3, ⟨.create (store.temporaryPath 1), _⟩⟩, _) at second
  have machine : w'.machine = m := rfl
  rw [machine, created] at second
  generalize set : w'.set m' false _ = w'' at second
  have idle : w''.clients true = ⟨none, .read 2 :: []⟩ := by
    rw [← set, World.set_other _ _ _ _ _ (by decide), World.set_other _ _ _ _ _ (by decide)]
    rfl
  have emptied : w''.machine = m' := by
    rw [← set]
    rfl
  obtain ⟨moves, alone⟩ := play_request store .plain w'' idle
  have played := alone []
  rw [emptied, Store.serve, reading, List.append_nil, World.play, List.append_nil] at played
  let opened : Event Bool := ⟨false, .update 1 3, ⟨.create (store.temporaryPath 1), .ok ()⟩⟩
  refine ⟨(false, .go) :: (false, .go) :: List.replicate moves (true, .go), opened :: earlier.map (⟨true, .read 2, ·⟩),
    ⟨true, .read 2, ⟨.read (store.artifactPath 2), .ok .empty⟩⟩, later.map (⟨true, .read 2, ·⟩), ?_, rfl, ?_⟩
  · rw [World.play, first, World.play, second, played, List.map_append]
    rfl
  · intro shows
    have obtains : Obtains store 2 .empty (⟨true, .read 2, ⟨.read (store.artifactPath 2), .ok .empty⟩⟩ : Event Bool) := rfl
    obtain ⟨node, becomes, holds⟩ := shows_obtained (by decide) plain shows obtains
    have nothing : published 2 (opened :: earlier.map (⟨true, .read 2, ·⟩)) = [] := published_silent true (.read 2) 2 rfl earlier
    have whole : m.tree.node? [.text (artifactName store.stem 2)] = some (.file (Numeral.word32 7).toUTF8 Files.Tree.newMode) :=
      crossed_file _
    -- Nothing was given to the session, so its artifact would still be the one that holds 7.
    rw [becomes_nothing becomes nothing, whole] at holds
    exact absurd (Option.some.inj holds) (by decide)

end Overseer.Counter
