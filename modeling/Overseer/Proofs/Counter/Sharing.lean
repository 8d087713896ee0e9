import Mathlib.Logic.Function.Basic
import Overseer.Proofs.Counter.Interference

set_option autoImplicit false

namespace Overseer.Counter

open Files (Name)
open Host (Action Answer Call Listing Machine)

structure Client where
  current : Option (Σ r : Request, Action (Reply Failure r))
  later : List Request

structure World (ι : Type) where
  machine : Machine
  clients : ι → Client

structure Event (ι : Type) where
  who : ι
  request : Request
  exchange : Exchange

-- How a client goes on. A client that has crashed is one that does not go on.
inductive Move where
  | go
  | fail (refusal : Refusal)
  -- Only so many of the bytes are written now.
  | part (length : Nat)
  -- Some entries are overlooked while the directory changes.
  | skim (seen : Name → Bool)

abbrev Course (α : Type) : Type := Option (Exchange × Action α × Machine)

section Play

variable {ι : Type} [DecidableEq ι] {α : Type} (store : Store) (listing : Listing)

def writePart (m : Machine) (length : Nat) : (c : Call) → (Answer c → Action α) → Course α
  | .extend path bytes, next =>
    let first := bytes.extract 0 length
    match (listing.answer (.extend path first) m).1 with
    | .ok () => some (⟨.extend path first, .ok ()⟩, .ask (.extend path (bytes.extract length bytes.size)) next,
        (listing.answer (.extend path first) m).2)
    | .error _ => none
  | _, _ => none

def listSeen (m : Machine) (seen : Name → Bool) : (c : Call) → (Answer c → Action α) → Course α
  | .list path, next =>
    let told := (listing.answer (.list path) m).1.map (List.filter seen)
    some (⟨.list path, told⟩, next told, m)
  | _, _ => none

def attempt (m : Machine) (move : Move) (c : Call) (next : Answer c → Action α) : Course α :=
  match move with
  | .go => some (⟨c, (listing.answer c m).1⟩, next (listing.answer c m).1, (listing.answer c m).2)
  | .fail refusal => (refuse refusal c).map fun told => (⟨c, told⟩, next told, m)
  | .part length => writePart listing m length c next
  | .skim seen => listSeen listing m seen c next

namespace World

def set (w : World ι) (m : Machine) (i : ι) (client : Client) : World ι :=
  ⟨m, Function.update w.clients i client⟩

@[simp] theorem set_same (w : World ι) (m : Machine) (i : ι) (client : Client) :
    (w.set m i client).clients i = client := by
  simp only [set, Function.update_self]

theorem set_other (w : World ι) (m : Machine) (i j : ι) (client : Client) (other : j ≠ i) :
    (w.set m i client).clients j = w.clients j := by
  simp only [set, Function.update_of_ne other]

@[simp] theorem set_set (w : World ι) (m m' : Machine) (i : ι) (first second : Client) :
    (w.set m i first).set m' i second = w.set m' i second := by
  simp only [set, Function.update_idem]

-- A move of one client, with what it asks in it. A move that is not possible changes nothing.
def turn (w : World ι) (i : ι) (move : Move) : Option (Event ι) × World ι :=
  match w.clients i with
  | ⟨none, []⟩ => (none, w)
  | ⟨none, r :: later⟩ => (none, w.set w.machine i ⟨some ⟨r, store.serve r⟩, later⟩)
  | ⟨some ⟨_, .done _⟩, later⟩ => (none, w.set w.machine i ⟨none, later⟩)
  | ⟨some ⟨r, .ask c next⟩, later⟩ =>
    match attempt listing w.machine move c next with
    | none => (none, w)
    | some (exchange, rest, m) => (some ⟨i, r, exchange⟩, w.set m i ⟨some ⟨r, rest⟩, later⟩)

def play : List (ι × Move) → World ι → List (Event ι)
  | [], _ => []
  | (i, move) :: schedule, w =>
    (w.turn store listing i move).1.toList ++ play schedule (w.turn store listing i move).2

end World

end Play

section Attempt

variable {store : Store} {listing : Listing} {m m' : Machine} {place : Files.Location} {shelf : Shelf} {r : Request}
  {stage : Stage} {α : Type} {e : Exchange} {rest : Action α} {written : UInt64 → Prop}

theorem split_bytes (bytes : ByteArray) (length : Nat) :
    bytes.extract 0 length ++ bytes.extract length bytes.size = bytes := by
  rw [ByteArray.extract_append_extract, Nat.zero_min, ByteArray.extract_zero_max_size]

theorem part_turned {path : String} {bytes : ByteArray} {length : Nat} {next : Except Refusal Unit → Action α}
    (plain : Stem store.stem) (stands : Stands store m place shelf) (orderly : Orderly store.stem written shelf)
    (mine : ∀ id count, r.count? id = some count → written id) (held : Held store.stem r stage shelf)
    (may : May store r stage (.extend path bytes))
    (later : ∀ told, Canonical store.stem (.extend path bytes) told →
      Careful store r (stage.after (.extend path bytes) told) (next told))
    (tried : attempt listing m (.part length) (.extend path bytes) next = some (e, rest, m')) :
    ∃ shelf', Turned store r stage shelf place e m' shelf' ∧ May store r stage e.1 ∧
      Careful store r (stage.after e.1 e.2) rest := by
  cases told : (listing.answer (.extend path (bytes.extract 0 length)) m).1 with
  | error refusal =>
      simp only [attempt, writePart, told] at tried
      cases tried
  | ok extended =>
      simp only [attempt, writePart, told] at tried
      cases tried
      cases may with
      | glance glances =>
          cases glances with
          | look c looks => cases looks
      | extend id count writes content =>
          have first : May store r (.holding content) (.extend (store.temporaryPath id) (bytes.extract 0 length)) :=
            .extend id count writes content _
          obtain ⟨shelf', turned⟩ := answered_turned listing plain stands orderly mine first held
          rw [told] at turned
          refine ⟨shelf', turned, first, .ask (.extend id count writes _ _) fun answer _ => ?_⟩
          cases answer with
          | error refusal => exact later (.error refusal) trivial
          | ok whole =>
              change Careful store r (.holding (content ++ _ ++ _)) _
              rw [ByteArray.append_assoc, split_bytes]
              exact later (.ok ()) trivial

theorem skimmed_turned (listing : Listing) (path : String) (plain : Stem store.stem)
    (stands : Stands store m place shelf) (orderly : Orderly store.stem written shelf) (held : Held store.stem r stage shelf)
    (may : May store r stage (.list path)) (seen : Name → Bool) :
    Turned store r stage shelf place ⟨.list path, (listing.answer (.list path) m).1.map (List.filter seen)⟩ m
      shelf := by
  cases may with
  | glance glances =>
      have whole : Turned store r stage shelf place ⟨.list path, (listing.answer (.list path) m).1⟩ _ shelf :=
        glanced_turned plain stands orderly glances held
      have part (names : List Name) (a : Found) (member : a ∈ found store.stem (names.filter seen)) :
          a ∈ found store.stem names := by
        obtain ⟨present, numbered⟩ := (mem_found _ _ a).mp member
        exact (mem_found _ _ a).mpr ⟨List.mem_filter.mp present |>.1, numbered⟩
      cases told : (listing.answer (.list path) m).1 with
      | error refusal => exact ⟨stands, .same fun _ => rfl, held, trivial, trivial⟩
      | ok names =>
          rw [told] at whole
          exact ⟨stands, .same fun _ => rfl, held, fun a member => whole.canonical a (part names a member),
            fun a member => whole.sees a (part names a member)⟩

theorem attempt_turned {c : Call} {next : Answer c → Action α} {move : Move} (plain : Stem store.stem)
    (stands : Stands store m place shelf) (orderly : Orderly store.stem written shelf)
    (mine : ∀ id count, r.count? id = some count → written id) (held : Held store.stem r stage shelf)
    (may : May store r stage c)
    (later : ∀ told, Canonical store.stem c told → Careful store r (stage.after c told) (next told))
    (tried : attempt listing m move c next = some (e, rest, m')) :
    ∃ shelf', Turned store r stage shelf place e m' shelf' ∧ May store r stage e.1 ∧
      Careful store r (stage.after e.1 e.2) rest := by
  cases move with
  | go =>
      obtain ⟨rfl, rfl, rfl⟩ : ⟨c, _⟩ = e ∧ _ = rest ∧ _ = m' := by simpa [attempt] using tried
      obtain ⟨shelf', turned⟩ := answered_turned listing plain stands orderly mine may held
      exact ⟨shelf', turned, may, later _ turned.canonical⟩
  | fail refusal =>
      obtain ⟨told, refused, same⟩ := Option.map_eq_some_iff.mp tried
      obtain ⟨rfl, rfl, rfl⟩ : ⟨c, told⟩ = e ∧ _ = rest ∧ m = m' := by simpa using same
      have turned := refused_turned may stands held refusal told refused
      exact ⟨shelf, turned, may, later told turned.canonical⟩
  | part length =>
      cases c with
      | extend path bytes => exact part_turned plain stands orderly mine held may later tried
      | _ => cases tried
  | skim seen =>
      cases c with
      | list path =>
          obtain ⟨rfl, rfl, rfl⟩ : ⟨.list path, _⟩ = e ∧ _ = rest ∧ m = m' := by simpa [attempt, listSeen] using tried
          have turned := skimmed_turned listing path plain stands orderly held may seen
          exact ⟨shelf, turned, may, later _ turned.canonical⟩
      | _ => cases tried

end Attempt

section Alone

variable {ι : Type} [DecidableEq ι] (store : Store) (listing : Listing) {i : ι} {r : Request} {later : List Request}

theorem turn_start (w : World ι) (move : Move) (idle : w.clients i = ⟨none, r :: later⟩) :
    w.turn store listing i move = (none, w.set w.machine i ⟨some ⟨r, store.serve r⟩, later⟩) := by
  unfold World.turn
  rw [idle]

theorem turn_end (w : World ι) (move : Move) (reply : Reply Failure r)
    (busy : w.clients i = ⟨some ⟨r, .done reply⟩, later⟩) :
    w.turn store listing i move = (none, w.set w.machine i ⟨none, later⟩) := by
  unfold World.turn
  rw [busy]

theorem turn_answered (w : World ι) (c : Call) (next : Answer c → Action (Reply Failure r))
    (busy : w.clients i = ⟨some ⟨r, .ask c next⟩, later⟩) :
    w.turn store listing i .go = (some ⟨i, r, ⟨c, (listing.answer c w.machine).1⟩⟩,
      w.set (listing.answer c w.machine).2 i ⟨some ⟨r, next (listing.answer c w.machine).1⟩, later⟩) := by
  unfold World.turn
  rw [busy]
  rfl

theorem play_rest (rest : Action (Reply Failure r)) (w : World ι) (busy : w.clients i = ⟨some ⟨r, rest⟩, later⟩) :
    ∃ moves, ∀ schedule, w.play store listing (List.replicate moves (i, .go) ++ schedule) =
      (rest.history listing.answer w.machine).map (⟨i, r, ·⟩) ++
        (w.set (rest.run listing.answer w.machine).2 i ⟨none, later⟩).play store listing schedule := by
  induction rest generalizing w with
  | done reply =>
      refine ⟨1, fun schedule => ?_⟩
      change World.play store listing ((i, .go) :: schedule) w = _
      rw [World.play, turn_end store listing w .go reply busy]
      rfl
  | ask c next ih =>
      obtain ⟨moves, others⟩ := ih (listing.answer c w.machine).1 _ (w.set_same (listing.answer c w.machine).2 i _)
      refine ⟨moves + 1, fun schedule => ?_⟩
      have played := others schedule
      rw [World.set_set] at played
      change World.play store listing ((i, .go) :: _) w = _
      rw [World.play, turn_answered store listing w c next busy]
      exact congrArg (List.cons _) played

theorem play_request (w : World ι) (idle : w.clients i = ⟨none, r :: later⟩) :
    ∃ moves, ∀ schedule, w.play store listing (List.replicate moves (i, .go) ++ schedule) =
      ((store.serve r).history listing.answer w.machine).map (⟨i, r, ·⟩) ++
        (w.set ((store.serve r).run listing.answer w.machine).2 i ⟨none, later⟩).play store listing schedule := by
  obtain ⟨moves, others⟩ :=
    play_rest store listing (store.serve r) _ (w.set_same w.machine i ⟨some ⟨r, store.serve r⟩, later⟩)
  refine ⟨moves + 1, fun schedule => ?_⟩
  have played := others schedule
  rw [World.set_set] at played
  change World.play store listing ((i, .go) :: _) w = _
  rw [World.play, turn_start store listing w .go idle]
  exact played

end Alone

end Overseer.Counter
