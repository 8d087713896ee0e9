import Overseer.Proofs.Counter.Looking
import Overseer.Proofs.Counter.Request
/-!
How a request may use a directory that it does not have to itself. It writes to the temporary of its own
session only, gives it the artifact's name when the whole count is in it, and reads nothing but artifacts.
Whatever they are answered, the store's programs keep to this.
-/
set_option autoImplicit false

namespace Overseer.Counter

open Files (Name Path)
open Host (Action Answer Call)
open Text (Numeral.word32)

namespace Request

def count? (id : UInt64) : Request → Option UInt32
  | .begin own => if own = id then some 0 else none
  | .update own count => if own = id then some count else none
  | _ => none

def Reads (id : UInt64) : Request → Prop
  | .read own => own = id
  | .list => True
  | _ => False

end Request

theorem counts_one (r : Request) (id other : UInt64) (count : UInt32) (writes : r.count? id = some count)
    (different : other ≠ id) : r.count? other = none := by
  cases r with
  | begin own =>
      obtain ⟨rfl, -⟩ := Option.ite_none_right_eq_some.mp writes
      exact if_neg different.symm
  | update own k =>
      obtain ⟨rfl, -⟩ := Option.ite_none_right_eq_some.mp writes
      exact if_neg different.symm
  | _ => cases writes

-- How far the write of a request has come, and what its temporary holds by then.
inductive Stage where
  | unwritten
  | holding (content : ByteArray)
  | synced (content : ByteArray)
  | settled

namespace Stage

def extend (bytes : ByteArray) : Stage → Stage
  | .holding content => .holding (content ++ bytes)
  | stage => stage

def sync : Stage → Stage
  | .holding content => .synced content
  | stage => stage

def after (stage : Stage) : (c : Call) → Answer c → Stage
  | .create _, .ok _ => .holding ByteArray.empty
  | .extend _ bytes, .ok _ => stage.extend bytes
  | .sync _, .ok _ => stage.sync
  | .rename _ _, _ => .settled
  | .create _, .error _ => .settled
  | .extend _ _, .error _ => .settled
  | .sync _, .error _ => .settled
  | _, _ => stage

def owed (r : Request) (id : UInt64) : Stage → List UInt32
  | .settled => []
  | _ => (r.count? id).toList

end Stage

inductive Glances (store : Store) (r : Request) : Call → Prop where
  | look (c : Call) (looks : Looks store c) : Glances store r c
  | present (path : String) : Glances store r (.isPresent path)
  | read (id : UInt64) (reads : r.Reads id) : Glances store r (.read (store.artifactPath id))

inductive May (store : Store) (r : Request) : Stage → Call → Prop where
  | glance {stage : Stage} {c : Call} (glances : Glances store r c) : May store r stage c
  | create (id : UInt64) (count : UInt32) (writes : r.count? id = some count) :
      May store r .unwritten (.create (store.temporaryPath id))
  | extend (id : UInt64) (count : UInt32) (writes : r.count? id = some count) (content bytes : ByteArray) :
      May store r (.holding content) (.extend (store.temporaryPath id) bytes)
  | sync (id : UInt64) (count : UInt32) (writes : r.count? id = some count) (content : ByteArray) :
      May store r (.holding content) (.sync (store.temporaryPath id))
  | rename (id : UInt64) (count : UInt32) (writes : r.count? id = some count) :
      May store r (.synced (Numeral.word32 count).toUTF8) (.rename (store.temporaryPath id) (store.artifactPath id))
  | remove (id : UInt64) (count : UInt32) (writes : r.count? id = some count) :
      May store r .settled (.remove (store.temporaryPath id))

-- Every name that is taken for an artifact's is the one that the store gives it.
def Canonical (stem : String) : (c : Call) → Answer c → Prop
  | .list _, .ok names => ∀ a ∈ found stem names, a.name = artifactName stem a.id
  | _, _ => True

-- A program that does at every stage what it may do there.
inductive Careful {α : Type} (store : Store) (r : Request) : Stage → Action α → Prop where
  | done {stage : Stage} (result : α) : Careful store r stage (.done result)
  | ask {stage : Stage} {c : Call} {next : Answer c → Action α} (may : May store r stage c)
      (later : ∀ told, Canonical store.stem c told → Careful store r (stage.after c told) (next told)) :
      Careful store r stage (.ask c next)

variable {store : Store} {r : Request} {stage : Stage} {α : Type}

theorem careful_note (level : Level) (text : String) (rest : Action α) (careful : Careful store r stage rest) :
    Careful store r stage ((Host.note level text).bind fun _ => rest) :=
  .ask (.glance (.look _ (.note _))) fun _ _ => careful

theorem careful_notes (level : Level) (text : String → String) (names : List String) (rest : Action α)
    (careful : Careful store r stage rest) :
    Careful store r stage ((names.forM fun name => Host.note level (text name)).bind fun _ => rest) := by
  induction names with
  | nil => exact careful
  | cons name names ih => exact .ask (.glance (.look _ (.note _))) fun _ _ => ih

theorem careful_artifacts (rest : Except Failure (List Found) → Action α)
    (careful : ∀ told, (∀ all, told = .ok all → ∀ a ∈ all, a.name = artifactName store.stem a.id) →
      Careful store r stage (rest told)) :
    Careful store r stage (store.artifacts.bind rest) := by
  refine .ask (.glance (.look _ .list)) fun told canonical => ?_
  cases told with
  | error refusal =>
      apply careful
      intro all same
      split at same
      · obtain rfl := Except.ok.inj same
        exact List.forall_mem_nil _
      · cases same
  | ok names =>
      change Careful store r stage (Program.bind (Program.bind
        (List.forM (foreign store.stem names) fun name => Host.note .trace ("Ignoring non-counter entry " ++ name))
        fun _ => .done (.ok (sorted store.stem names))) rest)
      rw [Program.bind_assoc]
      apply careful_notes
      apply careful
      rintro all ⟨⟩ a member
      exact canonical a (List.mem_mergeSort.mp member)

theorem careful_allocate : Careful store r stage store.allocate := by
  refine .ask (.glance (.look _ .makePath)) fun told _ => ?_
  cases told with
  | error refusal => exact .done _
  | ok made =>
      apply careful_artifacts
      intro told _
      cases told with
      | error f => exact .done _
      | ok sorted =>
          dsimp only
          split
          · exact .done _
          · exact careful_note _ _ _ (.done _)

theorem careful_update {id : UInt64} {count : UInt32} (writes : r.count? id = some count) :
    Careful store r .unwritten (store.update id count) := by
  have removing (refusal : Refusal) : Careful store r .settled ((Host.ask (.remove (store.temporaryPath id))).bind
      fun _ => .done (.error (Failure.unwritable (store.artifactPath id) refusal)) : Action (Except Failure Unit)) :=
    .ask (.remove id count writes) fun _ _ => .done _
  refine .ask (.create id count writes) fun created _ => ?_
  cases created with
  | error refusal => exact removing refusal
  | ok empty =>
      refine .ask (.extend id count writes _ _) fun extended _ => ?_
      cases extended with
      | error refusal => exact removing refusal
      | ok whole =>
          change Careful store r (.holding (ByteArray.empty ++ _)) _
          rw [ByteArray.empty_append]
          refine .ask (.sync id count writes _) fun synced _ => ?_
          cases synced with
          | error refusal => exact removing refusal
          | ok kept =>
              refine .ask (.rename id count writes) fun renamed _ => ?_
              cases renamed with
              | error refusal => exact removing refusal
              | ok named => exact .done _

theorem careful_begin {id : UInt64} (writes : r.count? id = some 0) :
    Careful store r .unwritten (store.begin id) := by
  refine .ask (.glance (.present _)) fun present _ => ?_
  cases present with
  | false => exact careful_update writes
  | true => exact careful_note _ _ _ (careful_update writes)

theorem careful_read_at {id : UInt64} (reads : r.Reads id) (path : String) (own : path = store.artifactPath id)
    (rest : Except Failure UInt32 → Action α) (careful : ∀ told, Careful store r stage (rest told)) :
    Careful store r stage ((Store.readAt path).bind rest) := by
  subst own
  refine .ask (.glance (.read id reads)) fun told _ => ?_
  cases told with
  | error refusal => exact careful _
  | ok bytes => exact careful _

theorem careful_read {id : UInt64} (reads : r.Reads id) : Careful store r stage (store.read id) := by
  have reading (path : String) (own : path = store.artifactPath id) : Careful store r stage (Store.readAt path) := by
    rw [← Program.bind_done (Store.readAt path)]
    exact careful_read_at reads path own _ fun _ => .done _
  apply careful_artifacts
  intro told canonical
  cases told with
  | error f => exact .done _
  | ok all =>
      dsimp only
      split
      · next a found =>
          have same : a.id = id := by simpa using List.find?_some found
          apply reading
          rw [canonical all rfl a (List.mem_of_find?_eq_some found), same]
          rfl
      · exact reading _ rfl

theorem careful_each (reads : ∀ id, r.Reads id) (all : List Found)
    (canonical : ∀ a ∈ all, a.name = artifactName store.stem a.id)
    (rest : Except Failure (List (UInt64 × UInt32)) → Action α)
    (careful : ∀ told, Careful store r stage (rest told)) :
    Careful store r stage ((store.readEach all).bind rest) := by
  induction all generalizing rest with
  | nil => exact careful _
  | cons a all ih =>
      obtain ⟨own, others⟩ := List.forall_mem_cons.mp canonical
      rw [Store.readEach, Program.bind_eq, Program.bind_assoc]
      apply careful_read_at (reads a.id) _ (congrArg (Path.join store.directory) own)
      intro told
      cases told with
      | error f => exact careful _
      | ok count =>
          change Careful store r stage (Program.bind (Program.bind (store.readEach all) _) _)
          rw [Program.bind_assoc]
          apply ih others
          intro told
          cases told with
          | error f => exact careful _
          | ok counts => exact careful _

theorem careful_list (reads : ∀ id, r.Reads id) : Careful store r stage store.list := by
  apply careful_artifacts
  intro told canonical
  cases told with
  | error f => exact .done _
  | ok all =>
      dsimp only
      rw [← Program.bind_done (store.readEach all)]
      exact careful_each reads all (canonical all rfl) _ fun _ => .done _

theorem careful_serve (store : Store) (r : Request) : Careful store r .unwritten (store.serve r) := by
  cases r with
  | allocate => exact careful_allocate
  | begin id => exact careful_begin (if_pos rfl)
  | update id count => exact careful_update (if_pos rfl)
  | read id => exact careful_read rfl
  | list => exact careful_list fun _ => trivial

end Overseer.Counter
