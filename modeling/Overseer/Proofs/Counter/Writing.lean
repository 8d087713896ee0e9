import Overseer.Host.Machine
import Overseer.Proofs.Counter.Allocation
import Overseer.Proofs.Text.Numeral

set_option autoImplicit false

namespace Overseer.Counter

open Program (Given Runs leave)
open Text (Numeral.read_word32 Numeral.word32)

inductive Wrote (temporary path : String) (bytes : ByteArray) : List Exchange → Except Refusal Unit → Prop where
  | uncreated (r : Refusal) : Wrote temporary path bytes [⟨.create temporary, .error r⟩] (.error r)
  | unextended (r : Refusal) : Wrote temporary path bytes
      [⟨.create temporary, .ok ()⟩, ⟨.extend temporary bytes, .error r⟩] (.error r)
  | unsynced (r : Refusal) : Wrote temporary path bytes
      [⟨.create temporary, .ok ()⟩, ⟨.extend temporary bytes, .ok ()⟩, ⟨.sync temporary, .error r⟩] (.error r)
  | named (told : Except Refusal Unit) : Wrote temporary path bytes
      [⟨.create temporary, .ok ()⟩, ⟨.extend temporary bytes, .ok ()⟩, ⟨.sync temporary, .ok ()⟩,
        ⟨.rename temporary path, told⟩] told

inductive Updated (store : Store) (id : UInt64) (count : UInt32) : List Exchange → Except Failure Unit → Prop where
  | written (h : List Exchange)
      (wrote : Wrote (store.temporaryPath id) (store.artifactPath id) (Numeral.word32 count).toUTF8 h (.ok ())) :
      Updated store id count h (.ok ())
  | unwritten (h : List Exchange) (r : Refusal) (removed : Except Refusal Unit)
      (wrote : Wrote (store.temporaryPath id) (store.artifactPath id) (Numeral.word32 count).toUTF8 h (.error r)) :
      Updated store id count (h ++ [⟨.remove (store.temporaryPath id), removed⟩])
        (.error (.unwritable (store.artifactPath id) r))

theorem write_course (temporary path : String) (bytes : ByteArray) (h : List Exchange) (r : Except Refusal Unit)
    (run : Runs (Store.write temporary path bytes) h r) : Wrote temporary path bytes h r := by
  obtain ⟨created, rest, rfl, extending⟩ := Program.runs_call_bind run
  cases created with
  | error refusal =>
      obtain ⟨rfl, rfl⟩ := Program.runs_done extending
      exact .uncreated refusal
  | ok done =>
      obtain ⟨extended, rest, rfl, syncing⟩ := Program.runs_call_bind extending
      cases extended with
      | error refusal =>
          obtain ⟨rfl, rfl⟩ := Program.runs_done syncing
          exact .unextended refusal
      | ok done =>
          obtain ⟨synced, rest, rfl, naming⟩ := Program.runs_call_bind syncing
          cases synced with
          | error refusal =>
              obtain ⟨rfl, rfl⟩ := Program.runs_done naming
              exact .unsynced refusal
          | ok done =>
              obtain rfl := Program.runs_call naming
              exact .named r

theorem update_course (store : Store) (id : UInt64) (count : UInt32) (h : List Exchange) (r : Except Failure Unit)
    (run : Runs (store.update id count) h r) : Updated store id count h r := by
  obtain ⟨first, written, second, rfl, writing, ending⟩ := Program.runs_bind run
  have wrote := write_course _ _ _ _ _ writing
  cases written with
  | ok done =>
      obtain ⟨rfl, rfl⟩ := Program.runs_done ending
      rw [List.append_nil]
      exact .written first wrote
  | error refusal =>
      obtain ⟨removed, rest, rfl, failing⟩ := Program.runs_call_bind ending
      obtain ⟨rfl, rfl⟩ := Program.runs_done failing
      exact .unwritten first refusal removed wrote

variable {store : Store} {id : UInt64} {σ : Type}

inductive Aside (store : Store) (id : UInt64) : Host.Call → Prop where
  | look (c : Host.Call) (looks : Looks store c) : Aside store id c
  | create : Aside store id (.create (store.temporaryPath id))
  | extend (bytes : ByteArray) : Aside store id (.extend (store.temporaryPath id) bytes)
  | sync : Aside store id (.sync (store.temporaryPath id))
  | remove : Aside store id (.remove (store.temporaryPath id))
  | isPresent : Aside store id (.isPresent (store.artifactPath id))

-- The two files of a session, and what a file system promises about them in the states where they are sound.
structure Disk (store : Store) (id : UInt64) (σ : Type) where
  answer : (c : Host.Call) → σ → Host.Answer c × σ
  artifact : σ → Option ByteArray
  temporary : σ → Option ByteArray
  Sound : σ → Prop
  aside : ∀ c s, Sound s → Aside store id c → Sound (answer c s).2 ∧ artifact (answer c s).2 = artifact s
  created : ∀ s, Sound s → (answer (.create (store.temporaryPath id)) s).1 = .ok () →
    temporary (answer (.create (store.temporaryPath id)) s).2 = some ByteArray.empty
  extended : ∀ bytes content s, Sound s → temporary s = some content →
    (answer (.extend (store.temporaryPath id) bytes) s).1 = .ok () →
    temporary (answer (.extend (store.temporaryPath id) bytes) s).2 = some (content ++ bytes)
  synced : ∀ s, Sound s → temporary (answer (.sync (store.temporaryPath id)) s).2 = temporary s
  renamed : ∀ s, Sound s → (answer (.rename (store.temporaryPath id) (store.artifactPath id)) s).1 = .ok () →
    Sound (answer (.rename (store.temporaryPath id) (store.artifactPath id)) s).2 ∧
      artifact (answer (.rename (store.temporaryPath id) (store.artifactPath id)) s).2 = temporary s
  unrenamed : ∀ r s, Sound s → (answer (.rename (store.temporaryPath id) (store.artifactPath id)) s).1 = .error r →
    Sound (answer (.rename (store.temporaryPath id) (store.artifactPath id)) s).2 ∧
      artifact (answer (.rename (store.temporaryPath id) (store.artifactPath id)) s).2 = artifact s

theorem begin_course (store : Store) (id : UInt64) (h : List Exchange) (r : Except Failure Unit)
    (run : Runs (store.begin id) h r) :
    ∃ first second, h = first ++ second ∧ (∀ e ∈ first, Aside store id e.1) ∧ Runs (store.update id 0) second r := by
  obtain ⟨present, rest, rfl, warning⟩ := Program.runs_call_bind run
  have seen : Aside store id (.isPresent (store.artifactPath id)) := .isPresent
  cases present with
  | false => exact ⟨[_], rest, rfl, by simp [seen], warning⟩
  | true =>
      obtain ⟨noted, last, rfl, updating⟩ := Program.runs_call_bind warning
      exact ⟨[_, _], last, rfl, by simp [seen, Aside.look _ (.note _)], updating⟩

namespace Disk

variable (disk : Disk store id σ)

def along (τ : Type) : Disk store id (σ × τ) where
  answer c s := ((disk.answer c s.1).1, (disk.answer c s.1).2, s.2)
  artifact s := disk.artifact s.1
  temporary s := disk.temporary s.1
  Sound s := disk.Sound s.1
  aside c s := disk.aside c s.1
  created s := disk.created s.1
  extended bytes content s := disk.extended bytes content s.1
  synced s := disk.synced s.1
  renamed s := disk.renamed s.1
  unrenamed r s := disk.unrenamed r s.1

def after {ε : Type} (bytes : ByteArray) (s : σ) : Except ε Unit → Option ByteArray
  | .ok () => some bytes
  | .error _ => disk.artifact s

def Leaves (s : σ) (artifact : Option ByteArray) : Prop := disk.Sound s ∧ disk.artifact s = artifact

variable {disk} {s : σ} (sound : disk.Sound s)

include sound

theorem leaves_aside (h : List Exchange) (given : Given disk.answer s h) (aside : ∀ e ∈ h, Aside store id e.1) :
    disk.Leaves (leave disk.answer s h) (disk.artifact s) := by
  induction h generalizing s with
  | nil => exact ⟨sound, rfl⟩
  | cons e rest ih =>
      obtain ⟨first, others⟩ := List.forall_mem_cons.mp aside
      obtain ⟨sound', same⟩ := disk.aside e.1 s sound first
      obtain ⟨later, artifact⟩ := ih sound' given.2 others
      exact ⟨later, artifact.trans same⟩

theorem leaves_wrote (bytes : ByteArray) (h : List Exchange) (r : Except Refusal Unit)
    (wrote : Wrote (store.temporaryPath id) (store.artifactPath id) bytes h r) (given : Given disk.answer s h) :
    disk.Leaves (leave disk.answer s h) (disk.after bytes s r) := by
  cases wrote with
  | uncreated r => exact leaves_aside sound _ given (by simp [Aside.create])
  | unextended r => exact leaves_aside sound _ given (by simp [Aside.create, Aside.extend])
  | unsynced r => exact leaves_aside sound _ given (by simp [Aside.create, Aside.extend, Aside.sync])
  | named =>
      obtain ⟨creating, extending, syncing, naming, -⟩ := given
      obtain ⟨first, one⟩ := disk.aside _ _ sound .create
      obtain ⟨second, two⟩ := disk.aside _ _ first (.extend bytes)
      obtain ⟨third, three⟩ := disk.aside _ _ second .sync
      cases r with
      | ok done =>
          have filled := disk.extended bytes .empty _ first (disk.created s sound creating) extending
          rw [ByteArray.empty_append] at filled
          obtain ⟨later, artifact⟩ := disk.renamed _ third naming
          exact ⟨later, artifact.trans ((disk.synced _ second).trans filled)⟩
      | error r =>
          obtain ⟨later, artifact⟩ := disk.unrenamed r _ third naming
          exact ⟨later, artifact.trans (three.trans (two.trans one))⟩

theorem leaves_updated (count : UInt32) (h : List Exchange) (r : Except Failure Unit)
    (updated : Updated store id count h r) (given : Given disk.answer s h) :
    disk.Leaves (leave disk.answer s h) (disk.after (Numeral.word32 count).toUTF8 s r) := by
  cases updated with
  | written h wrote => exact leaves_wrote sound _ h _ wrote given
  | unwritten h r removed wrote =>
      obtain ⟨writing, removing⟩ := (Program.given_append disk.answer s h _).mp given
      obtain ⟨between, kept⟩ := leaves_wrote sound _ h _ wrote writing
      obtain ⟨later, artifact⟩ := leaves_aside between _ removing (by simp [Aside.remove])
      rw [Program.leave_append]
      exact ⟨later, artifact.trans kept⟩

theorem leaves_update (count : UInt32) :
    disk.Leaves ((store.update id count).run disk.answer s).2
      (disk.after (Numeral.word32 count).toUTF8 s ((store.update id count).run disk.answer s).1) := by
  rw [← Program.leave_history]
  exact leaves_updated sound count _ _ (update_course store id count _ _ (Program.runs_history disk.answer _ s))
    (Program.history_given disk.answer _ s)

-- A session begins with the count 0, whether or not an artifact was there.
theorem leaves_begin :
    disk.Leaves ((store.begin id).run disk.answer s).2
      (disk.after (Numeral.word32 0).toUTF8 s ((store.begin id).run disk.answer s).1) := by
  have run := Program.runs_history disk.answer (store.begin id) s
  have given := Program.history_given disk.answer (store.begin id) s
  rw [← Program.leave_history]
  obtain ⟨first, second, split, aside, updating⟩ := begin_course store id _ _ run
  rw [split] at given ⊢
  obtain ⟨before, after⟩ := (Program.given_append disk.answer s first second).mp given
  obtain ⟨between, kept⟩ := leaves_aside sound first before aside
  obtain ⟨later, artifact⟩ := leaves_updated between 0 second _ (update_course store id 0 second _ updating) after
  rw [Program.leave_append]
  refine ⟨later, artifact.trans ?_⟩
  cases ((store.begin id).run disk.answer s).1 with
  | ok done => rfl
  | error f => exact kept

end Disk

def counted (store : Store) (id : UInt64) (content : Option ByteArray) : Option UInt32 :=
  content.bind fun bytes => (countOf (store.artifactPath id) bytes).toOption

theorem count_of_numeral (path : String) (count : UInt32) : countOf path (Numeral.word32 count).toUTF8 = .ok count := by
  have text : String.fromUTF8? (Numeral.word32 count).toUTF8 = some (Numeral.word32 count) := by
    exact dif_pos (Numeral.word32 count).isValidUTF8
  rw [countOf, text]
  simp only [Text.trim_word32, Numeral.read_word32]

theorem counted_numeral (count : UInt32) : counted store id (some (Numeral.word32 count).toUTF8) = some count := by
  change (countOf _ (Numeral.word32 count).toUTF8).toOption = _
  rw [count_of_numeral]
  rfl

end Overseer.Counter
