import Overseer.Proofs.Counter.Housed
import Overseer.Proofs.Session.Watch

set_option autoImplicit false

namespace Overseer.Session

open Counter (Disk Failure counted)

variable {store : Counter.Store} {id : UInt64} {σ : Type}

-- The collaborators of a session: the store on its disk, and others that leave its two files sound and the artifact as
-- it is.
structure Stored (store : Counter.Store) (id : UInt64) (σ : Type) where
  disk : Disk store id σ
  others : (c : Call) → σ → Answer c × σ
  apart : ∀ c s, disk.Sound s → disk.Leaves (others c s).2 (disk.artifact s)

namespace Stored

variable (stored : Stored store id σ)

def told {α : Type} (ended : Except Failure α × σ) : Except Fault α × σ :=
  (ended.1.mapError Failure.fault, ended.2)

def answer : (c : Call) → σ → Answer c × σ
  | .allocate, s => told (store.allocate.run stored.disk.answer s)
  | .begin own, s =>
    if own = id then told ((store.begin id).run stored.disk.answer s) else stored.others (.begin own) s
  | .update own count, s =>
    if own = id then told ((store.update id count).run stored.disk.answer s)
    else stored.others (.update own count) s
  | .log message, s => stored.others (.log message) s
  | .attempt, s => stored.others .attempt s
  | .notify own count, s => stored.others (.notify own count) s
  | .stopRequested, s => stored.others .stopRequested s
  | .note record, s => stored.others (.note record) s

def count (s : σ) : Option UInt32 := counted store id (stored.disk.artifact s)

theorem written_begin (own : UInt64) (told : Except Fault Unit) :
    written id ⟨.begin own, told⟩ = written id ⟨.update own 0, told⟩ := by
  cases told <;> rfl

theorem written_other (own : UInt64) (count : UInt32) (told : Except Fault Unit) (other : own ≠ id) :
    written id ⟨.update own count, told⟩ = none := by
  cases told with
  | error f => rfl
  | ok done => exact if_neg other

def Keeps (c : Call) (s : σ) : Prop :=
  stored.disk.Sound (stored.answer c s).2 ∧
    stored.count (stored.answer c s).2 = (written id ⟨c, (stored.answer c s).1⟩).or (stored.count s)

section Sound

variable {stored} {s : σ} (sound : stored.disk.Sound s)

include sound

theorem others_keep (c : Call) : stored.disk.Sound (stored.others c s).2 ∧ stored.count (stored.others c s).2 = stored.count s := by
  obtain ⟨later, artifact⟩ := stored.apart c s sound
  exact ⟨later, congrArg (counted store id) artifact⟩

theorem allocate_keeps : stored.Keeps .allocate s := by
  have run := Program.runs_history stored.disk.answer store.allocate s
  have given := Program.history_given stored.disk.answer store.allocate s
  have looks := (Counter.allocate_course _ _ run).1
  obtain ⟨later, artifact⟩ := Disk.leaves_aside sound _ given fun e member => .look e.1 (looks e member)
  rw [Program.leave_history] at later artifact
  exact ⟨later, congrArg (counted store id) artifact⟩

omit sound in
theorem count_told (count : UInt32) (ended : Except Failure Unit × σ)
    (wrote : stored.disk.artifact ended.2 = stored.disk.after (Text.Numeral.word32 count).toUTF8 s ended.1) :
    stored.count ended.2 = (written id ⟨.update id count, (told ended).1⟩).or (stored.count s) := by
  obtain ⟨r, after⟩ := ended
  unfold Stored.count
  rw [wrote]
  cases r with
  | error f => rfl
  | ok done =>
      rw [Disk.after, Counter.counted_numeral]
      change some count = (written id ⟨.update id count, .ok ()⟩).or _
      simp [written]

theorem answer_keeps (c : Call) : stored.Keeps c s := by
  cases c with
  | allocate => exact allocate_keeps sound
  | begin own =>
      unfold Keeps
      by_cases same : own = id
      · subst same
        simp only [Stored.answer, if_true, written_begin]
        obtain ⟨later, artifact⟩ := Disk.leaves_begin sound
        exact ⟨later, count_told 0 _ artifact⟩
      · simp only [Stored.answer, same, if_false, written_begin, written_other own 0 _ same]
        exact others_keep sound (.begin own)
  | update own count =>
      unfold Keeps
      by_cases same : own = id
      · subst same
        simp only [Stored.answer, if_true]
        obtain ⟨later, artifact⟩ := Disk.leaves_update sound count
        exact ⟨later, count_told count _ artifact⟩
      · simp only [Stored.answer, same, if_false, written_other own count _ same]
        exact others_keep sound (.update own count)
  | log message => exact others_keep sound (.log message)
  | attempt => exact others_keep sound .attempt
  | notify own count => exact others_keep sound (.notify own count)
  | stopRequested => exact others_keep sound .stopRequested
  | note record => exact others_keep sound (.note record)

end Sound

def watch : Watch { s // stored.disk.Sound s } where
  answer c s := ((stored.answer c s.1).1, ⟨(stored.answer c s.1).2, (answer_keeps s.2 c).1⟩)
  id := id
  count s := stored.count s.1
  keeps c s := (answer_keeps s.2 c).2

theorem allocating (s : { s // stored.disk.Sound s }) : ∃ calls found, Program.Runs store.allocate calls found ∧
    (stored.watch.answer .allocate s).1 = found.mapError Failure.fault :=
  ⟨_, _, Program.runs_history stored.disk.answer store.allocate s.1, rfl⟩

def obliging (listing : Host.Listing) (plain : Counter.Stem store.stem) (id : UInt64) (script : Nat → Workload.Verdict) :
    Stored store id (Host.Machine × Nat) where
  disk := (Disk.machine listing plain id).along Nat
  others c s := ((Session.obliging script c s.2).1, s.1, (Session.obliging script c s.2).2)
  apart _ _ sound := ⟨sound, rfl⟩

end Stored

def stubborn : Stored ⟨"counters", "failures_"⟩ 1 (Host.Machine × Nat) :=
  .obliging .plain Counter.failures_stem 1 fun _ => .failure

end Overseer.Session
