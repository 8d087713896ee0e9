import Overseer.Proofs.Session.Watch

set_option autoImplicit false

namespace Overseer.Session

variable {σ : Type}

def increments (h : History) : List String := (lines h).filter isIncrement

def firstIncrements (n : Nat) : List String :=
  (List.range n).map fun k => incrementMessage (UInt32.ofNat (k + 1))

structure Tally where
  count : Option UInt32
  increments : List String
  attempts : Nat

namespace Tally

def after (id : UInt64) (t : Tally) (e : Exchange) : Tally where
  count := (written id e).or t.count
  increments := t.increments ++ (lineOf e).toList.filter isIncrement
  attempts := t.attempts + if e.1 = .attempt then 1 else 0

-- The three tallies between which the loop moves: n failures are recorded; the next attempt was
-- made; its failure is in the counter and not yet in the log.
def level (n : UInt32) : Tally := ⟨some n, firstIncrements n.toNat, n.toNat⟩

def trying (n : UInt32) : Tally := ⟨some n, firstIncrements n.toNat, n.toNat + 1⟩

def ahead (n : UInt32) : Tally := ⟨some (n + 1), firstIncrements n.toNat, n.toNat + 1⟩

def InStep (t : Tally) : Prop :=
  ∃ count, t.count = some count ∧ t.increments.length ≤ count.toNat ∧
    count.toNat ≤ t.increments.length + 1 ∧ t.increments = firstIncrements t.increments.length

def Balanced (t : Tally) : Prop :=
  ∃ count, t.count = some count ∧ count.toNat = t.increments.length ∧ count.toNat = t.attempts

def Grows (a b : Option UInt32) : Prop :=
  b = a ∨ ∃ count, a = some count ∧ b = some (count + 1) ∧ (count + 1).toNat = count.toNat + 1

def Along (id : UInt64) : Tally → History → Prop
  | t, [] => t.InStep
  | t, e :: rest => t.InStep ∧ (e.1 = .attempt → t.Balanced) ∧ Grows t.count (t.after id e).count ∧
      Along id (t.after id e) rest

end Tally

open Tally

theorem first_increments_length (n : Nat) : (firstIncrements n).length = n := by
  simp [firstIncrements]

theorem first_increments_succ (n : Nat) :
    firstIncrements (n + 1) = firstIncrements n ++ [incrementMessage (UInt32.ofNat (n + 1))] := by
  simp [firstIncrements, List.range_succ]

theorem level_in_step (n : UInt32) : (level n).InStep := by
  refine ⟨n, rfl, ?_, ?_, ?_⟩ <;> simp [level, first_increments_length]

theorem trying_in_step (n : UInt32) : (trying n).InStep := level_in_step n

theorem ahead_in_step (n : UInt32) (grows : (n + 1).toNat = n.toNat + 1) : (ahead n).InStep := by
  refine ⟨n + 1, rfl, ?_, ?_, ?_⟩ <;> simp only [ahead, first_increments_length] <;> omega

theorem along_in_step (id : UInt64) (t : Tally) (h : History) (along : Along id t h) : t.InStep := by
  cases h with
  | nil => exact along
  | cons e rest => exact along.1

def Quiet (id : UInt64) (e : Exchange) : Prop :=
  written id e = none ∧ (lineOf e).toList.filter isIncrement = [] ∧ e.1 ≠ .attempt

theorem quiet_after (id : UInt64) (t : Tally) (e : Exchange) (quiet : Quiet id e) : t.after id e = t := by
  obtain ⟨unwritten, unsaid, other⟩ := quiet
  simp [Tally.after, unwritten, unsaid, other]

theorem along_quiet (id : UInt64) (t : Tally) (e : Exchange) (rest : History) (quiet : Quiet id e)
    (along : Along id t rest) : Along id t (e :: rest) := by
  have same := quiet_after id t e quiet
  refine ⟨along_in_step id t rest along, fun attempt => absurd attempt quiet.2.2, ?_, ?_⟩
  · rw [same]
    exact .inl rfl
  · rw [same]
    exact along

theorem along_attempt (id : UInt64) (n : UInt32) (verdict : Answer .attempt) (rest : History)
    (along : Along id (trying n) rest) : Along id (level n) (⟨.attempt, verdict⟩ :: rest) := by
  have next : (level n).after id ⟨.attempt, verdict⟩ = trying n := by
    simp [Tally.after, level, trying, written, lineOf]
  refine ⟨level_in_step n, fun _ => ⟨n, rfl, ?_, rfl⟩, ?_, ?_⟩
  · simp [level, first_increments_length]
  · exact .inl (by rw [next]; rfl)
  · rw [next]
    exact along

theorem along_saved (n : UInt32) (s : Session) (rest : History) (failures : s.failures = n + 1)
    (grows : (n + 1).toNat = n.toNat + 1) (along : Along s.id (ahead n) rest) :
    Along s.id (trying n) (saved s :: rest) := by
  have next : (trying n).after s.id (saved s) = ahead n := by
    simp [Tally.after, trying, ahead, saved, written, lineOf, failures]
  refine ⟨trying_in_step n, fun attempt => (by cases attempt), ?_, ?_⟩
  · rw [next]
    exact .inr ⟨n, rfl, rfl, grows⟩
  · rw [next]
    exact along

theorem along_increment (id : UInt64) (n : UInt32) (rest : History) (grows : (n + 1).toNat = n.toNat + 1)
    (along : Along id (level (n + 1)) rest) :
    Along id (ahead n) (logged (incrementMessage (n + 1)) :: rest) := by
  have number : UInt32.ofNat (n.toNat + 1) = n + 1 := by rw [← grows, UInt32.ofNat_toNat]
  have next : (ahead n).after id (logged (incrementMessage (n + 1))) = level (n + 1) := by
    simp [Tally.after, ahead, level, logged, written, lineOf, increment_is_increment, grows,
      first_increments_succ, number]
  refine ⟨ahead_in_step n grows, fun attempt => (by cases attempt), ?_, ?_⟩
  · exact .inl (by rw [next]; rfl)
  · rw [next]
    exact along

theorem quiet_noted (id : UInt64) (level : Overseer.Level) (text : String) : Quiet id (noted level text) :=
  ⟨rfl, rfl, by simp [noted]⟩

theorem quiet_logged (id : UInt64) (message : String) (other : isIncrement message = false) :
    Quiet id (logged message) :=
  ⟨rfl, by simp [logged, lineOf, other], by simp [logged]⟩

theorem quiet_lost (id : UInt64) (message : String) (f : Fault) : Quiet id (lost message f) :=
  ⟨rfl, rfl, by simp [lost]⟩

theorem quiet_told (id : UInt64) (message : String) (told : Except Fault Unit)
    (other : isIncrement message = false) : Quiet id ⟨.log message, told⟩ := by
  cases told with
  | error f => exact quiet_lost id message f
  | ok done => exact quiet_logged id message other

theorem quiet_stop (id : UInt64) (stopping : Bool) : Quiet id ⟨.stopRequested, stopping⟩ :=
  ⟨rfl, rfl, by simp⟩

theorem quiet_notify (id : UInt64) (own : UInt64) (count : UInt32) (sent : Except Fault Unit) :
    Quiet id ⟨.notify own count, sent⟩ :=
  ⟨rfl, rfl, by simp⟩

theorem quiet_unsaved (id own : UInt64) (count : UInt32) (f : Fault) :
    Quiet id ⟨.update own count, .error f⟩ :=
  ⟨rfl, rfl, by simp⟩

-- A stretch of a run after which the rest begins with the tally `t`.
theorem along_quiets (id : UInt64) (t : Tally) (h rest : History) (quiet : ∀ e ∈ h, Quiet id e)
    (along : Along id t rest) : Along id t (h ++ rest) := by
  induction h with
  | nil => exact along
  | cons e later ih =>
      obtain ⟨first, others⟩ := List.forall_mem_cons.mp quiet
      exact along_quiet id t e (later ++ rest) first (ih others)

theorem along_failing (s : Session) (rest : History) (along : Along s.id (trying s.failures) rest) :
    Along s.id (level s.failures) (failing s ++ rest) := by
  apply along_quiet _ _ _ _ (quiet_stop s.id false)
  apply along_attempt
  exact along_quiet _ _ _ _ (quiet_noted _ _ _) along

theorem along_unrecorded (s : Session) (room : s.HasRoom) (h rest : History) (f : Fault)
    (record : Recorded s.failed h (.error f)) (quiet : ∀ e ∈ rest, Quiet s.id e) :
    Along s.id (trying s.failures) (h ++ rest) := by
  have grows := failures_failed room
  have ends (t : Tally) (steady : t.InStep) : Along s.id t rest := by
    simpa using along_quiets s.id t rest [] quiet steady
  cases record with
  | unsaved =>
      exact along_quiet _ _ _ _ (quiet_unsaved _ _ _ f) (ends _ (trying_in_step _))
  | uncounted =>
      apply along_saved s.failures s.failed _ rfl grows
      exact along_quiet _ _ _ _ (quiet_lost _ _ f) (ends _ (ahead_in_step _ grows))
  | unfinished =>
      apply along_saved s.failures s.failed _ rfl grows
      apply along_increment _ _ _ grows
      exact along_quiet _ _ _ _ (quiet_lost _ _ f) (ends _ (level_in_step _))

theorem along_recorded (s : Session) (room : s.HasRoom) (rest : History)
    (along : Along s.id (level s.failed.failures) rest) :
    Along s.id (trying s.failures) (recorded s.failed ++ rest) := by
  have grows := failures_failed room
  apply along_saved s.failures s.failed _ rfl grows
  apply along_increment _ _ _ grows
  exact along_quiet _ _ _ _ (quiet_logged _ _ restart_not_increment) along

theorem escalated_quiet (id : UInt64) (s : Session) (h : History) (told : Except Fault Unit)
    (escalated : Escalated s h told) : ∀ e ∈ h, Quiet id e := by
  have announced := escalation_not_increment s.failures
  cases escalated with
  | unannounced f => simp [quiet_lost]
  | delivered => simp [quiet_logged, quiet_notify, announced]
  | undelivered f told =>
      simp [quiet_logged, quiet_notify, quiet_noted, quiet_told, announced, undelivered_not_increment]

theorem attempted_along (s : Session) (room : s.HasRoom) (h rest : History) (r : Except Fault Report)
    (attempted : Attempted s h r) (quiet : ∀ e ∈ rest, Quiet s.id e) :
    Along s.id (level s.failures) (h ++ rest) := by
  induction attempted with
  | stopped s =>
      have quiets := List.forall_mem_cons.mpr ⟨quiet_stop s.id true, quiet⟩
      simpa using along_quiets s.id _ _ [] quiets (level_in_step s.failures)
  | broken s f =>
      apply along_quiet _ _ _ _ (quiet_stop s.id false)
      apply along_attempt
      simpa using along_quiets s.id _ rest [] quiet (trying_in_step s.failures)
  | passed s =>
      apply along_quiet _ _ _ _ (quiet_stop s.id false)
      apply along_attempt
      apply along_quiet _ _ _ _ (quiet_noted _ _ _)
      simpa using along_quiets s.id _ rest [] quiet (trying_in_step s.failures)
  | unrecorded s f h record =>
      rw [List.append_assoc]
      exact along_failing s _ (along_unrecorded s room h rest f record quiet)
  | again s h r more later ih =>
      rw [List.append_assoc, List.append_assoc]
      apply along_failing
      apply along_recorded s room
      exact along_quiet _ _ _ _ (quiet_noted _ _ _) (ih (.inr more) quiet)
  | exhausted s h told full escalation =>
      rw [List.append_assoc, List.append_assoc]
      apply along_failing
      apply along_recorded s room
      apply along_quiet _ _ _ _ (quiet_noted _ _ _)
      have quiets := List.forall_mem_append.mpr ⟨escalated_quiet s.id _ h told escalation, quiet⟩
      simpa using along_quiets s.id _ _ [] quiets (level_in_step s.failed.failures)

theorem closing_quiet (id : UInt64) (line : String) (told : Except Fault Unit) (notes : History)
    (closing : IsClosing line) (quiet : ∀ e ∈ notes, IsNote e) :
    ∀ e ∈ (⟨.log line, told⟩ : Exchange) :: notes, Quiet id e := by
  refine List.forall_mem_cons.mpr ⟨quiet_told id line told (closing_not_increment line closing), ?_⟩
  rintro ⟨c, x⟩ member
  obtain ⟨diagnostic, rfl⟩ := quiet _ member
  exact quiet_noted id diagnostic.level diagnostic.text

theorem begin_not_quiet (id : UInt64) : ¬Quiet id ⟨.begin id, .ok ()⟩ := by
  intro quiet
  have unwritten := quiet.1
  simp [written] at unwritten

theorem driven_along (own id : UInt64) (ceiling : UInt32) (body closing : History) (r : Except Fault Report)
    (driven : Driven own ceiling body r) (quiet : ∀ e ∈ closing, Quiet id e)
    (begun : ⟨.begin id, .ok ()⟩ ∈ body ++ closing) :
    own = id ∧ ∃ rest, body ++ closing = ⟨.begin id, .ok ()⟩ :: rest ∧ Along id (level 0) rest := by
  have inside : ⟨.begin id, .ok ()⟩ ∈ body := by
    rcases List.mem_append.mp begun with inside | outside
    · exact inside
    · exact absurd (quiet _ outside) (begin_not_quiet id)
  cases driven with
  | unbegun f => simp at inside
  | unstarted f =>
      have same : own = id := by simpa [lost, eq_comm] using inside
      subst same
      refine ⟨rfl, _, rfl, along_quiet _ _ _ _ (quiet_lost _ _ f) ?_⟩
      simpa using along_quiets own _ closing [] quiet (level_in_step 0)
  | started h r attempted =>
      have same : own = id := by
        rcases List.mem_append.mp inside with first | later
        · simpa [opening, logged, moved, noted, eq_comm] using first
        · have within : Within own (.begin id) := attempted_within attempted _ later
          cases within
      subst same
      refine ⟨rfl, _, rfl, along_quiet _ _ _ _ (quiet_logged _ _ start_not_increment) ?_⟩
      apply along_quiet _ _ _ _ (quiet_noted _ _ _)
      exact attempted_along ⟨own, 0, ceiling⟩ (.inl rfl) h closing r attempted quiet

theorem supervised_along (id : UInt64) (ceiling : UInt32) (body : History) (line : String) (told : Except Fault Unit)
    (notes : History) (r : Except Fault Report) (supervised : Supervised ceiling body line told notes r)
    (quiet : ∀ e ∈ notes, IsNote e) (begun : ⟨.begin id, .ok ()⟩ ∈ body ++ ⟨.log line, told⟩ :: notes) :
    ∃ rest, body ++ ⟨.log line, told⟩ :: notes = ⟨.allocate, .ok id⟩ :: ⟨.begin id, .ok ()⟩ :: rest ∧
      Along id (level 0) rest := by
  have closing := closing_quiet id line told notes (supervised_line ceiling body line told notes r supervised) quiet
  cases supervised with
  | unallocated f =>
      rcases List.mem_cons.mp begun with first | later
      · cases first
      · exact absurd (closing _ later) (begin_not_quiet id)
  | faulted own f body told notes driven =>
      rcases List.mem_cons.mp begun with first | later
      · cases first
      · obtain ⟨rfl, rest, eq, along⟩ := driven_along own id ceiling body _ _ (driven_course driven) closing later
        exact ⟨rest, by rw [List.cons_append, eq], along⟩
  | finished own report body told notes driven =>
      rcases List.mem_cons.mp begun with first | later
      · cases first
      · obtain ⟨rfl, rest, eq, along⟩ := driven_along own id ceiling body _ _ (driven_course driven) closing later
        exact ⟨rest, by rw [List.cons_append, eq], along⟩

def tally (id : UInt64) (t : Tally) (h : History) : Tally := h.foldl (Tally.after id) t

theorem along_append (id : UInt64) (t : Tally) (a b : History) (along : Along id t (a ++ b)) :
    Along id (tally id t a) b := by
  induction a generalizing t with
  | nil => exact along
  | cons e rest ih => exact ih (t.after id e) along.2.2.2

theorem tally_count (id : UInt64) (t : Tally) (h : History) : (tally id t h).count = kept id t.count h := by
  induction h generalizing t with
  | nil => rfl
  | cons e rest ih => exact ih (t.after id e)

theorem tally_increments (id : UInt64) (t : Tally) (h : History) :
    (tally id t h).increments = t.increments ++ increments h := by
  induction h generalizing t with
  | nil => simp [tally, increments, lines]
  | cons e rest ih =>
      have line : increments (e :: rest) = (lineOf e).toList.filter isIncrement ++ increments rest := by
        cases same : lineOf e with
        | none => simp [increments, lines, same]
        | some message =>
            by_cases counted : isIncrement message = true <;> simp [increments, lines, same, counted]
      rw [line, ← List.append_assoc]
      exact ih (t.after id e)

theorem tally_attempts (id : UInt64) (t : Tally) (h : History) :
    (tally id t h).attempts = t.attempts + (asked h).count .attempt := by
  induction h generalizing t with
  | nil => rfl
  | cons e rest ih =>
      have step := ih (t.after id e)
      have tried : (asked (e :: rest)).count .attempt =
          (if e.1 = .attempt then 1 else 0) + (asked rest).count .attempt := by
        by_cases attempt : e.1 = .attempt <;> simp [asked, attempt, Nat.add_comm]
      rw [tried, ← Nat.add_assoc]
      exact step

def tallied (w : Watch σ) (s : σ) (before : History) : Tally := tally w.id ⟨w.count s, [], 0⟩ before

theorem tallied_increments (w : Watch σ) (s : σ) (before : History) :
    (tallied w s before).increments = increments before :=
  tally_increments w.id _ before

theorem tallied_attempts (w : Watch σ) (s : σ) (before : History) :
    (tallied w s before).attempts = (asked before).count .attempt := by
  rw [tallied, tally_attempts, Nat.zero_add]

theorem tallied_count (ceiling : UInt32) (w : Watch σ) (s : σ) (before rest : History)
    (split : (supervise ceiling).history w.answer s = before ++ rest) :
    w.count (Program.leave w.answer s before) = (tallied w s before).count := by
  rw [count_within w s ceiling before rest split, tallied, tally_count]

theorem tallied_along (ceiling : UInt32) (w : Watch σ) (s : σ) (before rest : History)
    (split : (supervise ceiling).history w.answer s = before ++ rest) (begun : ⟨.begin w.id, .ok ()⟩ ∈ before) :
    Along w.id (tallied w s before) rest := by
  obtain ⟨body, line, told, notes, shape, quiet, supervised⟩ := supervised_history ceiling w.answer s
  rw [shape] at split
  obtain ⟨run, eq, along⟩ := supervised_along w.id ceiling body line told notes _ supervised quiet
    (split ▸ List.mem_append_left rest begun)
  rw [split] at eq
  match before, begun, eq with
  | [e], begun, eq =>
      obtain ⟨rfl, -⟩ := List.cons_eq_cons.mp eq
      simp at begun
  | e :: f :: between, begun, eq =>
      obtain ⟨rfl, tail⟩ := List.cons_eq_cons.mp eq
      obtain ⟨rfl, rfl⟩ := List.cons_eq_cons.mp tail
      have start : tallied w s (⟨.allocate, .ok w.id⟩ :: ⟨.begin w.id, .ok ()⟩ :: between) =
          tally w.id (level 0) between := by
        simp [tallied, tally, Tally.after, written, lineOf, level, firstIncrements]
      rw [start]
      exact along_append w.id (level 0) between rest along

theorem count_leads_log (ceiling : UInt32) (w : Watch σ) (s : σ) (before rest : History)
    (split : (supervise ceiling).history w.answer s = before ++ rest)
    (begun : ⟨.begin w.id, .ok ()⟩ ∈ before) :
    ∃ count : UInt32, w.count (Program.leave w.answer s before) = some count ∧
      (increments before).length ≤ count.toNat ∧ count.toNat ≤ (increments before).length + 1 ∧
      increments before = firstIncrements (increments before).length ∧
      (before = [⟨.allocate, .ok w.id⟩, ⟨.begin w.id, .ok ()⟩] → count = 0) ∧
      ∀ e later, rest = e :: later →
        (e.1 = .attempt →
          count.toNat = (increments before).length ∧ count.toNat = (asked before).count .attempt) ∧
        (w.count (Program.leave w.answer s (before ++ [e])) = some count ∨
          w.count (Program.leave w.answer s (before ++ [e])) = some (count + 1) ∧
            (count + 1).toNat = count.toNat + 1) := by
  have along := tallied_along ceiling w s before rest split begun
  have point := tallied_count ceiling w s before rest split
  rw [← tallied_increments w s before, ← tallied_attempts w s before]
  obtain ⟨count, counted, least, most, listed⟩ := along_in_step w.id _ rest along
  refine ⟨count, point.trans counted, least, most, listed, ?_, ?_⟩
  · rintro rfl
    simpa [tallied, tally, Tally.after, written, eq_comm] using counted
  · rintro e later rfl
    obtain ⟨-, balanced, grows, -⟩ := along
    constructor
    · intro attempt
      obtain ⟨own, kept, leveled, attempts⟩ := balanced attempt
      obtain rfl : own = count := Option.some.inj (kept.symm.trans counted)
      exact ⟨leveled, attempts⟩
    · have next : w.count (Program.leave w.answer s (before ++ [e])) = ((tallied w s before).after w.id e).count := by
        rw [tallied_count ceiling w s _ later (split.trans (List.append_cons _ e later))]
        exact congrArg Tally.count List.foldl_append
      rw [next]
      rcases grows with same | ⟨own, kept, more, bound⟩
      · exact .inl (same.trans counted)
      · obtain rfl : own = count := Option.some.inj (kept.symm.trans counted)
        exact .inr ⟨more, bound⟩

def retried : History :=
  [⟨.allocate, .ok 1⟩, ⟨.begin 1, .ok ()⟩, ⟨.log startMessage, .ok ()⟩,
    ⟨.note ⟨.debug, "Session 1: init -> running"⟩, ()⟩, ⟨.stopRequested, false⟩, ⟨.attempt, .ok .failure⟩,
    ⟨.note ⟨.debug, "Session 1: running -> retrying"⟩, ()⟩, ⟨.update 1 1, .ok ()⟩,
    ⟨.log (incrementMessage 1), .ok ()⟩, ⟨.log restartMessage, .ok ()⟩,
    ⟨.note ⟨.debug, "Session 1: retrying -> running"⟩, ()⟩, ⟨.stopRequested, false⟩]

theorem count_leads_log_retried :
    increments retried = [incrementMessage 1] ∧ (asked retried).count .attempt = 1 ∧
      ∃ later, (supervise 2).history (Watch.obliging fun _ => .failure).answer (0, none) =
          retried ++ ⟨.attempt, .ok .failure⟩ :: later ∧
        ∃ count : UInt32, count.toNat = 1 ∧ (Watch.obliging fun _ => .failure).count
          (Program.leave (Watch.obliging fun _ => .failure).answer (0, none) retried) = some count := by
  have split : (supervise 2).history (Watch.obliging fun _ => .failure).answer (0, none) = retried ++
      ⟨.attempt, .ok .failure⟩ :: ((supervise 2).history (Watch.obliging fun _ => .failure).answer (0, none)).drop 13 := by
    with_unfolding_all rfl
  have logged : increments retried = [incrementMessage 1] := by rfl
  obtain ⟨count, now, -, -, -, -, next⟩ := count_leads_log 2 _ _ _ _ split (by simp [retried, Watch.obliging, Watch.beside])
  obtain ⟨level, attempts⟩ := (next _ _ rfl).1 rfl
  rw [logged] at level
  exact ⟨logged, attempts.symm.trans level, _, split, count, level, now⟩

end Overseer.Session
