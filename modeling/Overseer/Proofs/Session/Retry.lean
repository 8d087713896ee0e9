import Overseer.Proofs.Session.Closing
import Overseer.Proofs.Session.Faults

set_option autoImplicit false

namespace Overseer.Session

open Workload (Verdict)

variable {σ : Type}

def isStep : Call → Bool
  | .note _ => false
  | .stopRequested => false
  | _ => true

def steps (h : History) : List Call := (asked h).filter isStep

def isNotify : Call → Bool
  | .notify _ _ => true
  | _ => false

def textOf : Call → Option String
  | .log message => some message
  | _ => none

def verdictOf : Exchange → Option (Except Fault Verdict)
  | ⟨.attempt, verdict⟩ => some verdict
  | _ => none

def verdicts (h : History) : List (Except Fault Verdict) := h.filterMap verdictOf

-- The attempts that a session has at most: the first is always made.
def limit (ceiling : UInt32) : Nat := max ceiling.toNat 1

def round (id : UInt64) (k : Nat) : List Call :=
  [.attempt, .update id (.ofNat k), .log (incrementMessage (.ofNat k)), .log restartMessage]

def rounds (id : UInt64) (first count : Nat) : List Call := (List.range' first count).flatMap (round id)

def undelivered : Except Fault Unit → List String
  | .ok _ => []
  | .error f => [undeliveredMessage f.message]

def escalation (id : UInt64) (count : UInt32) (sent : Except Fault Unit) : List Call :=
  .log (escalationMessage count) :: .notify id count :: (undelivered sent).map .log

def restarts (count : Nat) : List String :=
  (List.range' 1 count).flatMap fun k => [incrementMessage (.ofNat k), restartMessage]

def further (s : Session) (more : Nat) : Session := { s with failures := .ofNat (s.failures.toNat + more) }

-- What a session does from some attempt on: some attempts fail, and then one succeeds or the limit is
-- reached.
inductive Retried (s : Session) (h : History) (r : Except Fault Report) : Prop where
  | passed (more : Nat) (below : s.failures.toNat + more < limit s.ceiling)
      (result : r = .ok ⟨s.further more, .succeeded⟩)
      (judged : verdicts h = List.replicate more (.ok .failure) ++ [.ok .success])
      (order : steps h = rounds s.id (s.failures.toNat + 1) more ++ [.attempt])
  | exhausted (more : Nat) (sent : Except Fault Unit) (reached : s.failures.toNat + more = limit s.ceiling)
      (result : r = .ok ⟨s.further more, .exhausted⟩)
      (judged : verdicts h = List.replicate more (.ok .failure))
      (notified : ⟨.notify s.id (s.further more).failures, sent⟩ ∈ h)
      (order : steps h = rounds s.id (s.failures.toNat + 1) more ++
        escalation s.id (s.further more).failures sent)

theorem steps_append (a b : History) : steps (a ++ b) = steps a ++ steps b := by
  simp [steps, asked]

theorem verdicts_append (a b : History) : verdicts (a ++ b) = verdicts a ++ verdicts b :=
  List.filterMap_append

theorem rounds_succ (id : UInt64) (first count : Nat) :
    rounds id first (count + 1) = round id first ++ rounds id (first + 1) count := by
  simp [rounds, List.range'_succ]

theorem further_zero (s : Session) : s.further 0 = s := by
  simp [further]

theorem further_begun (id : UInt64) (ceiling : UInt32) (more : Nat) :
    (⟨id, 0, ceiling⟩ : Session).further more = ⟨id, .ofNat more, ceiling⟩ := by
  simp [further]

theorem further_succ (s : Session) (room : s.HasRoom) (more : Nat) :
    s.further (more + 1) = s.failed.further more := by
  have grows := failures_failed room
  have same : s.failures.toNat + (more + 1) = s.failed.failures.toNat + more := by omega
  simp only [further, same]
  rfl

theorem clean_ok {α : Type} (r : Except Fault α) (h : History) (clean : Clean h) (ends : Ends r h) :
    ∃ result, r = .ok result := by
  cases r with
  | ok result => exact ⟨result, rfl⟩
  | error f =>
      obtain ⟨before, e, rfl, -, fault⟩ := ends
      have none := clean e (by simp)
      rw [fault] at none
      cases none

theorem escalated_steps (s : Session) (h : History) (told : Except Fault Unit) (run : Escalated s h told)
    (clean : Clean h) : ∃ sent, ⟨.notify s.id s.failures, sent⟩ ∈ h ∧ verdicts h = [] ∧
      steps h = escalation s.id s.failures sent := by
  obtain ⟨done, rfl⟩ := clean_ok told h clean (escalated_ends s h told run)
  cases run with
  | delivered => exact ⟨.ok (), by simp, rfl, rfl⟩
  | undelivered f => exact ⟨.error f, by simp, rfl, rfl⟩

theorem can_retry_iff (s : Session) : s.canRetry = true ↔ s.failures.toNat < s.ceiling.toNat := by
  simp [canRetry, UInt32.lt_iff_toNat_lt]

theorem room_below_limit (s : Session) (room : s.HasRoom) : s.failures.toNat < limit s.ceiling := by
  unfold limit
  rcases room with zero | more
  · rw [zero]
    exact Nat.lt_of_lt_of_le Nat.zero_lt_one (Nat.le_max_right _ _)
  · exact Nat.lt_of_lt_of_le ((can_retry_iff s).mp more) (Nat.le_max_left _ _)

theorem full_at_limit (s : Session) (room : s.HasRoom) (full : ¬s.failed.canRetry = true) :
    s.failures.toNat + 1 = limit s.ceiling := by
  have grows := failures_failed room
  have below := room_below_limit s room
  rw [can_retry_iff, grows] at full
  have same : s.failed.ceiling = s.ceiling := rfl
  rw [same] at full
  unfold limit at below ⊢
  omega

theorem steps_failed (s : Session) (room : s.HasRoom) (a b : Phase) (h : History) :
    steps (failing s ++ recorded s.failed ++ moved s.id a b :: h) = round s.id (s.failures.toNat + 1) ++ steps h := by
  have number : UInt32.ofNat (s.failures.toNat + 1) = s.failed.failures := by
    rw [← failures_failed room, UInt32.ofNat_toNat]
  rw [round, number]
  rfl

theorem verdicts_failed (s : Session) (a b : Phase) (h : History) :
    verdicts (failing s ++ recorded s.failed ++ moved s.id a b :: h) = .ok .failure :: verdicts h :=
  rfl

theorem retried_again (s : Session) (room : s.HasRoom) (a b : Phase) (h : History) (r : Except Fault Report)
    (later : Retried s.failed h r) : Retried s (failing s ++ recorded s.failed ++ moved s.id a b :: h) r := by
  have grows := failures_failed room
  cases later with
  | passed more below result judged order =>
      refine .passed (more + 1) ?_ ?_ ?_ ?_
      · change _ < limit s.ceiling at below
        omega
      · rw [further_succ s room]
        exact result
      · rw [verdicts_failed, judged]
        rfl
      · rw [steps_failed s room, order, grows, rounds_succ, List.append_assoc]
        rfl
  | exhausted more sent reached result judged notified order =>
      refine .exhausted (more + 1) sent ?_ ?_ ?_ ?_ ?_
      · change _ = limit s.ceiling at reached
        omega
      · rw [further_succ s room]
        exact result
      · rw [verdicts_failed, judged]
        rfl
      · rw [further_succ s room]
        exact List.mem_append_right _ (List.mem_cons_of_mem _ notified)
      · rw [steps_failed s room, order, grows, rounds_succ, List.append_assoc, further_succ s room]
        rfl

theorem attempted_retried (s : Session) (room : s.HasRoom) (h : History) (r : Except Fault Report)
    (run : Attempted s h r) (clean : Clean h) (unstopped : ⟨.stopRequested, true⟩ ∉ h) : Retried s h r := by
  obtain ⟨report, result⟩ := clean_ok r h clean (attempted_ends s h r run)
  induction run with
  | stopped s => simp at unstopped
  | broken s f => cases result
  | passed s =>
      refine .passed 0 (room_below_limit s room) ?_ rfl rfl
      rw [further_zero]
  | unrecorded s f h record => cases result
  | again s h r more later ih =>
      have after : Clean h := fun e member => clean e (List.mem_append_right _ (List.mem_cons_of_mem _ member))
      have unasked : ⟨.stopRequested, true⟩ ∉ h :=
        fun member => unstopped (List.mem_append_right _ (List.mem_cons_of_mem _ member))
      exact retried_again s room .retrying .running h r (ih (.inr more) after unasked result)
  | exhausted s h told full escalation =>
      have after : Clean h := fun e member => clean e (List.mem_append_right _ (List.mem_cons_of_mem _ member))
      obtain ⟨sent, notified, judged, order⟩ := escalated_steps s.failed h told escalation after
      obtain ⟨done, rfl⟩ := clean_ok told h after (escalated_ends s.failed h told escalation)
      have one : s.further 1 = s.failed := by rw [further_succ s room 0, further_zero]
      refine .exhausted 1 sent (full_at_limit s room full) ?_ ?_ ?_ ?_
      · rw [one]
        rfl
      · rw [verdicts_failed, judged]
        rfl
      · rw [one]
        exact List.mem_append_right _ (List.mem_cons_of_mem _ notified)
      · rw [steps_failed s room, order, one]
        rfl

theorem notes_silent (notes : History) (quiet : ∀ e ∈ notes, IsNote e) : steps notes = [] ∧ verdicts notes = [] := by
  induction notes with
  | nil => exact ⟨rfl, rfl⟩
  | cons e rest ih =>
      obtain ⟨⟨diagnostic, note⟩, others⟩ := List.forall_mem_cons.mp quiet
      obtain ⟨c, x⟩ := e
      obtain rfl : c = .note diagnostic := note
      exact ih others

theorem supervised_retried (ceiling : UInt32) (body : History) (line : String) (told : Except Fault Unit)
    (notes : History) (r : Except Fault Report) (run : Supervised ceiling body line told notes r)
    (quiet : ∀ e ∈ notes, IsNote e) (clean : Clean (body ++ ⟨.log line, told⟩ :: notes))
    (unstopped : ⟨.stopRequested, true⟩ ∉ body) :
    ∃ id report attempts, body = ⟨.allocate, .ok id⟩ :: (opening id ++ attempts) ∧ r = .ok report ∧
      Retried ⟨id, 0, ceiling⟩ attempts (.ok report) ∧
      verdicts (body ++ ⟨.log line, told⟩ :: notes) = verdicts attempts ∧
      steps (body ++ ⟨.log line, told⟩ :: notes) =
        .allocate :: .begin id :: .log startMessage :: (steps attempts ++ [.log report.summary]) := by
  obtain ⟨quietSteps, quietVerdicts⟩ := notes_silent notes quiet
  obtain ⟨cleanBody, cleanClosing⟩ := List.forall_mem_append.mp clean
  cases run with
  | unallocated f => cases cleanBody _ List.mem_cons_self
  | faulted id f body told notes driven =>
      have inside := (List.forall_mem_cons.mp cleanBody).2
      obtain ⟨result, impossible⟩ := clean_ok _ body inside (driven_ends id ceiling body _ (driven_course driven))
      cases impossible
  | finished id report body told notes driven =>
      generalize result : Except.ok report = ended at driven
      cases driven_course driven with
      | unbegun f => cases result
      | unstarted f => cases result
      | started attempts ended attempted =>
          subst result
          cases told with
          | error g => cases cleanClosing _ List.mem_cons_self
          | ok done =>
              have inside : ∀ e ∈ attempts, e ∈ ⟨.allocate, .ok id⟩ :: (opening id ++ attempts) :=
                fun e member => List.mem_cons_of_mem _ (List.mem_append_right _ member)
              have retried := attempted_retried ⟨id, 0, ceiling⟩ (.inl rfl) attempts _ attempted
                (fun e member => cleanBody e (inside e member)) (fun member => unstopped (inside _ member))
              refine ⟨id, report, attempts, rfl, rfl, retried, ?_, ?_⟩
              · rw [verdicts_append]
                change verdicts attempts ++ verdicts notes = _
                rw [quietVerdicts, List.append_nil]
              · rw [steps_append]
                change _ :: _ :: _ :: (steps attempts ++ .log report.summary :: steps notes) = _
                rw [quietSteps]
                rfl

theorem attempts_steps (h : History) : (asked h).count .attempt = (steps h).count .attempt :=
  (List.count_filter rfl).symm

theorem notifications_steps (h : History) : (asked h).filter isNotify = (steps h).filter isNotify := by
  rw [steps, List.filter_filter]
  apply List.filter_congr
  intro c _
  cases c <;> rfl

theorem clean_lines (h : History) (clean : Clean h) : lines h = (steps h).filterMap textOf := by
  induction h with
  | nil => rfl
  | cons e rest ih =>
      obtain ⟨fine, others⟩ := List.forall_mem_cons.mp clean
      have rest_lines := ih others
      obtain ⟨c, x⟩ := e
      cases c with
      | log message =>
          cases x with
          | ok done => exact congrArg (message :: ·) rest_lines
          | error f => cases fine
      | _ => exact rest_lines

theorem rounds_attempts (id : UInt64) (first count : Nat) : (rounds id first count).count .attempt = count := by
  induction count generalizing first with
  | zero => rfl
  | succ count ih =>
      rw [rounds_succ, List.count_append, ih]
      simp [round, Nat.add_comm]

theorem rounds_notifications (id : UInt64) (first count : Nat) : (rounds id first count).filter isNotify = [] := by
  induction count generalizing first with
  | zero => rfl
  | succ count ih =>
      rw [rounds_succ, List.filter_append, ih]
      rfl

theorem rounds_texts (id : UInt64) (count : Nat) : (rounds id 1 count).filterMap textOf = restarts count := by
  rw [rounds, List.filterMap_flatMap]
  rfl

theorem escalation_texts (id : UInt64) (count : UInt32) (sent : Except Fault Unit) :
    (escalation id count sent).filterMap textOf = escalationMessage count :: undelivered sent := by
  cases sent <;> rfl

theorem escalation_attempts (id : UInt64) (count : UInt32) (sent : Except Fault Unit) :
    (escalation id count sent).count .attempt = 0 := by
  cases sent <;> rfl

theorem escalation_notifications (id : UInt64) (count : UInt32) (sent : Except Fault Unit) :
    (escalation id count sent).filter isNotify = [.notify id count] := by
  cases sent <;> rfl

-- A run told exactly: its result and the count it leaves, its attempts, notifications and lines, and the
-- order of all its steps.
structure Exactly (h : History) (r : Except Fault Report) (count : Option UInt32) (report : Report)
    (attempts : Nat) (notifications : List Call) (messages : List String) (order : List Call) : Prop where
  result : r = .ok report
  persisted : count = some report.session.failures
  attempted : (asked h).count .attempt = attempts
  notified : (asked h).filter isNotify = notifications
  told : lines h = startMessage :: (messages ++ [report.summary])
  ordered : steps h = .allocate :: .begin report.session.id :: .log startMessage :: (order ++ [.log report.summary])

theorem exactly_ordered (h : History) (report : Report) (attempts : Nat) (notifications : List Call)
    (messages : List String) (order : List Call) (clean : Clean h)
    (ordered : steps h =
      .allocate :: .begin report.session.id :: .log startMessage :: (order ++ [.log report.summary]))
    (attempted : order.count .attempt = attempts) (notified : order.filter isNotify = notifications)
    (told : order.filterMap textOf = messages) :
    Exactly h (.ok report) (some report.session.failures) report attempts notifications messages order where
  result := rfl
  persisted := rfl
  attempted := by
    rw [attempts_steps, ordered, ← attempted]
    simp
  notified := by
    rw [notifications_steps, ordered, ← notified]
    simp [isNotify]
  told := by
    rw [clean_lines h clean, ordered, ← told]
    change startMessage :: (order ++ [Call.log report.summary]).filterMap textOf = _
    rw [List.filterMap_append]
    rfl
  ordered := ordered

theorem exactly_succeeded (h : History) (id : UInt64) (ceiling : UInt32) (f : Nat) (clean : Clean h)
    (ordered : steps h = .allocate :: .begin id :: .log startMessage ::
      ((rounds id 1 f ++ [.attempt]) ++ [.log (⟨⟨id, .ofNat f, ceiling⟩, .succeeded⟩ : Report).summary])) :
    Exactly h (.ok ⟨⟨id, .ofNat f, ceiling⟩, .succeeded⟩) (some (.ofNat f)) ⟨⟨id, .ofNat f, ceiling⟩, .succeeded⟩
      (f + 1) [] (restarts f) (rounds id 1 f ++ [.attempt]) := by
  apply exactly_ordered h ⟨⟨id, .ofNat f, ceiling⟩, .succeeded⟩ _ _ _ _ clean ordered
  · rw [List.count_append, rounds_attempts]
    rfl
  · rw [List.filter_append, rounds_notifications]
    rfl
  · rw [List.filterMap_append, rounds_texts]
    exact List.append_nil _

theorem exactly_exhausted (h : History) (id : UInt64) (ceiling : UInt32) (m : Nat) (sent : Except Fault Unit)
    (clean : Clean h)
    (ordered : steps h = .allocate :: .begin id :: .log startMessage ::
      ((rounds id 1 m ++ escalation id (.ofNat m) sent) ++
        [.log (⟨⟨id, .ofNat m, ceiling⟩, .exhausted⟩ : Report).summary])) :
    Exactly h (.ok ⟨⟨id, .ofNat m, ceiling⟩, .exhausted⟩) (some (.ofNat m)) ⟨⟨id, .ofNat m, ceiling⟩, .exhausted⟩
      m [.notify id (.ofNat m)] (restarts m ++ escalationMessage (.ofNat m) :: undelivered sent)
      (rounds id 1 m ++ escalation id (.ofNat m) sent) := by
  apply exactly_ordered h ⟨⟨id, .ofNat m, ceiling⟩, .exhausted⟩ _ _ _ _ clean ordered
  · rw [List.count_append, rounds_attempts, escalation_attempts]
    rfl
  · rw [List.filter_append, rounds_notifications, escalation_notifications]
    rfl
  · rw [List.filterMap_append, rounds_texts, escalation_texts]

def Follows (script : Nat → Verdict) (verdicts : List (Except Fault Verdict)) : Prop :=
  ∀ (k : Nat) (verdict : Except Fault Verdict), verdicts[k]? = some verdict → verdict = .ok (script k)

theorem follows_failures (script : Nat → Verdict) (count : Nat) (rest : List (Except Fault Verdict))
    (follows : Follows script (List.replicate count (.ok .failure) ++ rest)) :
    ∀ k < count, script k = .failure := by
  intro k below
  have inside : k < (List.replicate count (Except.ok Verdict.failure : Except Fault Verdict)).length := by
    simpa using below
  have verdict := follows k (.ok .failure) (by rw [List.getElem?_append_left inside]; simp [below])
  exact (Except.ok.inj verdict).symm

theorem follows_success (script : Nat → Verdict) (count : Nat)
    (follows : Follows script (List.replicate count (.ok .failure) ++ [.ok .success])) : script count = .success := by
  have verdict := follows count (.ok .success) (by simp)
  exact (Except.ok.inj verdict).symm

theorem retries_are_bounded (ceiling : UInt32) (script : Nat → Verdict) (w : Watch σ) (s : σ)
    (own : (w.answer .allocate s).1 = .ok w.id)
    (clean : Clean ((supervise ceiling).history w.answer s))
    (unstopped : ⟨.stopRequested, true⟩ ∉ (supervise ceiling).history w.answer s)
    (scripted : Follows script (verdicts ((supervise ceiling).history w.answer s))) :
    (∀ f < limit ceiling, (∀ k < f, script k = .failure) → script f = .success →
      Exactly ((supervise ceiling).history w.answer s) ((supervise ceiling).run w.answer s).1
        (w.count ((supervise ceiling).run w.answer s).2) ⟨⟨w.id, .ofNat f, ceiling⟩, .succeeded⟩
        (f + 1) [] (restarts f) (rounds w.id 1 f ++ [.attempt])) ∧
    ((∀ k < limit ceiling, script k = .failure) →
      ∃ sent, ⟨.notify w.id (.ofNat (limit ceiling)), sent⟩ ∈ (supervise ceiling).history w.answer s ∧
      Exactly ((supervise ceiling).history w.answer s) ((supervise ceiling).run w.answer s).1
        (w.count ((supervise ceiling).run w.answer s).2) ⟨⟨w.id, .ofNat (limit ceiling), ceiling⟩, .exhausted⟩
        (limit ceiling) [.notify w.id (.ofNat (limit ceiling))]
        (restarts (limit ceiling) ++ escalationMessage (.ofNat (limit ceiling)) :: undelivered sent)
        (rounds w.id 1 (limit ceiling) ++ escalation w.id (.ofNat (limit ceiling)) sent)) := by
  rw [count_after]
  obtain ⟨body, line, told, notes, split, quiet, supervised⟩ := supervised_history ceiling w.answer s
  have given := Program.history_given w.answer (supervise ceiling) s
  rw [split] at given clean unstopped scripted ⊢
  obtain ⟨id, report, attempts, rfl, result, retried, judgements, order⟩ :=
    supervised_retried ceiling body line told notes _ supervised quiet clean
      fun member => unstopped (List.mem_append_left _ member)
  obtain rfl : id = w.id := Except.ok.inj (given.1.symm.trans own)
  have kept := supervised_kept ceiling (w.count s) _ line told notes _ report supervised quiet result
  rw [judgements] at scripted
  rw [result]
  cases retried with
  | passed more below result judged steps =>
      rw [judged] at scripted
      have failures := follows_failures script more _ scripted
      have success := follows_success script more scripted
      constructor
      · intro f _ earlier first
        obtain rfl : f = more := by
          rcases Nat.lt_trichotomy f more with less | same | greater
          · rw [failures f less] at first
            cases first
          · exact same
          · rw [earlier more greater] at success
            cases success
        cases result
        rw [steps] at order
        rw [further_begun] at kept order ⊢
        rw [kept]
        exact exactly_succeeded _ w.id ceiling f clean order
      · intro failing
        have inside : more < limit ceiling := Nat.zero_add more ▸ below
        rw [failing more inside] at success
        cases success
  | exhausted more sent reached result judged notified steps =>
      have failures := follows_failures script more [] (by rwa [List.append_nil, ← judged])
      obtain rfl : more = limit ceiling := (Nat.zero_add more).symm.trans reached
      constructor
      · intro f below _ first
        rw [failures f below] at first
        cases first
      · intro _
        cases result
        rw [steps] at order
        rw [further_begun] at kept order notified ⊢
        rw [kept]
        have inside : ⟨.notify w.id (.ofNat (limit ceiling)), sent⟩ ∈
            ⟨.allocate, .ok w.id⟩ :: (opening w.id ++ attempts) :=
          List.mem_cons_of_mem _ (List.mem_append_right _ notified)
        exact ⟨sent, List.mem_append_left _ inside, exactly_exhausted _ w.id ceiling _ sent clean order⟩

theorem follows_cons (script : Nat → Verdict) (verdicts : List (Except Fault Verdict))
    (follows : Follows (fun k => script (k + 1)) verdicts) : Follows script (.ok (script 0) :: verdicts) := by
  intro k verdict judged
  cases k with
  | zero => exact (Option.some.inj judged).symm
  | succ k => exact follows k verdict judged

theorem obliging_given (script : Nat → Verdict) (s : Nat × Option UInt32) (h : History)
    (given : Program.Given (Watch.obliging script).answer s h) :
    Clean h ∧ ⟨.stopRequested, true⟩ ∉ h ∧ Follows (fun k => script (s.1 + k)) (verdicts h) := by
  induction h generalizing s with
  | nil => simp [Clean, Follows, verdicts]
  | cons e rest ih =>
      obtain ⟨c, x⟩ := e
      obtain ⟨now, later⟩ := given
      obtain ⟨clean, unstopped, follows⟩ := ih _ later
      obtain rfl : ((Watch.obliging script).answer c s).1 = x := now
      refine ⟨List.forall_mem_cons.mpr ⟨?_, clean⟩, ?_, ?_⟩
      · cases c <;> rfl
      · intro member
        rcases List.mem_cons.mp member with first | last
        · cases c <;> cases first
        · exact unstopped last
      · cases c with
        | attempt =>
            have next : (fun k => script (s.1 + 1 + k)) = fun k => script (s.1 + (k + 1)) :=
              funext fun k => congrArg script (by omega)
            change Follows (fun k => script (s.1 + 1 + k)) _ at follows
            rw [next] at follows
            exact follows_cons (fun k => script (s.1 + k)) _ follows
        | _ => exact follows

theorem retries_bounded_once :
    Exactly ((supervise 2).history (Watch.obliging fun k => if k = 0 then .failure else .success).answer (0, none))
      ((supervise 2).run (Watch.obliging fun k => if k = 0 then .failure else .success).answer (0, none)).1
      ((supervise 2).run (Watch.obliging fun k => if k = 0 then .failure else .success).answer (0, none)).2.2
      ⟨⟨1, 1, 2⟩, .succeeded⟩ 2 [] [incrementMessage 1, restartMessage]
      [.attempt, .update 1 1, .log (incrementMessage 1), .log restartMessage, .attempt] := by
  obtain ⟨clean, unstopped, follows⟩ := obliging_given (fun k => if k = 0 then .failure else .success) (0, none) _
    (Program.history_given _ (supervise 2) _)
  simp only [Nat.zero_add] at follows
  exact (retries_are_bounded 2 _ _ _ rfl clean unstopped follows).1 1 (by decide) (by simp) rfl

end Overseer.Session
