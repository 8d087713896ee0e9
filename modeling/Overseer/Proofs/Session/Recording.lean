import Overseer.Proofs.Counter.Alone
import Overseer.Proofs.Session.Closing
import Overseer.Proofs.Session.Faults
import Overseer.Proofs.Session.Succession
import Overseer.Session.Assembly

set_option autoImplicit false

namespace Overseer.Session

open Counter (Alone Bears Site Store Touches Unlinked)
open Host (Action)
open Program (Along Asks Given Runs leave)

variable {σ : Type} {site : Site σ} {store : Store}

theorem asks_faulty {ε α : Type} {Q : Host.Call → Prop} (fault : ε → Fault) {action : Action (Except ε α)}
    (asks : action.Asks Q) : (Supervisor.faulty fault action).Asks Q :=
  Program.asks_bind asks fun _ => trivial

theorem asks_display (sink : Journal.Sink) (line : String) : (sink.display line).Asks fun c => ¬Touches store c := by
  unfold Journal.Sink.display
  split
  · exact ⟨nofun, fun _ => trivial⟩
  · trivial

theorem asks_log (sink : Journal.Sink) (outside : ∀ id, sink.path ≠ store.temporaryPath id) (message : String) :
    (sink.log message).Asks fun c => ¬Touches store c := by
  have extending (bytes : ByteArray) : ¬Touches store (.extend sink.path bytes) := by
    generalize path : sink.path = p at outside
    rintro ⟨⟩
    exact outside _ rfl
  have appends (line : String) : (sink.append line).Asks fun c => ¬Touches store c := by
    refine ⟨nofun, fun opened => ?_⟩
    cases opened with
    | error r => trivial
    | ok done => exact ⟨extending _, fun _ => trivial⟩
  refine Program.asks_bind (Program.asks_call nofun) fun time => Program.asks_bind (appends _) fun appended => ?_
  cases appended with
  | error r => trivial
  | ok done => exact Program.asks_bind (asks_display sink _) fun _ => trivial

theorem asks_step (directory : Option String) (left : Option Host.Duration) (step : Workload.Step) :
    (Workload.runStep directory left step).Asks fun c => ¬Touches store c := by
  cases step with
  | command program arguments =>
      refine ⟨nofun, fun launched => ?_⟩
      cases launched with
      | error r => trivial
      | ok waited =>
          cases waited with
          | overdue => trivial
          | ended ending spent =>
              by_cases well : ending = .exited 0
              · subst well
                trivial
              · change Program.Asks _ (if ending = .exited 0 then _ else _ : Action _)
                rw [if_neg well]
                exact ⟨nofun, fun _ => trivial⟩
  | sleep seconds =>
      refine ⟨nofun, fun waited => ?_⟩
      cases waited with
      | overdue => trivial
      | ended done spent => trivial
  | echo message =>
      refine Program.asks_bind ⟨nofun, fun marked => ?_⟩ fun _ => trivial
      cases marked with
      | overdue => trivial
      | ended told spent =>
          cases told with
          | error r => exact ⟨nofun, fun _ => trivial⟩
          | ok done => trivial

theorem asks_steps (directory : Option String) (steps : List Workload.Step) (left : Option Host.Duration) :
    (Workload.runSteps directory left steps).Asks fun c => ¬Touches store c := by
  induction steps generalizing left with
  | nil => trivial
  | cons step rest ih =>
      refine Program.asks_bind (Program.asks_call nofun) fun _ => Program.asks_bind (asks_step directory left step) fun progress => ?_
      cases progress with
      | error u => trivial
      | ok made =>
          cases made with
          | passed left => exact ih left
          | failed => trivial
          | overdue => trivial

theorem asks_attempt (w : Workload) : w.attempt.Asks fun c => ¬Touches store c := by
  refine Program.asks_bind (asks_steps _ _ _) fun progress => ?_
  cases progress with
  | error u => trivial
  | ok made =>
      cases made with
      | passed left => trivial
      | failed => trivial
      | overdue => exact ⟨nofun, fun _ => trivial⟩

theorem asks_deliver (w : Notify.Webhook) (m : Notify.Mail) : (w.deliver m).Asks fun c => ¬Touches store c := by
  unfold Notify.Webhook.deliver
  split
  · trivial
  · refine Program.asks_bind (Program.asks_call nofun) fun reply => ?_
    cases reply with
    | none => trivial
    | some reply =>
        dsimp only
        split <;> trivial

theorem asks_send (n : Notify.Notifier) (id : UInt64) (count : UInt32) :
    (n.send id count).Asks fun c => ¬Touches store c := by
  cases n with
  | log => exact ⟨nofun, fun _ => trivial⟩
  | webhook w =>
      refine Program.asks_bind (Program.asks_call nofun) fun time => Program.asks_bind (asks_deliver w _) fun delivered => ?_
      cases delivered with
      | error f => trivial
      | ok reply => exact ⟨nofun, fun _ => trivial⟩

namespace Supervisor

variable (site : Site σ) (sup : Supervisor)

def onSite (c : Call) (s : σ) : Answer c × σ := (sup.answer c).run site.answer s

def Throughout (P : Host.Call → σ → Prop) (c : Call) (s : σ) : Prop :=
  Along site.answer P s ((sup.answer c).history site.answer s)

end Supervisor

theorem faulty_run {ε α : Type} (fault : ε → Fault) (action : Action (Except ε α)) (s : σ) :
    (Supervisor.faulty fault action).run site.answer s =
      ((action.run site.answer s).1.mapError fault, (action.run site.answer s).2) :=
  Program.run_bind _ _ _ _

theorem faulty_along {ε α : Type} {P : Host.Call → σ → Prop} (fault : ε → Fault) (action : Action (Except ε α)) (s : σ)
    (along : Along site.answer P s ((Supervisor.faulty fault action).history site.answer s)) :
    Along site.answer P s (action.history site.answer s) :=
  ((Program.along_bind _ _ _).mp along).1

section Run

variable {sup : Supervisor} {id : UInt64} {shelf : Counter.Shelf} (plain : Counter.Stem sup.store.stem)
  (outside : ∀ id, sup.sink.path ≠ sup.store.temporaryPath id)

include outside in
theorem asks_answer (c : Call) (aside : ∀ id count, c ≠ .begin id ∧ c ≠ .update id count ∧ c ≠ .allocate) :
    (sup.answer c).Asks fun c => ¬Touches sup.store c := by
  cases c with
  | allocate => exact absurd rfl (aside 0 0).2.2
  | begin id => exact absurd rfl (aside id 0).1
  | update id count => exact absurd rfl (aside id count).2.1
  | log message => exact asks_faulty _ (asks_log sup.sink outside message)
  | attempt => exact asks_faulty _ (asks_attempt sup.workload)
  | notify id count => exact asks_faulty _ (asks_send sup.notifier id count)
  | stopRequested => exact Program.asks_call nofun
  | note record => exact Program.asks_call nofun

include plain outside

theorem bears_answer (c : Call) (s : σ) (count : Option UInt32) (concerns : Concerns id c)
    (clean : faultOf ⟨c, (sup.onSite site c s).1⟩ = none) (alone : sup.Throughout site (Alone site sup.store) c s)
    (unlinked : sup.Throughout site (Unlinked site sup.store) c s)
    (bears : Bears sup.store id count (site.machine s) shelf) :
    ∃ shelf', Bears sup.store id ((written id ⟨c, (sup.onSite site c s).1⟩).or count)
      (site.machine (sup.onSite site c s).2) shelf' := by
  have quiet (aside : ∀ id count, c ≠ .begin id ∧ c ≠ .update id count ∧ c ≠ .allocate) :
      Bears sup.store id count (site.machine (sup.onSite site c s).2) shelf :=
    Counter.bears_spared (Counter.spared_run _ (asks_answer outside c aside) s alone) bears
  cases c with
  | allocate => exact absurd concerns not_false
  | begin own =>
      obtain rfl : own = id := concerns
      unfold Supervisor.onSite Supervisor.answer at clean ⊢
      rw [faulty_run] at clean ⊢
      cases granted : ((sup.store.begin own).run site.answer s).1 with
      | error f =>
          rw [granted] at clean
          cases clean
      | ok done =>
          obtain ⟨shelf', later⟩ :=
            Counter.begin_alone plain count (faulty_along _ _ s alone) (faulty_along _ _ s unlinked) bears granted
          refine ⟨shelf', ?_⟩
          change Bears sup.store own ((written own ⟨.begin own, .ok ()⟩).or count) _ shelf'
          simpa [written] using later
  | update own next =>
      obtain rfl : own = id := concerns
      unfold Supervisor.onSite Supervisor.answer at clean ⊢
      rw [faulty_run] at clean ⊢
      cases granted : ((sup.store.update own next).run site.answer s).1 with
      | error f =>
          rw [granted] at clean
          cases clean
      | ok done =>
          obtain ⟨shelf', later⟩ :=
            Counter.update_alone plain count next (faulty_along _ _ s alone) (faulty_along _ _ s unlinked) bears granted
          refine ⟨shelf', ?_⟩
          change Bears sup.store own ((written own ⟨.update own next, .ok ()⟩).or count) _ shelf'
          simpa [written] using later
  | log message => exact ⟨shelf, quiet (by simp)⟩
  | attempt => exact ⟨shelf, quiet (by simp)⟩
  | notify own next => exact ⟨shelf, quiet (by simp)⟩
  | stopRequested => exact ⟨shelf, quiet (by simp)⟩
  | note record => exact ⟨shelf, quiet (by simp)⟩

theorem bears_leave (h : History) (s : σ) (count : Option UInt32) (concerns : ∀ e ∈ h, Concerns id e.1)
    (clean : Clean h) (given : Given (sup.onSite site) s h)
    (alone : Along (sup.onSite site) (sup.Throughout site (Alone site sup.store)) s h)
    (unlinked : Along (sup.onSite site) (sup.Throughout site (Unlinked site sup.store)) s h)
    (bears : Bears sup.store id count (site.machine s) shelf) :
    ∃ shelf', Bears sup.store id (kept id count h) (site.machine (leave (sup.onSite site) s h)) shelf' := by
  induction h generalizing s count shelf with
  | nil => exact ⟨shelf, bears⟩
  | cons e rest ih =>
      obtain ⟨concern, concernRest⟩ := List.forall_mem_cons.mp concerns
      obtain ⟨cleanly, cleanRest⟩ := List.forall_mem_cons.mp clean
      have same : (⟨e.1, (sup.onSite site e.1 s).1⟩ : Exchange) = e := by rw [given.1]
      obtain ⟨shelf', later⟩ :=
        bears_answer plain outside e.1 s count concern (same.symm ▸ cleanly) alone.1 unlinked.1 bears
      rw [same] at later
      exact ih _ _ concernRest cleanRest given.2 alone.2 unlinked.2 later

end Run

theorem attempted_limit (s : Session) (h : History) (r : Except Fault Report) (report : Report)
    (run : Attempted s h r) (result : r = .ok report) : report.session.ceiling = s.ceiling := by
  induction run with
  | stopped s =>
      cases result
      rfl
  | broken s f => cases result
  | passed s =>
      cases result
      rfl
  | unrecorded s f h record => cases result
  | again s h r more later ih => exact ih result
  | exhausted s h told full escalation =>
      cases told with
      | error f => cases result
      | ok done =>
          cases result
          rfl

structure Reported (ceiling : UInt32) (h : History) (report : Report) : Prop where
  course : ∃ rest, h = ⟨.allocate, .ok report.session.id⟩ :: rest ∧ (∀ e ∈ rest, Concerns report.session.id e.1) ∧
    Clean rest ∧ kept report.session.id none rest = some report.session.failures
  limit : report.session.ceiling = ceiling

theorem reported_course (ceiling : UInt32) (h : History) (report : Report)
    (run : Runs (supervise ceiling) h (.ok report)) : Reported ceiling h report := by
  obtain ⟨body, line, told, notes, rfl, quiet, supervised⟩ := supervised_course run
  generalize result : Except.ok report = r at supervised
  cases supervised with
  | unallocated f => cases result
  | faulted id f body told notes driven => cases result
  | finished id report' body told notes driven silent =>
      cases told with
      | error g => cases result
      | ok done =>
          cases result
          have course := driven_course driven
          obtain ⟨rfl, count⟩ := driven_kept id ceiling none body _ course
          refine ⟨⟨_, rfl, ?_, ?_, ?_⟩, ?_⟩
          · exact List.forall_mem_append.mpr ⟨driven_concerns course, closing_concerns _ _ _ notes quiet⟩
          · apply clean_append _ _ (driven_ends _ ceiling body _ course)
            refine List.forall_mem_cons.mpr ⟨rfl, fun e member => ?_⟩
            obtain ⟨c, x⟩ := e
            obtain ⟨diagnostic, rfl⟩ : ∃ diagnostic, c = .note diagnostic := quiet _ member
            rfl
          · change kept report'.session.id none (body ++ ⟨.log report'.summary, .ok done⟩ :: notes) = _
            rw [kept_append, count, kept_closing _ _ _ _ notes quiet]
          · generalize ended : Except.ok report' = r at course
            cases course with
            | unbegun f => cases ended
            | unstarted f => cases ended
            | started h r attempts => exact attempted_limit _ h r _ attempts ended.symm

-- A run that ends in a report has the report's count in the directory, under the report's number.
theorem run_records (sup : Supervisor) (plain : Counter.Stem sup.store.stem)
    (outside : ∀ id, sup.sink.path ≠ sup.store.temporaryPath id) (s : σ) (report : Report)
    (alone : Along site.answer (Alone site sup.store) s (sup.run.history site.answer s))
    (unlinked : Along site.answer (Unlinked site sup.store) s (sup.run.history site.answer s))
    (ended : (sup.run.run site.answer s).1 = .ok report) :
    report.session.ceiling = sup.ceiling ∧ ∃ shelf, Bears sup.store report.session.id (some report.session.failures)
      (site.machine (sup.run.run site.answer s).2) shelf := by
  have calls := (Program.along_through sup.answer site.answer _ (supervise sup.ceiling) s).mp alone
  have creations := (Program.along_through sup.answer site.answer _ (supervise sup.ceiling) s).mp unlinked
  have through : sup.run.run site.answer s = (supervise sup.ceiling).run (sup.onSite site) s :=
    Program.run_through sup.answer site.answer _ s
  rw [through] at ended ⊢
  have run := Program.runs_history (sup.onSite site) (supervise sup.ceiling) s
  have given := Program.history_given (sup.onSite site) (supervise sup.ceiling) s
  rw [← Program.leave_history]
  rw [ended] at run
  change Along (sup.onSite site) (sup.Throughout site (Alone site sup.store)) s
    ((supervise sup.ceiling).history (sup.onSite site) s) at calls
  change Along (sup.onSite site) (sup.Throughout site (Unlinked site sup.store)) s
    ((supervise sup.ceiling).history (sup.onSite site) s) at creations
  generalize (supervise sup.ceiling).history (sup.onSite site) s = h at run given calls creations ⊢
  obtain ⟨⟨rest, rfl, concerns, clean, count⟩, limit⟩ := reported_course _ h report run
  refine ⟨limit, ?_⟩
  have allocated : ((sup.store.allocate).run site.answer s).1 = .ok report.session.id := by
    have told := given.1
    change ((Supervisor.faulty _ _).run site.answer s).1 = _ at told
    rw [faulty_run] at told
    exact faulty_ok.mp told
  obtain ⟨shelf, held, reserved⟩ := Counter.allocate_alone (faulty_along _ _ s calls.1) allocated
  have bears : Bears sup.store report.session.id none (site.machine (sup.onSite site .allocate s).2) shelf := by
    refine ⟨?_, reserved, nofun⟩
    unfold Supervisor.onSite Supervisor.answer
    rw [faulty_run]
    exact held
  obtain ⟨shelf', later⟩ := bears_leave plain outside rest _ none concerns clean given.2 calls.2 creations.2 bears
  rw [count] at later
  exact ⟨shelf', later⟩

end Overseer.Session
