import Overseer.Proofs.Counter.Stock
import Overseer.Proofs.Session.Watch

set_option autoImplicit false

namespace Overseer.Session

open Counter (Failure Highest Shelf Stocked artifactName temporaryName)
open Files.Tree (Ordinary)
open Host (Listing Machine)
open Program (Given Runs leave)
open Text (Numeral.word32)

-- Those who work with the store in one run. They have a state of their own, and what they do to the machine
-- leaves the store's directory alone.
structure Company (store : Counter.Store) where
  ceiling : UInt32
  listing : Listing
  State : Type
  start : State
  others : (c : Call) → Machine × State → Answer c × (Machine × State)
  apart : ∀ c m s shelf, Stocked store m shelf → Stocked store (others c (m, s)).2.1 shelf

variable {store : Counter.Store}

namespace Company

variable (company : Company store)

def onStore {α : Type} (action : Host.Action (Except Failure α)) (s : Machine × company.State) :
    Except Fault α × (Machine × company.State) :=
  let ended := action.run company.listing.answer s.1
  (ended.1.mapError Failure.fault, ended.2, s.2)

def answer : (c : Call) → Machine × company.State → Answer c × (Machine × company.State)
  | .allocate, s => company.onStore store.allocate s
  | .begin id, s => company.onStore (store.begin id) s
  | .update id count, s => company.onStore (store.update id count) s
  | .log message, s => company.others (.log message) s
  | .attempt, s => company.others .attempt s
  | .notify id count, s => company.others (.notify id count) s
  | .stopRequested, s => company.others .stopRequested s
  | .note record, s => company.others (.note record) s

def history (m : Machine) : History := (supervise company.ceiling).history company.answer (m, company.start)

def after (m : Machine) : Machine := ((supervise company.ceiling).run company.answer (m, company.start)).2.1

theorem granted (action : Host.Action (Except Failure Unit)) (m : Machine) (s : company.State)
    (served : ∀ f, (company.onStore action (m, s)).1 ≠ .error f) :
    ∃ m', action.run company.listing.answer m = (.ok (), m') := by
  cases told : (action.run company.listing.answer m).1 with
  | error f => exact absurd (congrArg (Except.mapError Failure.fault) told) (served f.fault)
  | ok done => exact ⟨_, Prod.fst_eq_iff.mp told⟩

end Company

def histories : List (Company store) → Machine → List History
  | [], _ => []
  | company :: rest, m => company.history m :: histories rest (company.after m)

def machineAfter : List (Company store) → Machine → Machine
  | [], m => m
  | company :: rest, m => machineAfter rest (company.after m)

def Served : Exchange → Prop
  | ⟨.allocate, .error _⟩ => False
  | ⟨.begin _, .error _⟩ => False
  | ⟨.update _ _, .error _⟩ => False
  | _ => True

def Concerns (id : UInt64) : Call → Prop
  | .allocate => False
  | .begin own => own = id
  | .update own _ => own = id
  | _ => True

theorem within_concerns {id : UInt64} {c : Call} (within : Within id c) : Concerns id c := by
  cases within with
  | update count => rfl
  | _ => trivial

theorem driven_concerns {id : UInt64} {ceiling : UInt32} {h : History} {r : Except Fault Report}
    (driven : Driven id ceiling h r) : ∀ e ∈ h, Concerns id e.1 := by
  cases driven with
  | unbegun f => simp [Concerns]
  | unstarted f => simp [Concerns, lost]
  | started h r attempted =>
      have begun : ∀ e ∈ opening id, Concerns id e.1 := by simp [opening, Concerns, logged, moved, noted]
      intro e member
      rcases List.mem_append.mp member with first | later
      · exact begun e first
      · exact within_concerns (attempted_within attempted e later)

def Working (stem : String) (id : UInt64) (shelf : Shelf) : Option UInt32 → Shelf → Prop
  | none, now => now = shelf
  | some count, now => ∃ mode, now = shelf.filed stem id (Numeral.word32 count).toUTF8 mode

section Run

variable {id : UInt64} {shelf now : Shelf} {m : Machine}

theorem working_ordinary (ordinary : ∀ n, Ordinary (shelf [n])) (count : Option UInt32)
    (working : Working store.stem id shelf count now) (n : Files.Name) : Ordinary (now [n]) := by
  cases count with
  | none => exact working ▸ ordinary n
  | some count =>
      obtain ⟨mode, rfl⟩ := working
      exact Counter.filed_ordinary ordinary _ _ _ n

theorem working_written {e : Exchange} {next : UInt32} (wrote : written id e = some next) (count : Option UInt32)
    (mode : Nat) (working : Working store.stem id shelf count now) :
    Working store.stem id shelf ((written id e).or count)
      (now.filed store.stem id (Numeral.word32 next).toUTF8 mode) := by
  rw [wrote]
  cases count with
  | none => exact ⟨mode, by rw [working]⟩
  | some count =>
      obtain ⟨before, rfl⟩ := working
      exact ⟨mode, Counter.filed_filed _ _ _ _ _⟩

variable (company : Company store) (plain : Counter.Stem store.stem) (ordinary : ∀ n, Ordinary (shelf [n]))

include plain ordinary

theorem working_step (c : Call) (s : company.State) (count : Option UInt32) (concerns : Concerns id c)
    (served : Served ⟨c, (company.answer c (m, s)).1⟩) (working : Working store.stem id shelf count now)
    (stocked : Stocked store m now) :
    ∃ now', Working store.stem id shelf ((written id ⟨c, (company.answer c (m, s)).1⟩).or count) now' ∧
      Stocked store (company.answer c (m, s)).2.1 now' := by
  have still := working_ordinary ordinary count working
  cases c with
  | allocate => exact absurd concerns not_false
  | begin own =>
      obtain rfl : own = id := concerns
      obtain ⟨m', run⟩ := company.granted (store.begin own) m s fun f refused => by
        simp only [Company.answer, refused] at served
        exact served
      obtain ⟨mode, later⟩ := Counter.stocked_begin plain still stocked (congrArg Prod.fst run)
      rw [run] at later
      simp only [Company.answer, Company.onStore, run]
      have wrote : written own ⟨.begin own, .ok ()⟩ = some 0 := if_pos rfl
      exact ⟨_, working_written wrote count mode working, later⟩
  | update own next =>
      obtain rfl : own = id := concerns
      obtain ⟨m', run⟩ := company.granted (store.update own next) m s fun f refused => by
        simp only [Company.answer, refused] at served
        exact served
      obtain ⟨mode, later⟩ := Counter.stocked_update plain still stocked next (congrArg Prod.fst run)
      rw [run] at later
      simp only [Company.answer, Company.onStore, run]
      have wrote : written own ⟨.update own next, .ok ()⟩ = some next := if_pos rfl
      exact ⟨_, working_written wrote count mode working, later⟩
  | log message => exact ⟨now, working, company.apart (.log message) m s now stocked⟩
  | attempt => exact ⟨now, working, company.apart .attempt m s now stocked⟩
  | notify own next => exact ⟨now, working, company.apart (.notify own next) m s now stocked⟩
  | stopRequested => exact ⟨now, working, company.apart .stopRequested m s now stocked⟩
  | note record => exact ⟨now, working, company.apart (.note record) m s now stocked⟩

theorem working_leave (h : History) (s : company.State) (count : Option UInt32)
    (concerns : ∀ e ∈ h, Concerns id e.1) (served : ∀ e ∈ h, Served e) (given : Given company.answer (m, s) h)
    (working : Working store.stem id shelf count now) (stocked : Stocked store m now) :
    ∃ now', Working store.stem id shelf (kept id count h) now' ∧
      Stocked store (leave company.answer (m, s) h).1 now' := by
  induction h generalizing m s count now with
  | nil => exact ⟨now, working, stocked⟩
  | cons e rest ih =>
      obtain ⟨concern, concernRest⟩ := List.forall_mem_cons.mp concerns
      obtain ⟨serve, serveRest⟩ := List.forall_mem_cons.mp served
      obtain ⟨now', working', stocked'⟩ :=
        working_step company plain ordinary e.1 s count concern (given.1 ▸ serve) working stocked
      rw [given.1] at working'
      exact ih _ _ concernRest serveRest given.2 working' stocked'

end Run

theorem kept_some (id : UInt64) (count : UInt32) (h : History) : ∃ last, kept id (some count) h = some last := by
  induction h generalizing count with
  | nil => exact ⟨count, rfl⟩
  | cons e rest ih =>
      change ∃ last, kept id ((written id e).or (some count)) rest = some last
      cases written id e with
      | none => exact ih count
      | some next => exact ih next

theorem closing_concerns (id : UInt64) (line : String) (told : Except Fault Unit) (notes : History)
    (quiet : ∀ e ∈ notes, IsNote e) : ∀ e ∈ ⟨.log line, told⟩ :: notes, Concerns id e.1 := by
  refine List.forall_mem_cons.mpr ⟨trivial, fun e member => ?_⟩
  obtain ⟨diagnostic, note⟩ := quiet e member
  rw [note]
  trivial

-- After its allocation a run has to do with no session but its own.
theorem allocated_concerns (ceiling : UInt32) (id : UInt64) (rest : History) (r : Except Fault Report)
    (run : Runs (supervise ceiling) (⟨.allocate, .ok id⟩ :: rest) r) : ∀ e ∈ rest, Concerns id e.1 := by
  obtain ⟨body, line, told, notes, split, quiet, supervised⟩ := supervised_course run
  have closing := closing_concerns id line told notes quiet
  cases supervised with
  | unallocated f => cases split
  | faulted own f body told notes drive =>
      obtain ⟨rfl, rfl⟩ : id = own ∧ rest = _ := by simpa using split
      exact List.forall_mem_append.mpr ⟨driven_concerns (driven_course drive), closing⟩
  | finished own report body told notes drive =>
      obtain ⟨rfl, rfl⟩ : id = own ∧ rest = _ := by simpa using split
      exact List.forall_mem_append.mpr ⟨driven_concerns (driven_course drive), closing⟩

theorem served_course (ceiling : UInt32) (h : History) (r : Except Fault Report) (run : Runs (supervise ceiling) h r)
    (served : ∀ e ∈ h, Served e) :
    ∃ id rest, h = ⟨.allocate, .ok id⟩ :: ⟨.begin id, .ok ()⟩ :: rest ∧ ∀ e ∈ rest, Concerns id e.1 := by
  have beginning (id : UInt64) (own : History) (ended : Except Fault Report) (all : ∀ e ∈ own, Served e)
      (driven : Driven id ceiling own ended) : ∃ rest, own = ⟨.begin id, .ok ()⟩ :: rest := by
    cases driven with
    | unbegun f => exact absurd (all _ List.mem_cons_self) not_false
    | unstarted f => exact ⟨_, rfl⟩
    | started h r attempted => exact ⟨_, rfl⟩
  obtain ⟨body, line, told, notes, rfl, quiet, supervised⟩ := supervised_course run
  have before := (List.forall_mem_append.mp served).1
  cases supervised with
  | unallocated f => exact absurd (before _ List.mem_cons_self) not_false
  | faulted id f own told notes drive =>
      obtain ⟨rest, rfl⟩ := beginning id own _ (List.forall_mem_cons.mp before).2 (driven_course drive)
      have concerns := allocated_concerns ceiling id _ _ run
      exact ⟨id, _, rfl, (List.forall_mem_cons.mp concerns).2⟩
  | finished id report own told notes drive =>
      obtain ⟨rest, rfl⟩ := beginning id own _ (List.forall_mem_cons.mp before).2 (driven_course drive)
      have concerns := allocated_concerns ceiling id _ _ run
      exact ⟨id, _, rfl, (List.forall_mem_cons.mp concerns).2⟩

def numbered (highest i : Nat) : UInt64 := UInt64.ofNat (highest + 1 + i)

theorem company_continues (company : Company store) (m : Machine) (shelf : Shelf) (highest : Nat)
    (plain : Counter.Stem store.stem) (ordinary : ∀ n, Ordinary (shelf [n])) (stocked : Stocked store m shelf)
    (top : Highest store.stem shelf.Has highest) (served : ∀ e ∈ company.history m, Served e) :
    ∃ count mode, (∃ rest, company.history m = ⟨.allocate, .ok (numbered highest 0)⟩ :: rest) ∧
      kept (numbered highest 0) none (company.history m) = some count ∧
      Stocked store (company.after m) (shelf.filed store.stem (numbered highest 0) (Numeral.word32 count).toUTF8 mode) := by
  have run := Program.runs_history company.answer (supervise company.ceiling) (m, company.start)
  have given := Program.history_given company.answer (supervise company.ceiling) (m, company.start)
  have left := Program.leave_history company.answer (supervise company.ceiling) (m, company.start)
  obtain ⟨id, rest, split, concerns⟩ := served_course company.ceiling _ _ run served
  unfold Company.history at served
  unfold Company.history Company.after
  rw [← left]
  rw [split] at given served ⊢
  obtain ⟨allocated, later⟩ := given
  have granted : (store.allocate.run company.listing.answer m).1 = .ok id := by
    change (store.allocate.run company.listing.answer m).1.mapError Failure.fault = .ok id at allocated
    cases told : (store.allocate.run company.listing.answer m).1 with
    | error f =>
        rw [told] at allocated
        cases allocated
    | ok own =>
        rw [told] at allocated
        exact congrArg Except.ok (Except.ok.inj allocated)
  obtain ⟨rfl, begun⟩ := Counter.stocked_allocate highest stocked top granted
  obtain ⟨last, ended⟩ := kept_some (numbered highest 0) 0 rest
  have own : ∀ e ∈ ⟨.begin (numbered highest 0), .ok ()⟩ :: rest, Concerns (numbered highest 0) e.1 :=
    List.forall_mem_cons.mpr ⟨rfl, concerns⟩
  obtain ⟨now, working, after⟩ := working_leave company plain ordinary _ company.start none own
    (List.forall_mem_cons.mp served).2 later rfl begun
  have count : kept (numbered highest 0) none (⟨.begin (numbered highest 0), .ok ()⟩ :: rest) = some last := by
    rw [← ended]
    simp [kept, written]
  rw [count] at working
  obtain ⟨mode, rfl⟩ := working
  exact ⟨last, mode, ⟨_, rfl⟩, count, after⟩

-- The numbers of so many sessions after the highest all exist.
theorem numbered_injective (highest n i j : Nat) (room : highest + n < UInt64.size) (first : i < n) (second : j < n)
    (same : numbered highest i = numbered highest j) : i = j := by
  have numbers := congrArg UInt64.toNat same
  rw [numbered, numbered, UInt64.toNat_ofNat_of_lt' (by omega), UInt64.toNat_ofNat_of_lt' (by omega)] at numbers
  omega

theorem numbered_succ (highest i : Nat) : numbered (highest + 1) i = numbered highest (i + 1) := by
  rw [numbered, numbered]
  congr 1
  omega

-- What a shelf has become after sessions that ended with these counts: one artifact more for each of them,
-- no temporary of theirs, and all else as it was.
structure Continued (stem : String) (highest : Nat) (shelf : Shelf) (counts : List UInt32) (shelf' : Shelf) : Prop where
  fresh : ∀ i < counts.length, shelf [.text (artifactName stem (numbered highest i))] = none
  filed : ∀ i count, counts[i]? = some count → ∃ mode,
    shelf' [.text (artifactName stem (numbered highest i))] = some (.file (Numeral.word32 count).toUTF8 mode)
  cleared : ∀ i < counts.length, shelf' [.text (temporaryName stem (numbered highest i))] = none
  same : ∀ q, (∀ i < counts.length, q ≠ [.text (artifactName stem (numbered highest i))] ∧
    q ≠ [.text (temporaryName stem (numbered highest i))]) → shelf' q = shelf q

theorem continued_cons (stem : String) (highest : Nat) (shelf shelf' : Shelf) (count : UInt32) (counts : List UInt32)
    (mode : Nat) (room : highest + (counts.length + 1) < UInt64.size)
    (top : Highest stem shelf.Has highest)
    (later : Continued stem (highest + 1)
      (shelf.filed stem (numbered highest 0) (Numeral.word32 count).toUTF8 mode) counts shelf') :
    Continued stem highest shelf (count :: counts) shelf' := by
  have apart (i : Nat) (below : i < counts.length) : numbered highest 0 ≠ numbered (highest + 1) i := by
    rw [numbered_succ]
    intro equal
    exact absurd (numbered_injective highest _ 0 (i + 1) room (by omega) (by omega) equal) (by omega)
  have artifact := later.same [.text (artifactName stem (numbered highest 0))] fun i below =>
    ⟨by simpa using fun equal => apart i below (Counter.artifact_injective _ _ _ equal),
      by simpa using Counter.artifact_ne_temporary stem _ _⟩
  have temporary := later.same [.text (temporaryName stem (numbered highest 0))] fun i below =>
    ⟨by simpa using (Counter.artifact_ne_temporary stem _ _).symm,
      by simpa using fun equal => apart i below (Counter.temporary_injective _ _ _ equal)⟩
  rw [Shelf.filed_artifact] at artifact
  rw [Shelf.filed_temporary] at temporary
  constructor
  · intro i below
    rw [List.length_cons] at below
    apply Counter.highest_new stem highest top
    rw [numbered, UInt64.toNat_ofNat_of_lt' (by omega)]
    omega
  · intro i held found
    cases i with
    | zero =>
        obtain rfl := Option.some.inj found
        exact ⟨mode, artifact⟩
    | succ i =>
        rw [← numbered_succ]
        exact later.filed i held found
  · intro i below
    cases i with
    | zero => exact temporary
    | succ i =>
        rw [← numbered_succ]
        exact later.cleared i (Nat.lt_of_succ_lt_succ below)
  · intro n outside
    obtain ⟨notArtifact, notTemporary⟩ := outside 0 (by simp)
    have kept := later.same n fun i below => by
      rw [numbered_succ]
      exact outside (i + 1) (Nat.succ_lt_succ below)
    exact kept.trans (Shelf.filed_other stem _ mode n notArtifact notTemporary)

theorem sessions_continue (store : Counter.Store) (companies : List (Company store)) (m : Machine) (shelf : Shelf)
    (highest : Nat) (plain : Counter.Stem store.stem) (ordinary : ∀ n, Ordinary (shelf [n]))
    (stocked : Stocked store m shelf) (top : Highest store.stem shelf.Has highest)
    (room : highest + companies.length < UInt64.size)
    (served : ∀ h ∈ histories companies m, ∀ e ∈ h, Served e) :
    ∃ counts shelf', counts.length = companies.length ∧ Stocked store (machineAfter companies m) shelf' ∧
      Continued store.stem highest shelf counts shelf' ∧
      ∀ i h, (histories companies m)[i]? = some h →
        (∃ rest, h = ⟨.allocate, .ok (numbered highest i)⟩ :: rest) ∧ kept (numbered highest i) none h = counts[i]? := by
  -- The next run begins with the shelf that this one leaves, and with its number as the highest.
  induction companies generalizing m shelf highest with
  | nil => exact ⟨[], shelf, rfl, stocked, ⟨by simp, by simp, by simp, fun _ _ => rfl⟩, by simp [histories]⟩
  | cons company rest ih =>
      obtain ⟨own, others⟩ := List.forall_mem_cons.mp served
      rw [List.length_cons] at room
      obtain ⟨count, mode, allocated, last, after⟩ :=
        company_continues company m shelf highest plain ordinary stocked top own
      have next : (numbered highest 0).toNat = highest + 1 := UInt64.toNat_ofNat_of_lt' (by omega)
      obtain ⟨counts, shelf', length, ended, continued, all⟩ := ih (company.after m) _ (highest + 1)
        (Counter.filed_ordinary ordinary _ _ _) after (Counter.filed_highest _ _ _ _ top next) (by omega) others
      refine ⟨count :: counts, shelf', congrArg (· + 1) length, ended, ?_, fun i h found => ?_⟩
      · exact continued_cons store.stem highest shelf shelf' count counts mode (by omega) top continued
      · cases i with
        | zero =>
            obtain rfl := Option.some.inj found
            exact ⟨allocated, last⟩
        | succ i =>
            rw [← numbered_succ]
            exact all i h found

section Serving

variable {id : UInt64} {shelf : Shelf} {m : Machine} {place : Files.Location} (company : Company store)
  (plain : Counter.Stem store.stem) (fits : ∀ id, Files.Fits store.directory (temporaryName store.stem id))
  (idle : ∀ c s, (company.others c s).2.1 = s.1)

include plain fits idle

theorem ready_step (c : Call) (s : company.State) (concerns : Concerns id c) (ready : Counter.Ready store m place shelf) :
    Served ⟨c, (company.answer c (m, s)).1⟩ ∧ ∃ shelf', Counter.Ready store (company.answer c (m, s)).2.1 place shelf' := by
  have passed (c : Call) : Counter.Ready store (company.others c (m, s)).2.1 place shelf := (idle c (m, s)).symm ▸ ready
  cases c with
  | allocate => exact absurd concerns not_false
  | begin own =>
      obtain ⟨m', mode, run, later⟩ := Counter.begin_ready company.listing plain fits ready own
      simp only [Company.answer, Company.onStore, run]
      exact ⟨trivial, _, later⟩
  | update own next =>
      obtain ⟨m', mode, run, later⟩ := Counter.update_ready company.listing plain fits ready own next
      simp only [Company.answer, Company.onStore, run]
      exact ⟨trivial, _, later⟩
  | log message => exact ⟨trivial, shelf, passed _⟩
  | attempt => exact ⟨trivial, shelf, passed _⟩
  | notify own next => exact ⟨trivial, shelf, passed _⟩
  | stopRequested => exact ⟨trivial, shelf, passed _⟩
  | note record => exact ⟨trivial, shelf, passed _⟩

theorem ready_served (h : History) (s : company.State) (concerns : ∀ e ∈ h, Concerns id e.1)
    (given : Given company.answer (m, s) h) (ready : Counter.Ready store m place shelf) : ∀ e ∈ h, Served e := by
  induction h generalizing m s shelf with
  | nil => exact List.forall_mem_nil _
  | cons e rest ih =>
      obtain ⟨concern, others⟩ := List.forall_mem_cons.mp concerns
      obtain ⟨now, later⟩ := given
      obtain ⟨served, shelf', still⟩ := ready_step company plain fits idle e.1 s concern ready
      rw [now] at served
      exact List.forall_mem_cons.mpr ⟨served, ih _ others later still⟩

theorem company_served (m : Machine) (highest : Nat) (prepared : Counter.Prepared store m shelf)
    (top : Highest store.stem shelf.Has highest) (room : highest + 1 < UInt64.size) :
    ∀ e ∈ company.history m, Served e := by
  obtain ⟨m', place, allocation, ready⟩ := Counter.allocate_prepared company.listing highest prepared top room
  have told : company.answer .allocate (m, company.start) = (.ok (UInt64.ofNat (highest + 1)), m', company.start) := by
    simp only [Company.answer, Company.onStore, allocation]
    rfl
  obtain ⟨rest, split⟩ : ∃ rest, company.history m =
      ⟨.allocate, (company.answer .allocate (m, company.start)).1⟩ :: rest := ⟨_, rfl⟩
  have run := Program.runs_history company.answer (supervise company.ceiling) (m, company.start)
  have given := Program.history_given company.answer (supervise company.ceiling) (m, company.start)
  unfold Company.history at split ⊢
  rw [split, told] at run
  rw [split] at given
  have later := given.2
  change Given company.answer (company.answer .allocate (m, company.start)).2 rest at later
  rw [told] at later
  rw [split, told]
  have concerns := allocated_concerns company.ceiling _ rest _ run
  exact List.forall_mem_cons.mpr ⟨trivial, ready_served company plain fits idle rest company.start concerns later ready⟩

end Serving

theorem sessions_served (store : Counter.Store) (companies : List (Company store)) (m : Machine) (shelf : Shelf)
    (highest : Nat) (plain : Counter.Stem store.stem)
    (fits : ∀ id, Files.Fits store.directory (temporaryName store.stem id))
    (idle : ∀ company ∈ companies, ∀ c s, (company.others c s).2.1 = s.1)
    (ordinary : ∀ n, Ordinary (shelf [n])) (clear : shelf.Clear store.stem) (prepared : Counter.Prepared store m shelf)
    (top : Highest store.stem shelf.Has highest) (room : highest + companies.length < UInt64.size) :
    ∀ h ∈ histories companies m, ∀ e ∈ h, Served e := by
  induction companies generalizing m shelf highest with
  | nil => exact List.forall_mem_nil _
  | cons company rest ih =>
      obtain ⟨own, others⟩ := List.forall_mem_cons.mp idle
      rw [List.length_cons] at room
      have served := company_served company plain fits own m highest prepared top (by omega)
      obtain ⟨count, mode, -, -, after⟩ :=
        company_continues company m shelf highest plain ordinary (Counter.prepared_stocked prepared) top served
      have next : (numbered highest 0).toNat = highest + 1 := UInt64.toNat_ofNat_of_lt' (by omega)
      obtain ⟨place, stands⟩ := Counter.stocked_filed _ _ _ after
      have still : ∀ n, Ordinary (shelf.filed store.stem (numbered highest 0) (Numeral.word32 count).toUTF8 mode [n]) :=
        Counter.filed_ordinary ordinary _ _ _
      have free : (shelf.filed store.stem (numbered highest 0) (Numeral.word32 count).toUTF8 mode).Clear store.stem :=
        Counter.filed_clear _ _ _ clear
      exact List.forall_mem_cons.mpr ⟨served, ih (company.after m) _ (highest + 1) others still free
        (.ready ⟨stands, still, free⟩) (Counter.filed_highest _ _ _ _ top next) (by omega)⟩

def Company.steady (store : Counter.Store) (verdict : Except Fault Workload.Verdict) : Company store where
  ceiling := 3
  listing := .plain
  State := Unit
  start := ()
  others
    | .attempt, s => (verdict, s)
    | c, s => ((obliging (fun _ => .failure) c 0).1, s)
  apart c m s shelf stocked := by
    cases c <;> exact stocked

-- One run that fails to the end and one that a fault breaks off.
def mishaps : List (Company ⟨"counters", "failures_"⟩) :=
  [.steady _ (.ok .failure), .steady _ (.error ⟨.execution, "no such program"⟩)]

theorem sessions_continue_mishaps :
    ∃ counts shelf', counts.length = 2 ∧ Stocked ⟨"counters", "failures_"⟩ (machineAfter mishaps Machine.fresh) shelf' ∧
      Continued "failures_" 0 .bare counts shelf' ∧
      ∀ i h, (histories mishaps Machine.fresh)[i]? = some h →
        (∃ rest, h = ⟨.allocate, .ok (numbered 0 i)⟩ :: rest) ∧ kept (numbered 0 i) none h = counts[i]? := by
  have plain := Counter.failures_stem
  obtain ⟨absent, makable⟩ := Counter.counters_absent
  have top : Highest "failures_" Shelf.bare.Has 0 := ⟨fun _ _ taken => absurd rfl taken, .inl rfl⟩
  have fits := Counter.fits_last Counter.counters_proper.nonempty plain ⟨by decide, by decide⟩
  have idle : ∀ company ∈ mishaps, ∀ c s, (company.others c s).2.1 = s.1 := by
    refine List.forall_mem_cons.mpr ⟨fun c s => ?_, List.forall_mem_singleton.mpr fun c s => ?_⟩
    · cases c <;> rfl
    · cases c <;> rfl
  have served := sessions_served _ mishaps Machine.fresh .bare 0 plain fits idle (fun _ => trivial)
    (fun _ => ⟨nofun, nofun⟩) (.makable absent makable) top (by decide)
  exact sessions_continue _ mishaps Machine.fresh .bare 0 plain (fun _ => trivial) (.absent absent) top (by decide) served

end Overseer.Session
