import Overseer.Proofs.Config.StepNodes

set_option autoImplicit false

namespace Overseer.Config

open Yaml Decode
open Text (Numeral.word32 Numeral.word64)
open Yaml.Buffered (Storable)

-- What is left out of the document of some settings: whole sections, and fields of sections.
structure Omission where
  sections : String → Bool
  fields : String → String → Bool

def Omission.none : Omission := ⟨fun _ => false, fun _ _ => false⟩

def storageEntries (s : Storage) : List (String × Node) := [("dir", .string s.directory), ("prefix", .string s.stem)]

def logEntries (s : Log) : List (String × Node) := [("path", .string s.path), ("console", flag s.console)]

def retryEntries (s : Retry) : List (String × Node) := [("retry-ceiling", .plain (Numeral.word32 s.ceiling))]

def workEntries (steps : Node) (s : Work) : List (String × Node) :=
  [("steps", steps)] ++ present "attempt-timeout-ms" (s.timeout.map fun n => .plain (Numeral.word64 n)) ++
    present "working-dir" (s.directory.map .string)

def notifyEntries (s : Notify) : List (String × Node) :=
  [("kind", .string s.channel.label), ("url", .string s.url), ("api-key-env", .string s.keyVariable)] ++
    present "to" (s.recipient.map .string) ++ present "from" (s.sender.map .string) ++
    [("subject-prefix", .string s.subject), ("timeout-ms", .plain (Numeral.word64 s.timeout))]

def sectionEntries (storage log retry work notify : Node) : List (String × Node) :=
  [("storage", storage), ("log", log), ("supervisor", retry), ("workload", work), ("notify", notify)]

theorem encode_entries (c : Config) :
    encode c = Steps.mapping (sectionEntries (Steps.mapping (storageEntries c.storage))
      (Steps.mapping (logEntries c.log)) (Steps.mapping (retryEntries c.retry))
      (Steps.mapping (workEntries (Steps.encode c.work.steps) c.work)) (Steps.mapping (notifyEntries c.notify))) :=
  rfl

def restoredStorage (left : String → Bool) (default_ s : Storage) : Storage where
  directory := if left "dir" then default_.directory else s.directory
  stem := if left "prefix" then default_.stem else s.stem

def restoredLog (left : String → Bool) (default_ s : Log) : Log where
  path := if left "path" then default_.path else s.path
  console := if left "console" then default_.console else s.console

def restoredRetry (left : String → Bool) (default_ s : Retry) : Retry where
  ceiling := if left "retry-ceiling" then default_.ceiling else s.ceiling

def restoredWork (left : String → Bool) (default_ s : Work) : Work where
  steps := if left "steps" then default_.steps else s.steps
  timeout := if left "attempt-timeout-ms" then default_.timeout else s.timeout
  directory := if left "working-dir" then default_.directory else s.directory

def restoredNotify (left : String → Bool) (default_ s : Notify) : Notify where
  channel := if left "kind" then default_.channel else s.channel
  url := if left "url" then default_.url else s.url
  keyVariable := if left "api-key-env" then default_.keyVariable else s.keyVariable
  recipient := if left "to" then default_.recipient else s.recipient
  sender := if left "from" then default_.sender else s.sender
  subject := if left "subject-prefix" then default_.subject else s.subject
  timeout := if left "timeout-ms" then default_.timeout else s.timeout

def restored (S : Omission) (default_ c : Config) : Config where
  storage := if S.sections "storage" then default_.storage
    else restoredStorage (S.fields "storage") default_.storage c.storage
  log := if S.sections "log" then default_.log else restoredLog (S.fields "log") default_.log c.log
  retry := if S.sections "supervisor" then default_.retry
    else restoredRetry (S.fields "supervisor") default_.retry c.retry
  work := if S.sections "workload" then default_.work
    else restoredWork (S.fields "workload") default_.work c.work
  notify := if S.sections "notify" then default_.notify
    else restoredNotify (S.fields "notify") default_.notify c.notify

def storageCopies (s : Storage) : Copies Storage :=
  [("dir", fun r => { r with directory := s.directory }), ("prefix", fun r => { r with stem := s.stem })]

def logCopies (s : Log) : Copies Log :=
  [("path", fun r => { r with path := s.path }), ("console", fun r => { r with console := s.console })]

def retryCopies (s : Retry) : Copies Retry := [("retry-ceiling", fun r => { r with ceiling := s.ceiling })]

def workCopies (s : Work) : Copies Work :=
  [("steps", fun r => { r with steps := s.steps }), ("attempt-timeout-ms", fun r => { r with timeout := s.timeout }),
   ("working-dir", fun r => { r with directory := s.directory })]

def notifyCopies (s : Notify) : Copies Notify :=
  [("kind", fun r => { r with channel := s.channel }), ("url", fun r => { r with url := s.url }),
   ("api-key-env", fun r => { r with keyVariable := s.keyVariable }),
   ("to", fun r => { r with recipient := s.recipient }), ("from", fun r => { r with sender := s.sender }),
   ("subject-prefix", fun r => { r with subject := s.subject }),
   ("timeout-ms", fun r => { r with timeout := s.timeout })]

section Sections

variable (left : String → Bool) (d : Document) (route : Route) (n : Node)

theorem storage_edited (default_ s : Storage)
    (edited : Edited (storageFields.map Member.key) (fun _ => True) (kept left (storageEntries s)) n) :
    record "StorageConfig" storageFields default_ d route n = .ok (restoredStorage left default_ s) := by
  apply section_edited _ storageFields (storageCopies (restoredStorage left default_ s)) _ default_ left _ d route n
    edited rfl
  case commute => simp [Copies.Commute, storageCopies]
  case single => simp [storageCopies]
  case distinct => simp [storageEntries]
  case own => simp [storageEntries, storageCopies]
  case whole => rfl
  case effects =>
    simp only [storageEntries, List.forall_mem_cons]
    refine ⟨fun stays => ?_, fun stays => ?_, List.forall_mem_nil _⟩
    all_goals
      simp only [restoredStorage, stays, Bool.false_eq_true, if_false]
      rfl
  case still =>
    simp +contextual [storageCopies, storageEntries, Copies.copy, List.lookup_cons, restoredStorage]

theorem flag_read (b : Bool) : boolean d route (flag b) = .ok b := by
  cases b <;> rfl

theorem log_edited (default_ s : Log)
    (edited : Edited (logFields.map Member.key) (fun _ => True) (kept left (logEntries s)) n) :
    record "LogConfig" logFields default_ d route n = .ok (restoredLog left default_ s) := by
  apply section_edited _ logFields (logCopies (restoredLog left default_ s)) _ default_ left _ d route n edited rfl
  case commute => simp [Copies.Commute, logCopies]
  case single => simp [logCopies]
  case distinct => simp [logEntries]
  case own => simp [logEntries, logCopies]
  case whole => rfl
  case effects =>
    simp only [logEntries, List.forall_mem_cons]
    refine ⟨fun stays => ?_, fun stays => ?_, List.forall_mem_nil _⟩
    · simp only [restoredLog, stays, Bool.false_eq_true, if_false]
      rfl
    · simp only [restoredLog, stays, Bool.false_eq_true, if_false]
      change (boolean d (.entry route "console") (flag s.console)).map _ = _
      rw [flag_read]
      rfl
  case still => simp +contextual [logCopies, logEntries, Copies.copy, List.lookup_cons, restoredLog]

theorem natural_read (expected : String) (k : Nat) (below : k < UInt64.size) :
    natural expected d route (.plain (Text.Numeral.text k)) = .ok k := by
  have spelled : Spelling.unsigned? UInt64.size (Text.Numeral.text k).toList = some k := by
    rw [Text.Numeral.text_digits, Spelling.unsigned_digits _ k below]
  unfold natural Node.plain
  simp only [Document.follow, spelled]
  rfl

theorem word64_read (k : UInt64) : word64 d route (.plain (Numeral.word64 k)) = .ok k := by
  rw [word64, Numeral.word64, natural_read d route _ _ k.toNat_lt]
  exact congrArg Except.ok UInt64.ofNat_toNat

theorem word32_read (k : UInt32) : word32 d route (.plain (Numeral.word32 k)) = .ok k := by
  have wide : k.toNat < UInt64.size := Nat.lt_trans k.toNat_lt (by decide)
  change (natural "u32" d route (.plain (Text.Numeral.text k.toNat)) >>= fun v => _) = _
  rw [natural_read d route _ _ wide]
  change (if k.toNat < UInt32.size then _ else _) = _
  rw [if_pos k.toNat_lt]
  exact congrArg Except.ok UInt32.ofNat_toNat

theorem retry_edited (default_ s : Retry)
    (edited : Edited (retryFields.map Member.key) (fun _ => True) (kept left (retryEntries s)) n) :
    record "SupervisorConfig" retryFields default_ d route n = .ok (restoredRetry left default_ s) := by
  apply section_edited _ retryFields (retryCopies (restoredRetry left default_ s)) _ default_ left _ d route n edited rfl
  case commute => simp [Copies.Commute, retryCopies]
  case single => simp [retryCopies]
  case distinct => simp [retryEntries]
  case own => simp [retryEntries, retryCopies]
  case whole => rfl
  case effects =>
    simp only [retryEntries, List.forall_mem_cons]
    refine ⟨fun stays => ?_, List.forall_mem_nil _⟩
    simp only [restoredRetry, stays, Bool.false_eq_true, if_false]
    change (word32 d (.entry route "retry-ceiling") (.plain (Numeral.word32 s.ceiling))).map _ = _
    rw [word32_read]
    rfl
  case still => simp +contextual [retryCopies, retryEntries, Copies.copy, restoredRetry]

theorem optional_word64_read (parent : Route) (k : UInt64) :
    optional word64 parent d route (.plain (Numeral.word64 k)) = .ok (some k) := by
  have stays : isAbsent ⟨Numeral.word64 k, .plain, none⟩ = .ok false := by
    simp [isAbsent, Numeral.word64, text_filled, text_something]
  have read := word64_read d route k
  unfold Node.plain at read ⊢
  unfold Decode.optional
  simp only [Document.follow, stays, read]
  rfl

theorem present_each {α : Type} (p : String × Node → Prop) (key : String) (o : Option α) (write : α → Node)
    (each : ∀ a, o = some a → p (key, write a)) : ∀ e ∈ present key (o.map write), p e := by
  cases o with
  | none => exact List.forall_mem_nil _
  | some a => exact List.forall_mem_singleton.mpr (each a rfl)

theorem work_edited (default_ s : Work) (steps : Node) (timeless : default_.timeout = none)
    (homeless : default_.directory = none)
    (read : ∀ route, Steps.decode 3 d route steps = .ok s.steps)
    (edited : Edited (workFields.map Member.key) (fun _ => True) (kept left (workEntries steps s)) n) :
    record "WorkloadConfig" workFields default_ d route n = .ok (restoredWork left default_ s) := by
  apply section_edited _ workFields (workCopies (restoredWork left default_ s)) _ default_ left _ d route n edited rfl
  case commute => simp [Copies.Commute, workCopies]
  case single => simp [workCopies]
  case distinct =>
    unfold workEntries
    cases s.timeout <;> cases s.directory <;> simp [present]
  case own =>
    unfold workEntries
    cases s.timeout <;> cases s.directory <;> simp [present, workCopies]
  case whole => rfl
  case effects =>
    refine List.forall_mem_append.mpr ⟨List.forall_mem_append.mpr ⟨List.forall_mem_singleton.mpr ?_, ?_⟩, ?_⟩
    · intro stays
      simp only [restoredWork, stays, Bool.false_eq_true, if_false]
      change (Steps.decode 3 d (.entry route "steps") steps).map _ = _
      rw [read]
      rfl
    · refine present_each _ _ _ _ fun k set stays => ?_
      simp only [restoredWork, stays, Bool.false_eq_true, if_false, set]
      change (optional word64 route d (.entry route "attempt-timeout-ms") (.plain (Numeral.word64 k))).map _ = _
      rw [optional_word64_read]
      rfl
    · refine present_each _ _ _ _ fun path set stays => ?_
      simp only [restoredWork, stays, Bool.false_eq_true, if_false, set]
      rfl
  case still =>
    obtain ⟨steps, timeout, directory⟩ := default_
    subst timeless homeless
    unfold workEntries restoredWork
    cases s.timeout <;> cases s.directory <;>
      simp +contextual [workCopies, present, Copies.copy, List.lookup_cons]

theorem channel_read (parent : Route) (c : Channel) : choice channels parent d route (.string c.label) = .ok c := by
  cases c <;> rfl

theorem notify_edited (default_ s : Notify) (unaddressed : default_.recipient = none) (unsent : default_.sender = none)
    (edited : Edited (notifyFields.map Member.key) (fun _ => True) (kept left (notifyEntries s)) n) :
    record "NotifyConfig" notifyFields default_ d route n = .ok (restoredNotify left default_ s) := by
  apply section_edited _ notifyFields (notifyCopies (restoredNotify left default_ s)) _ default_ left _ d route n edited rfl
  case commute => simp [Copies.Commute, notifyCopies]
  case single => simp [notifyCopies]
  case distinct =>
    unfold notifyEntries
    cases s.recipient <;> cases s.sender <;> simp [present]
  case own =>
    unfold notifyEntries
    cases s.recipient <;> cases s.sender <;> simp [present, notifyCopies]
  case whole => rfl
  case effects =>
    unfold notifyEntries
    simp only [List.forall_mem_append, List.forall_mem_cons]
    refine ⟨⟨⟨⟨fun stays => ?_, fun stays => ?_, fun stays => ?_, List.forall_mem_nil _⟩,
      present_each _ _ _ _ fun recipient set stays => ?_⟩, present_each _ _ _ _ fun sender set stays => ?_⟩,
      fun stays => ?_, fun stays => ?_, List.forall_mem_nil _⟩
    · simp only [restoredNotify, stays, Bool.false_eq_true, if_false]
      change (choice channels route d (.entry route "kind") (.string s.channel.label)).map _ = _
      rw [channel_read]
      rfl
    · simp only [restoredNotify, stays, Bool.false_eq_true, if_false]
      rfl
    · simp only [restoredNotify, stays, Bool.false_eq_true, if_false]
      rfl
    · simp only [restoredNotify, stays, Bool.false_eq_true, if_false, set]
      rfl
    · simp only [restoredNotify, stays, Bool.false_eq_true, if_false, set]
      rfl
    · simp only [restoredNotify, stays, Bool.false_eq_true, if_false]
      rfl
    · simp only [restoredNotify, stays, Bool.false_eq_true, if_false]
      change (word64 d (.entry route "timeout-ms") (.plain (Numeral.word64 s.timeout))).map _ = _
      rw [word64_read]
      rfl
  case still =>
    obtain ⟨channel, url, keyVariable, recipient, sender, subject, timeout⟩ := default_
    subst unaddressed unsent
    unfold notifyEntries restoredNotify
    cases s.recipient <;> cases s.sender <;>
      simp +contextual [notifyCopies, present, Copies.copy, List.lookup_cons]

end Sections

structure Parts where
  storage : Node
  log : Node
  retry : Node
  steps : Node
  work : Node
  notify : Node

def EditedSteps (fits : Node → Prop) (steps : List Workload.Step) (n : Node) : Prop :=
  ∃ nodes, n = .sequence none nodes ∧ List.Forall₂
    (fun step n => Edited (Steps.kindOfStep step).known fits (Steps.stepEntries step) n) steps nodes

-- What is put into a step has to fit; into a section or among the sections, anything can be put.
structure EditedParts (S : Omission) (fits : Node → Prop) (c : Config) (p : Parts) (n : Node) : Prop where
  storage : Edited (storageFields.map Member.key) (fun _ => True)
    (kept (S.fields "storage") (storageEntries c.storage)) p.storage
  log : Edited (logFields.map Member.key) (fun _ => True) (kept (S.fields "log") (logEntries c.log)) p.log
  retry : Edited (retryFields.map Member.key) (fun _ => True)
    (kept (S.fields "supervisor") (retryEntries c.retry)) p.retry
  steps : EditedSteps fits c.work.steps p.steps
  work : Edited (workFields.map Member.key) (fun _ => True)
    (kept (S.fields "workload") (workEntries p.steps c.work)) p.work
  notify : Edited (notifyFields.map Member.key) (fun _ => True)
    (kept (S.fields "notify") (notifyEntries c.notify)) p.notify
  root : Edited ((sections c).map Member.key) (fun _ => True)
    (kept S.sections (sectionEntries p.storage p.log p.retry p.work p.notify)) n

-- The encoding of some settings, with parts left out, entries put in and keys moved.
def Edits (S : Omission) (fits : Node → Prop) (c : Config) (n : Node) : Prop := ∃ p, EditedParts S fits c p n

def configCopies (c : Config) : Copies Config :=
  [("storage", fun r => { r with storage := c.storage }), ("log", fun r => { r with log := c.log }),
   ("supervisor", fun r => { r with retry := c.retry }), ("workload", fun r => { r with work := c.work }),
   ("notify", fun r => { r with notify := c.notify })]

theorem edited_self (known : List String) (fits : Node → Prop) (entries : List (String × Node)) :
    Edited known fits entries (Steps.mapping entries) :=
  ⟨entries, [], rfl, by rw [List.append_nil], .nil, List.forall_mem_nil _⟩

theorem kept_all (entries : List (String × Node)) : kept (fun _ => false) entries = entries :=
  List.filter_eq_self.mpr fun _ _ => rfl

theorem restored_all (default_ c : Config) : restored .none default_ c = c := rfl

theorem edits_self (fits : Node → Prop) (c : Config) : Edits .none fits c (encode c) := by
  rw [encode_entries]
  refine ⟨⟨Steps.mapping (storageEntries c.storage), Steps.mapping (logEntries c.log),
    Steps.mapping (retryEntries c.retry), Steps.encode c.work.steps,
    Steps.mapping (workEntries (Steps.encode c.work.steps) c.work), Steps.mapping (notifyEntries c.notify)⟩,
    ?_, ?_, ?_, ⟨_, rfl, ?_⟩, ?_, ?_, ?_⟩
  case refine_4 =>
    rw [List.forall₂_map_right_iff]
    refine List.forall₂_same.mpr fun step _ => ?_
    rw [Steps.encode_step_entries]
    exact edited_self _ _ _
  all_goals
    simp only [Omission.none, kept_all]
    exact edited_self _ _ _

theorem edited_decoded (here : Option String) (S : Omission) (c : Config) (d : Document)
    (edits : Edits S (Storable 124) c d.root) :
    decode (standard here) d = .ok (restored S (standard here) c) := by
  obtain ⟨p, parts⟩ := edits
  obtain ⟨nodes, list, steps⟩ := parts.steps
  have read : ∀ route, Steps.decode 3 d route p.steps = .ok c.work.steps := by
    intro route
    rw [list]
    exact Steps.steps_edited d route c.work.steps nodes steps
  apply section_edited _ (sections (standard here)) (configCopies (restored S (standard here) c)) _ (standard here)
    S.sections _ d .root d.root parts.root rfl
  case commute => simp [Copies.Commute, configCopies]
  case single => simp [configCopies]
  case distinct => simp [sectionEntries]
  case own => simp [sectionEntries, configCopies]
  case whole => rfl
  case effects =>
    simp only [sectionEntries, List.forall_mem_cons]
    refine ⟨fun stays => ?_, fun stays => ?_, fun stays => ?_, fun stays => ?_, fun stays => ?_, List.forall_mem_nil _⟩
    · simp only [restored, stays, Bool.false_eq_true, if_false]
      change (record "StorageConfig" storageFields (standard here).storage d (.entry .root "storage") p.storage).map _ = _
      rw [storage_edited _ d _ _ _ _ parts.storage]
      rfl
    · simp only [restored, stays, Bool.false_eq_true, if_false]
      change (record "LogConfig" logFields (standard here).log d (.entry .root "log") p.log).map _ = _
      rw [log_edited _ d _ _ _ _ parts.log]
      rfl
    · simp only [restored, stays, Bool.false_eq_true, if_false]
      change (record "SupervisorConfig" retryFields (standard here).retry d (.entry .root "supervisor") p.retry).map _ = _
      rw [retry_edited _ d _ _ _ _ parts.retry]
      rfl
    · simp only [restored, stays, Bool.false_eq_true, if_false]
      change (record "WorkloadConfig" workFields (standard here).work d (.entry .root "workload") p.work).map _ = _
      rw [work_edited _ d _ _ _ _ p.steps rfl rfl read parts.work]
      rfl
    · simp only [restored, stays, Bool.false_eq_true, if_false]
      change (record "NotifyConfig" notifyFields (standard here).notify d (.entry .root "notify") p.notify).map _ = _
      rw [notify_edited _ d _ _ _ _ rfl rfl parts.notify]
      rfl
  case still =>
    simp +contextual [configCopies, sectionEntries, Copies.copy, List.lookup_cons, restored]

theorem edited_front (known : List String) (fits : Node → Prop) (entries extra : List (String × Node))
    (apart : (extra.map Prod.fst).Nodup) (unknown : ∀ e ∈ extra, e.1 ∉ known ∧ fits e.2) :
    Edited known fits entries (Steps.mapping (extra ++ entries)) :=
  ⟨extra ++ entries, extra, rfl, List.perm_append_comm, apart, unknown⟩

theorem partial_documents_decode (here : Option String) (S : Omission) (c : Config) (d : Document)
    (edits : Edits S (Storable 124) c d.root) :
    decode (standard here) d = .ok (restored S (standard here) c) ∧
    ∀ whole : Document, whole.root = encode c → decode (standard here) whole = .ok c := by
  refine ⟨edited_decoded here S c d edits, ?_⟩
  intro whole root
  rw [edited_decoded here .none c whole (root ▸ edits_self _ c), restored_all]

def onlyWork : Omission := ⟨fun key => key ≠ "workload", fun _ _ => false⟩

def nap : Config := { standard none with work := ⟨[.sleep 1], none, none⟩ }

def noted (inside beside : Node) : Document where
  root := Steps.mapping [("note", beside), ("workload", Steps.mapping [("steps",
    .sequence none [Steps.mapping ([("note", inside)] ++ Steps.stepEntries (.sleep 1))])])]
  anchored := []
  size := 0

theorem edits_noted (fits : Node → Prop) (inside beside : Node) (fit : fits inside) :
    Edits onlyWork fits nap (noted inside beside).root := by
  refine ⟨⟨Steps.mapping (storageEntries nap.storage), Steps.mapping (logEntries nap.log),
    Steps.mapping (retryEntries nap.retry), .sequence none [Steps.mapping ([("note", inside)] ++ Steps.stepEntries (.sleep 1))],
    Steps.mapping [("steps", .sequence none [Steps.mapping ([("note", inside)] ++ Steps.stepEntries (.sleep 1))])],
    Steps.mapping (notifyEntries nap.notify)⟩, ?_, ?_, ?_, ⟨_, rfl, .cons ?_ .nil⟩, ?_, ?_, ?_⟩
  case refine_4 =>
    exact edited_front _ fits _ [("note", inside)] (by simp) (by simp [Steps.Kind.known, Steps.kindOfStep, Steps.Kind.fields, fit])
  case refine_7 =>
    exact edited_front _ _ _ [("note", beside)] (by simp) (by simp [sections, field])
  all_goals
    simp only [onlyWork, kept_all]
    exact edited_self _ _ _

theorem partial_documents_decode_noted :
    Edits onlyWork (Storable 124) nap (noted (.plain "7") (.plain "18446744073709551616")).root ∧
      decode (standard none) (noted (.plain "7") (.plain "18446744073709551616")) = .ok nap := by
  have edits := edits_noted (Storable 124) (.plain "7") (.plain "18446744073709551616")
    (.scalar 124 ⟨"7", .plain, none⟩ (.natural 7) rfl rfl (by simp))
  exact ⟨edits, (partial_documents_decode none onlyWork nap _ edits).1⟩

-- A number that 64 bits do not hold is refused in a step, although no field is asked for it.
theorem wide_note_refused :
    ¬∀ (here : Option String) (S : Omission) (c : Config) (d : Document), Edits S (fun _ => True) c d.root →
      decode (standard here) d = .ok (restored S (standard here) c) := by
  intro claimed
  have accepted := claimed none onlyWork nap _
    (edits_noted (fun _ => True) (.plain "18446744073709551616") .nothing trivial)
  have refused : decode (standard none) (noted (.plain "18446744073709551616") .nothing) =
      .error (.at (.entry (.item (.entry (.entry .root "workload") "steps") 0) "note")
        (.wrongType (.wide 18446744073709551616) "any value")) := by
    decide +kernel
  rw [refused] at accepted
  cases accepted

end Overseer.Config
