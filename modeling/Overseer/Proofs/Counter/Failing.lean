import Overseer.Proofs.Counter.Writing

set_option autoImplicit false

namespace Overseer.Counter

open Program (Runs)
open Text (Numeral.word32)

inductive Hinders (store : Store) (id : UInt64) (r : Refusal) : Exchange → Prop where
  | create : Hinders store id r ⟨.create (store.temporaryPath id), .error r⟩
  | extend (bytes : ByteArray) : Hinders store id r ⟨.extend (store.temporaryPath id) bytes, .error r⟩
  | sync : Hinders store id r ⟨.sync (store.temporaryPath id), .error r⟩
  | rename : Hinders store id r ⟨.rename (store.temporaryPath id) (store.artifactPath id), .error r⟩

inductive Fails (store : Store) (h : List Exchange) : Failure → Prop where
  | uncreatable (r : Refusal) (refused : ⟨.makePath store.directory, .error r⟩ ∈ h) :
      Fails store h (.uncreatable store.directory r)
  | unlistable (r : Refusal) (refused : ⟨.list store.directory, .error r⟩ ∈ h) :
      Fails store h (.unlistable store.directory r)
  | noNumberAfter (last : UInt64) (full : last.toNat + 1 = UInt64.size) : Fails store h (.noNumberAfter last)
  | unwritable (id : UInt64) (r : Refusal) (e : Exchange) (hinders : Hinders store id r e) (refused : e ∈ h) :
      Fails store h (.unwritable (store.artifactPath id) r)

variable {store : Store}

theorem fails_mono (h later : List Exchange) (f : Failure) (within : ∀ e ∈ h, e ∈ later) (fails : Fails store h f) :
    Fails store later f := by
  cases fails with
  | uncreatable r refused => exact .uncreatable r (within _ refused)
  | unlistable r refused => exact .unlistable r (within _ refused)
  | noNumberAfter last full => exact .noNumberAfter last full
  | unwritable id r e hinders refused => exact .unwritable id r e hinders (within e refused)

theorem next_id_fails (h : List Exchange) (sorted : List Found) (f : Failure) (next : nextId sorted = .error f) :
    Fails store h f := by
  unfold nextId at next
  split at next
  · cases next
  · next last _ =>
      split at next
      · cases next
      · next full =>
          have word : last.id.toNat < UInt64.size := last.id.toNat_lt
          obtain rfl := Except.error.inj next
          exact .noNumberAfter last.id (by omega)

theorem artifacts_fails (h : List Exchange) (f : Failure) (run : Runs store.artifacts h (.error f)) :
    Fails store h f := by
  obtain ⟨names, rest, rfl, noting⟩ := Program.runs_call_bind run
  cases names with
  | error refusal =>
      obtain ⟨-, ended⟩ := Program.runs_done noting
      by_cases missing : refusal = .missing
      · rw [if_pos missing] at ended
        cases ended
      · rw [if_neg missing] at ended
        obtain rfl := Except.error.inj ended
        exact .unlistable refusal (List.mem_cons_self ..)
  | ok names =>
      obtain ⟨first, done, second, rfl, -, ending⟩ := Program.runs_bind noting
      obtain ⟨-, ended⟩ := Program.runs_done ending
      cases ended

theorem allocate_fails (h : List Exchange) (f : Failure) (run : Runs store.allocate h (.error f)) :
    Fails store h f := by
  obtain ⟨made, rest, rfl, listing⟩ := Program.runs_call_bind run
  cases made with
  | error refusal =>
      obtain ⟨-, ended⟩ := Program.runs_done listing
      obtain rfl := Except.error.inj ended
      exact .uncreatable refusal (List.mem_cons_self ..)
  | ok done =>
      obtain ⟨first, found, second, rfl, listed, choosing⟩ := Program.runs_bind listing
      cases found with
      | error g =>
          obtain ⟨-, ended⟩ := Program.runs_done choosing
          obtain rfl := Except.error.inj ended
          exact fails_mono first _ f (by simp +contextual) (artifacts_fails first f listed)
      | ok sorted =>
          cases next : nextId sorted with
          | error g =>
              simp only [next] at choosing
              obtain ⟨-, ended⟩ := Program.runs_done choosing
              obtain rfl := Except.error.inj ended
              exact next_id_fails _ sorted f next
          | ok chosen =>
              simp only [next] at choosing
              obtain ⟨told, last, -, ending⟩ := Program.runs_call_bind choosing
              obtain ⟨-, ended⟩ := Program.runs_done ending
              cases ended

theorem wrote_hinders (id : UInt64) (bytes : ByteArray) (h : List Exchange) (r : Refusal)
    (wrote : Wrote (store.temporaryPath id) (store.artifactPath id) bytes h (.error r)) :
    ∃ e ∈ h, Hinders store id r e := by
  cases wrote with
  | uncreated r => exact ⟨_, by simp, .create⟩
  | unextended r => exact ⟨_, by simp, .extend bytes⟩
  | unsynced r => exact ⟨_, by simp, .sync⟩
  | named => exact ⟨_, by simp, .rename⟩

theorem update_fails (id : UInt64) (count : UInt32) (h : List Exchange) (f : Failure)
    (run : Runs (store.update id count) h (.error f)) : Fails store h f := by
  cases update_course store id count h _ run with
  | unwritten first r removed wrote =>
      obtain ⟨e, member, hinders⟩ := wrote_hinders id _ first r wrote
      exact .unwritable id r e hinders (List.mem_append_left _ member)

theorem begin_fails (id : UInt64) (h : List Exchange) (f : Failure) (run : Runs (store.begin id) h (.error f)) :
    Fails store h f := by
  obtain ⟨first, second, rfl, -, updating⟩ := begin_course store id h _ run
  exact fails_mono second _ f (fun e => List.mem_append_right first) (update_fails id 0 second f updating)

end Overseer.Counter
