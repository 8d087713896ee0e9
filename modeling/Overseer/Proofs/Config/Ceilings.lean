import Overseer.Config.Overrides
import Overseer.Proofs.Counter.Answers
import Overseer.Proofs.Counter.Writing
import Overseer.Proofs.Text.Grammar

set_option autoImplicit false

namespace Overseer.Config

open Counter (Exchange Failure Store countAt countOf)
open Host (Listing Machine)
open Overrides (ofVariables readCeiling)
open Program (Runs)
open Text (Holds Numeral.readWord32 Numeral.word32 isBlank trim)

-- What a reader makes of a text: the number that stands in it, if it is one of 32 bits, and a fault of the
-- reader's kind if there is none.
structure Reading (kind : Fault.Kind) (t : String) (r : Except Fault UInt32) : Prop where
  granted : ∀ n, r = .ok n ↔ Holds t.toList n.toNat
  refused : ∀ f, r = .error f → f.kind = kind

theorem reading_word (kind : Fault.Kind) (t : String) (fault : Text.Numeral.Error → Fault) (own : ∀ e, (fault e).kind = kind) :
    Reading kind t ((Numeral.readWord32 (trim t)).mapError fault) := by
  refine ⟨fun n => faulty_ok.trans (Text.trimmed_word32 t n), fun f told => ?_⟩
  cases read : Numeral.readWord32 (trim t) with
  | error e =>
      rw [read] at told
      cases told
      exact own e
  | ok v =>
      rw [read] at told
      cases told

theorem count_of_text (path t : String) : (countOf path t.toUTF8).mapError Failure.fault =
    (Numeral.readWord32 (trim t)).mapError fun _ => (Failure.notNumeric path (trim t)).fault := by
  have text : String.fromUTF8? t.toUTF8 = some t := dif_pos t.isValidUTF8
  rw [countOf, text]
  dsimp only
  cases Numeral.readWord32 (trim t) with
  | error e => rfl
  | ok n => rfl

theorem ceiling_of_text (lookup : String → Option String) (t : String) (set : lookup ceilingVariable = some t) :
    ((ofVariables lookup).mapError BadCeiling.fault).map Overrides.ceiling =
      ((Numeral.readWord32 (trim t)).mapError fun e => BadCeiling.fault ⟨t, e⟩).map some := by
  rw [ofVariables, set, Overrides.ofValues, readCeiling]
  cases Numeral.readWord32 (trim t) with
  | error e => rfl
  | ok n => rfl

theorem count_read (listing : Listing) (m : Machine) (path t : String) (file : m.tree.read m.work path = .ok t.toUTF8) :
    Reading .storage t (((Store.readAt path).run listing.answer m).1.mapError Failure.fault) := by
  rw [Counter.read_at_answer, countAt, file]
  dsimp only
  rw [count_of_text]
  exact reading_word .storage t _ fun _ => rfl

theorem ceiling_read (lookup : String → Option String) (t : String) (set : lookup ceilingVariable = some t) :
    ∃ r, ((ofVariables lookup).mapError BadCeiling.fault).map Overrides.ceiling = r.map some ∧ Reading .config t r :=
  ⟨_, ceiling_of_text lookup t set, reading_word .config t _ fun _ => rfl⟩

theorem wrote_bytes (temporary artifact : String) (bytes : ByteArray) (h : List Exchange) (r : Except Refusal Unit)
    (wrote : Counter.Wrote temporary artifact bytes h r) :
    (∀ path other told, ⟨.extend path other, told⟩ ∈ h → other = bytes) ∧
      (r = .ok () → ⟨.extend temporary bytes, .ok ()⟩ ∈ h) := by
  constructor
  · intro path other told member
    cases wrote <;> simp_all
  · rintro rfl
    generalize granted : Except.ok () = told at wrote
    cases wrote with
    | named told => simp [granted]
    | _ => cases granted

theorem update_writes (store : Store) (id : UInt64) (k : UInt32) (h : List Exchange) (r : Except Failure Unit)
    (run : Runs (store.update id k) h r) :
    (∀ path bytes told, ⟨.extend path bytes, told⟩ ∈ h → bytes = (Numeral.word32 k).toUTF8) ∧
      (r = .ok () → ⟨.extend (store.temporaryPath id) (Numeral.word32 k).toUTF8, .ok ()⟩ ∈ h) := by
  cases Counter.update_course store id k h r run with
  | written h wrote =>
      obtain ⟨bytes, granted⟩ := wrote_bytes _ _ _ h _ wrote
      exact ⟨bytes, fun _ => granted rfl⟩
  | unwritten h refusal removed wrote =>
      obtain ⟨bytes, -⟩ := wrote_bytes _ _ _ h _ wrote
      refine ⟨fun path other told member => ?_, nofun⟩
      rcases List.mem_append.mp member with before | last
      · exact bytes path other told before
      · simp at last

section Back

variable (k : UInt32) (before after : String) (blank : ∀ c ∈ before.toList, isBlank c = true)
  (blank' : ∀ c ∈ after.toList, isBlank c = true)

include blank blank'

theorem numeral_holds : Holds (before ++ Numeral.word32 k ++ after).toList k.toNat := by
  refine ⟨before.toList, (Numeral.word32 k).toList, after.toList, by simp, blank, blank', ?_⟩
  exact (Text.Numeral.word32_signed _ k).mp (Text.Numeral.read_word32 k)

theorem count_read_back (listing : Listing) (m : Machine) (path : String)
    (file : m.tree.read m.work path = .ok (before ++ Numeral.word32 k ++ after).toUTF8) :
    ((Store.readAt path).run listing.answer m).1 = .ok k := by
  exact faulty_ok.mp (((count_read listing m path _ file).granted k).mpr (numeral_holds k before after blank blank'))

theorem ceiling_read_back (lookup : String → Option String)
    (set : lookup ceilingVariable = some (before ++ Numeral.word32 k ++ after)) :
    ∃ o, ofVariables lookup = .ok o ∧ o.ceiling = some k := by
  have told := ceiling_of_text lookup _ set
  rw [(Text.trimmed_word32 _ k).mpr (numeral_holds k before after blank blank')] at told
  cases read : ofVariables lookup with
  | error f =>
      rw [read] at told
      cases told
  | ok o =>
      rw [read] at told
      exact ⟨o, rfl, Except.ok.inj told⟩

end Back

theorem ceilings_read_as_counts :
    (∀ (listing : Listing) (m : Machine) (path t : String), m.tree.read m.work path = .ok t.toUTF8 →
      Reading .storage t (((Store.readAt path).run listing.answer m).1.mapError Failure.fault)) ∧
    (∀ (lookup : String → Option String) (t : String), lookup ceilingVariable = some t →
      ∃ r, ((ofVariables lookup).mapError BadCeiling.fault).map Overrides.ceiling = r.map some ∧ Reading .config t r) ∧
    (∀ (store : Store) (id : UInt64) (k : UInt32) (h : List Exchange) (r : Except Failure Unit),
      Runs (store.update id k) h r →
        (∀ path bytes told, ⟨.extend path bytes, told⟩ ∈ h → bytes = (Numeral.word32 k).toUTF8) ∧
        (r = .ok () → ⟨.extend (store.temporaryPath id) (Numeral.word32 k).toUTF8, .ok ()⟩ ∈ h)) ∧
    ∀ (k : UInt32) (before after : String), (∀ c ∈ before.toList, isBlank c = true) →
      (∀ c ∈ after.toList, isBlank c = true) →
        (∀ (listing : Listing) (m : Machine) (path : String),
          m.tree.read m.work path = .ok (before ++ Numeral.word32 k ++ after).toUTF8 →
            ((Store.readAt path).run listing.answer m).1 = .ok k) ∧
        ∀ lookup : String → Option String, lookup ceilingVariable = some (before ++ Numeral.word32 k ++ after) →
          ∃ o, ofVariables lookup = .ok o ∧ o.ceiling = some k :=
  ⟨count_read, ceiling_read, update_writes, fun k before after blank blank' =>
    ⟨count_read_back k before after blank blank', ceiling_read_back k before after blank blank'⟩⟩

end Overseer.Config
