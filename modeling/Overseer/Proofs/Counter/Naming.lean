import Overseer.Proofs.Counter.Maximum
import Overseer.Proofs.Text.Grammar

set_option autoImplicit false

namespace Overseer.Counter

open Text (Numeral.Spells Numeral.digits Numeral.spells_zeros Numeral.word64)

variable (stem name : String) (id : UInt64)

def zeros (n : Nat) : String := String.ofList (List.replicate n '0')

theorem numbered_spells (n : Nat) : Numbered stem name n ↔ ∃ ds, name.toList = stem.toList ++ ds ∧ Numeral.Spells ds n := by
  constructor
  · rintro ⟨ds, named, filled, digits, number⟩
    exact ⟨ds, named, filled, digits, number⟩
  · rintro ⟨ds, named, filled, digits, number⟩
    exact ⟨ds, named, filled, digits, number⟩

theorem zeros_text (n : Nat) : (stem ++ zeros n ++ Numeral.word64 id).toList =
    stem.toList ++ (List.replicate n '0' ++ Numeral.digits id.toNat) := by
  rw [String.toList_append, String.toList_append, zeros, String.toList_ofList, Numeral.word64, Text.Numeral.text_digits,
    List.append_assoc]

theorem numbered_zeros : Numbered stem name id.toNat ↔ ∃ n, name = stem ++ zeros n ++ Numeral.word64 id := by
  rw [numbered_spells]
  constructor
  · rintro ⟨ds, named, spells⟩
    obtain ⟨n, rfl⟩ := (Numeral.spells_zeros ds _).mp spells
    exact ⟨n, String.toList_inj.mp (named.trans (zeros_text stem id n).symm)⟩
  · rintro ⟨n, rfl⟩
    exact ⟨_, zeros_text stem id n, (Numeral.spells_zeros _ _).mpr ⟨n, rfl⟩⟩

theorem artifact_zeros : artifactName stem id = stem ++ zeros (ordinalWidth - (Numeral.word64 id).length) ++ Numeral.word64 id := by
  apply String.toList_inj.mp
  rw [zeros_text, artifact_text, Text.Numeral.padded, ← String.length_toList, Numeral.word64, Text.Numeral.text_digits]

theorem unnumbered : ordinal? stem name = none ↔ ∀ n, n < UInt64.size → ¬Numbered stem name n := by
  constructor
  · intro foreign n below numbered
    rw [← UInt64.toNat_ofNat_of_lt' below, numbered_ordinal, foreign] at numbered
    cases numbered
  · intro foreign
    cases own : ordinal? stem name with
    | none => rfl
    | some id => exact absurd ((numbered_ordinal stem name id).mpr own) (foreign id.toNat id.toNat_lt)

theorem artifact_ne_any (other : String) (a b : UInt64) : artifactName stem a ≠ temporaryName other b := by
  intro same
  have read := ordinal_artifact stem a
  rw [same, ordinal_temporary_of] at read
  cases read

-- Under every stem, one that ends in digits included.
theorem names_tell_sessions (stem : String) :
    (∀ id, artifactName stem id = stem ++ zeros (5 - (Numeral.word64 id).length) ++ Numeral.word64 id ∧
      ordinal? stem (artifactName stem id) = some id) ∧
    (∀ name id, ordinal? stem name = some id ↔ Numbered stem name id.toNat) ∧
    (∀ name (id : UInt64), Numbered stem name id.toNat ↔ ∃ n, name = stem ++ zeros n ++ Numeral.word64 id) ∧
    (∀ name, ordinal? stem name = none ↔ ∀ n, n < UInt64.size → ¬Numbered stem name n) ∧
    (∀ other id, ordinal? stem (temporaryName other id) = none) ∧
    (∀ a b, artifactName stem a = artifactName stem b → a = b) ∧
    (∀ a b, temporaryName stem a = temporaryName stem b → a = b) ∧
    ∀ other a b, artifactName stem a ≠ temporaryName other b :=
  ⟨fun id => ⟨artifact_zeros stem id, ordinal_artifact stem id⟩, fun name id => (numbered_ordinal stem name id).symm,
    numbered_zeros stem, unnumbered stem, ordinal_temporary_of stem, artifact_injective stem, temporary_injective stem,
    artifact_ne_any stem⟩

end Overseer.Counter
