import Overseer.Counter.Artifact
import Overseer.Proofs.Files.Entry
import Overseer.Proofs.Text.Numeral

set_option autoImplicit false

namespace Overseer.Counter

open Files (Fits Proper)
open Text (Numeral.padded Numeral.padded_digit Numeral.padded_ne_nil Numeral.value_padded Numeral.read_word64 Numeral.word64_value)

structure Stem (stem : String) : Prop where
  unslashed : '/' ∉ stem.toList
  unended : '\x00' ∉ stem.toList

theorem after_stem (stem cs ds : List Char) : afterStem stem cs = some ds ↔ cs = stem ++ ds := by
  induction stem generalizing cs with
  | nil => simp [afterStem]
  | cons s stem ih =>
      cases cs with
      | nil => simp [afterStem]
      | cons c cs =>
          rw [afterStem, List.cons_append, List.cons_eq_cons]
          by_cases same : s = c
          · rw [if_pos same, ih]
            exact ⟨fun rest => ⟨same.symm, rest⟩, And.right⟩
          · rw [if_neg same]
            constructor
            · rintro ⟨⟩
            · exact fun both => absurd both.1.symm same

theorem ordinal_digits (stem name : String) (id : UInt64) (own : ordinal? stem name = some id) :
    ∃ ds, name.toList = stem.toList ++ ds ∧ ds ≠ [] ∧ ∀ c ∈ ds, c.isDigit = true := by
  unfold ordinal? at own
  cases rest : afterStem stem.toList name.toList with
  | none =>
      rw [rest] at own
      cases own
  | some ds =>
      simp only [rest] at own
      refine ⟨ds, (after_stem _ _ ds).mp rest, ?_⟩
      split at own
      · cases own
      · next digits => simpa using digits

theorem ordinal_value (stem name : String) (id : UInt64) (own : ordinal? stem name = some id) :
    ∃ ds, name.toList = stem.toList ++ ds ∧ ds ≠ [] ∧ (∀ c ∈ ds, c.isDigit = true) ∧ Text.Numeral.value ds = id.toNat := by
  obtain ⟨ds, named, some, digits⟩ := ordinal_digits stem name id own
  refine ⟨ds, named, some, digits, Numeral.word64_value ds digits some id ?_⟩
  unfold ordinal? at own
  rw [(after_stem _ _ ds).mpr named] at own
  dsimp only at own
  split at own
  · cases own
  · cases read : Text.Numeral.readWord64 (String.ofList ds) with
    | error e =>
        rw [read] at own
        cases own
    | ok other =>
        rw [read] at own
        exact congrArg Except.ok (Option.some.inj own)

theorem ordinal_named (stem name : String) (id : UInt64) (ds : List Char) (named : name.toList = stem.toList ++ ds)
    (some : ds ≠ []) (digits : ∀ c ∈ ds, c.isDigit = true) (number : Text.Numeral.value ds = id.toNat) :
    ordinal? stem name = .some id := by
  unfold ordinal?
  rw [(after_stem _ _ ds).mpr named]
  have numeral : ¬(ds.isEmpty || !ds.all Char.isDigit) = true := by
    simpa [some] using digits
  dsimp only
  rw [if_neg numeral, Numeral.read_word64 ds digits some id number]
  rfl

theorem artifact_text (stem : String) (id : UInt64) :
    (artifactName stem id).toList = stem.toList ++ Numeral.padded ordinalWidth id.toNat := by
  rw [artifactName, String.toList_append, String.toList_ofList]

theorem temporary_text (stem : String) (id : UInt64) :
    (temporaryName stem id).toList = '.' :: ((artifactName stem id).toList ++ ['.', 't', 'm', 'p']) := by
  rw [temporaryName, String.toList_append, String.toList_append]
  rfl

theorem ordinal_artifact (stem : String) (id : UInt64) : ordinal? stem (artifactName stem id) = some id :=
  ordinal_named stem _ id _ (artifact_text stem id) (Numeral.padded_ne_nil _ _) (Numeral.padded_digit _ _)
    (Numeral.value_padded _ _)

-- The name of a temporary ends in a letter, whatever its stem.
theorem temporary_undigited (stem other : String) (id : UInt64) (ds : List Char) (some : ds ≠ [])
    (digits : ∀ c ∈ ds, c.isDigit = true) : (temporaryName other id).toList ≠ stem.toList ++ ds := by
  intro named
  have last := congrArg List.getLast? named
  rw [temporary_text, ← List.cons_append, List.getLast?_append, List.getLast?_append,
    List.getLast?_eq_some_getLast some] at last
  have letter : ds.getLast some = 'p' := by simpa using last.symm
  exact absurd (digits _ (List.getLast_mem some)) (by rw [letter]; decide)

theorem ordinal_temporary_of (stem other : String) (id : UInt64) : ordinal? stem (temporaryName other id) = none := by
  cases own : ordinal? stem (temporaryName other id) with
  | none => rfl
  | some number =>
      obtain ⟨ds, named, some, digits⟩ := ordinal_digits _ _ _ own
      exact absurd named (temporary_undigited stem other id ds some digits)

theorem ordinal_temporary (stem : String) (id : UInt64) : ordinal? stem (temporaryName stem id) = none :=
  ordinal_temporary_of stem stem id

theorem artifact_injective (stem : String) (a b : UInt64) (same : artifactName stem a = artifactName stem b) : a = b := by
  have read := ordinal_artifact stem a
  rw [same, ordinal_artifact] at read
  exact (Option.some.inj read).symm

theorem temporary_injective (stem : String) (a b : UInt64) (same : temporaryName stem a = temporaryName stem b) :
    a = b := by
  have text := congrArg String.toList same
  rw [temporary_text, temporary_text, List.cons_eq_cons, List.append_cancel_right_eq] at text
  exact artifact_injective stem a b (String.toList_inj.mp text.2)

theorem artifact_ne_temporary (stem : String) (a b : UInt64) : artifactName stem a ≠ temporaryName stem b := by
  intro same
  have read := ordinal_artifact stem a
  rw [same, ordinal_temporary] at read
  cases read

theorem proper_ended (name : String) (cs : List Char) (c : Char) (text : name.toList = cs ++ [c]) (ended : c ≠ '.')
    (unslashed : '/' ∉ name.toList) (unended : '\x00' ∉ name.toList) : Proper name := by
  have last (other : String) (same : name = other) : other.toList.getLast? = some c := by
    rw [← same, text, List.getLast?_append]
    rfl
  refine ⟨fun same => ?_, fun same => ?_, fun same => ?_, unslashed, unended⟩
  · exact absurd (last _ same) (by simp)
  · exact ended (by simpa using (last _ same).symm)
  · exact ended (by simpa using (last _ same).symm)

theorem digit_ne (c other : Char) (digit : c.isDigit = true) (mark : other.isDigit = false) : c ≠ other := by
  rintro rfl
  rw [digit] at mark
  cases mark

theorem ordinal_proper {stem name : String} {id : UInt64} (plain : Stem stem) (own : ordinal? stem name = some id) :
    Proper name := by
  obtain ⟨ds, named, some, digits⟩ := ordinal_digits _ _ _ own
  have apart (mark : Char) (foreign : mark.isDigit = false) (outside : mark ∉ stem.toList) : mark ∉ name.toList := by
    rw [named, List.mem_append, not_or]
    exact ⟨outside, fun member => digit_ne _ _ (digits _ member) foreign rfl⟩
  have last := digits _ (List.getLast_mem some)
  apply proper_ended name (stem.toList ++ ds.dropLast) (ds.getLast some)
  · rw [named, List.append_assoc, List.dropLast_concat_getLast]
  · exact digit_ne _ _ last (by decide)
  · exact apart '/' (by decide) plain.unslashed
  · exact apart '\x00' (by decide) plain.unended

theorem artifact_proper {stem : String} (plain : Stem stem) (id : UInt64) : Proper (artifactName stem id) :=
  ordinal_proper plain (ordinal_artifact stem id)

theorem artifact_path_injective {store : Store} (some : store.directory ≠ "") (plain : Stem store.stem) (a b : UInt64)
    (same : store.artifactPath a = store.artifactPath b) : a = b := by
  unfold Store.artifactPath at same
  rw [Files.join_relative _ _ some (artifact_proper plain a), Files.join_relative _ _ some (artifact_proper plain b)] at same
  apply artifact_injective store.stem
  split at same
  · exact String.append_right_inj _ |>.mp same
  · exact String.append_right_inj _ |>.mp same

theorem temporary_proper {stem : String} (plain : Stem stem) (id : UInt64) : Proper (temporaryName stem id) := by
  have artifact := artifact_proper plain id
  have text := temporary_text stem id
  apply proper_ended _ ('.' :: ((artifactName stem id).toList ++ ['.', 't', 'm'])) 'p'
  · simpa using text
  · decide
  · rw [text]
    simpa using artifact.unslashed
  · rw [text]
    simpa using artifact.unended

theorem temporary_path_injective {store : Store} (some : store.directory ≠ "") (plain : Stem store.stem) (a b : UInt64)
    (same : store.temporaryPath a = store.temporaryPath b) : a = b := by
  unfold Store.temporaryPath at same
  rw [Files.join_relative _ _ some (temporary_proper plain a), Files.join_relative _ _ some (temporary_proper plain b)] at same
  apply temporary_injective store.stem
  split at same
  · exact String.append_right_inj _ |>.mp same
  · exact String.append_right_inj _ |>.mp same

theorem size_digits (ds : List Char) (digits : ∀ c ∈ ds, c.isDigit = true) : (String.ofList ds).utf8ByteSize = ds.length := by
  induction ds with
  | nil => rfl
  | cons c cs ih =>
      obtain ⟨digit, others⟩ := List.forall_mem_cons.mp digits
      have one : c.utf8Size = 1 := by
        have low : 48 ≤ c.val ∧ c.val ≤ 57 := by simpa [Char.isDigit] using digit
        rw [Char.utf8Size_eq_one_iff]
        exact UInt32.le_trans low.2 (by decide)
      rw [String.ofList_cons, String.utf8ByteSize_append, String.utf8ByteSize_singleton, one, ih others,
        List.length_cons, Nat.add_comm]

theorem fits_shorter {directory name other : String} (some : directory ≠ "") (proper : Proper name)
    (properOther : Proper other) (shorter : name.utf8ByteSize ≤ other.utf8ByteSize) (fits : Fits directory other) :
    Fits directory name := by
  obtain ⟨path, short⟩ := fits
  constructor
  · apply Nat.lt_of_le_of_lt _ path
    rw [Files.join_relative directory name some proper, Files.join_relative directory other some properOther]
    split
    · simpa [String.utf8ByteSize_append] using shorter
    · simpa [String.utf8ByteSize_append] using shorter
  · have size (s : String) : (Files.Name.text s).bytes.length = s.utf8ByteSize := by simp [Files.Name.bytes]
    simp only [Files.Name.isTooLong, size, decide_eq_false_iff_not, Nat.not_lt] at short ⊢
    exact Nat.le_trans shorter short

theorem temporary_size (stem : String) (id : UInt64) :
    (temporaryName stem id).utf8ByteSize = (artifactName stem id).utf8ByteSize + 5 := by
  rw [temporaryName, String.utf8ByteSize_append, String.utf8ByteSize_append, Nat.add_comm (".".utf8ByteSize),
    Nat.add_assoc]
  rfl

theorem artifact_size (stem : String) (id : UInt64) :
    (artifactName stem id).utf8ByteSize =
      stem.utf8ByteSize + max ordinalWidth (Text.Numeral.digits id.toNat).length := by
  rw [artifactName, String.utf8ByteSize_append, size_digits _ (Numeral.padded_digit _ _), Text.Numeral.length_padded]

theorem fits_artifact {directory stem : String} {id : UInt64} (some : directory ≠ "") (plain : Stem stem)
    (fits : Fits directory (temporaryName stem id)) : Fits directory (artifactName stem id) :=
  fits_shorter some (artifact_proper plain id) (temporary_proper plain id)
    (temporary_size stem id ▸ Nat.le_add_right _ _) fits

theorem fits_temporary {directory stem : String} (some : directory ≠ "") (plain : Stem stem) (id last : UInt64)
    (below : id ≤ last) (fits : Fits directory (temporaryName stem last)) : Fits directory (temporaryName stem id) := by
  apply fits_shorter some (temporary_proper plain id) (temporary_proper plain last) _ fits
  rw [temporary_size, temporary_size, artifact_size, artifact_size]
  have digits := Text.Numeral.length_digits_mono id.toNat last.toNat (UInt64.le_iff_toNat_le.mp below)
  omega

theorem fits_last {directory stem : String} (some : directory ≠ "") (plain : Stem stem)
    (fits : Fits directory (temporaryName stem 18446744073709551615)) (id : UInt64) :
    Fits directory (temporaryName stem id) := by
  apply fits_temporary some plain id 18446744073709551615 _ fits
  rw [UInt64.le_iff_toNat_le]
  exact Nat.le_of_lt_succ id.toNat_lt

end Overseer.Counter
