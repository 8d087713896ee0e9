import Overseer.Proofs.Text.Numeral
import Overseer.Yaml.Decode

set_option autoImplicit false

namespace Overseer

namespace Text.Numeral

theorem digits_unpadded (n : Nat) (ds : List Char) (zero : digits n = '0' :: ds) : ds = [] := by
  have number : Nat.ofDigitChars 10 (digits n) 0 = n := Nat.ofDigitChars_ten_toDigits
  rw [zero, Nat.ofDigitChars_cons] at number
  have small : ∀ c ∈ ds, c.isDigit = true := fun c member => digits_digit n c (zero ▸ List.mem_cons_of_mem _ member)
  have below : n < 10 ^ ds.length := by
    have bound := value_bound 0 ds small
    have first : 10 * 0 + ('0'.toNat - '0'.toNat) = 0 := rfl
    rw [first] at number
    omega
  cases ds with
  | nil => rfl
  | cons d rest =>
      have short := (Nat.length_toDigits_le_iff (b := 10) (by decide) (Nat.succ_pos rest.length)).mpr below
      change (digits n).length ≤ _ at short
      rw [zero] at short
      exact absurd (Nat.le_of_succ_le_succ short) (Nat.not_succ_le_self _)

theorem text_ne (n : Nat) (word : String) (c : Char) (first : word.toList.head? = some c)
    (letter : c.isDigit = false) : text n ≠ word := by
  rintro rfl
  rw [text_digits] at first
  have digit := digits_digit n c (List.mem_of_mem_head? first)
  rw [letter] at digit
  cases digit

end Text.Numeral

namespace Yaml

open Text (Numeral.digits Numeral.text Numeral.text_ne Numeral.text_digits Numeral.digits_digit Numeral.digits_unpadded)

namespace Spelling

theorem digit_value (c : Char) (digit : c.isDigit = true) :
    digitValue? c = some (c.toNat - '0'.toNat) ∧ c.toNat - '0'.toNat < 10 := by
  have range : 48 ≤ c.toNat ∧ c.toNat ≤ 57 := by
    simpa [Char.isDigit, UInt32.le_iff_toNat_le] using digit
  have zero : '0'.toNat = 48 := rfl
  exact ⟨by rw [digitValue?, if_pos digit], by omega⟩

theorem digits_value (n : Nat) (ds : List Char) (digits : ∀ c ∈ ds, c.isDigit = true) :
    digitsValue? 10 n ds = some (Nat.ofDigitChars 10 ds n) := by
  induction ds generalizing n with
  | nil => rw [digitsValue?, Nat.ofDigitChars_nil]
  | cons c cs ih =>
      obtain ⟨digit, others⟩ := List.forall_mem_cons.mp digits
      obtain ⟨value, low⟩ := digit_value c digit
      rw [digitsValue?, value, Nat.ofDigitChars_cons, Nat.mul_comm 10 n]
      dsimp only
      rw [if_pos low, ih _ others]

theorem unsigned_digits (bound n : Nat) (below : n < bound) : unsigned? bound (Numeral.digits n) = some n := by
  have number : digitsValue? 10 0 (Numeral.digits n) = some n := by
    rw [digits_value 0 _ (Numeral.digits_digit n)]
    exact congrArg some Nat.ofDigitChars_ten_toDigits
  have digit := Numeral.digits_digit n
  have unpadded := Numeral.digits_unpadded n
  have some : Numeral.digits n ≠ [] := Nat.toDigits_ne_nil
  generalize Numeral.digits n = ds at number digit unpadded some ⊢
  cases ds with
  | nil => exact absurd rfl some
  | cons c cs =>
      have first := digit c List.mem_cons_self
      have plain : ∀ sign : Char, sign.isDigit = false → c ≠ sign := by
        rintro sign other rfl
        rw [first] at other
        cases other
      have unmarked : marked? bound (c :: cs) = none := by
        unfold marked?
        split
        · next mark rest same =>
            obtain ⟨-, rfl⟩ := List.cons_eq_cons.mp same
            have second := digit mark (by simp)
            have other : ∀ letter : Char, letter.isDigit = false → (mark == letter) = false := by
              intro letter not
              rw [beq_eq_false_iff_ne]
              rintro rfl
              rw [second] at not
              cases not
            simp [radixes, List.lookup_cons, other 'x' (by decide), other 'o' (by decide), other 'b' (by decide)]
        · rfl
      have unsigned : withoutPlus (c :: cs) = c :: cs := by
        unfold withoutPlus
        split
        · next same => exact absurd (List.cons_eq_cons.mp same).1 (plain '+' (by decide))
        · rfl
      have signless : startsSign (c :: cs) = false := by
        simp [startsSign, plain '+' (by decide), plain '-' (by decide)]
      have exact_ : isPaddedDigits (c :: cs) = false := by
        unfold isPaddedDigits
        rw [signless]
        dsimp only
        split
        · next rest same =>
            simp only [Bool.false_eq_true, if_false] at same
            simp [unpadded rest same]
        · rfl
      simp [unsigned?, unsigned, unmarked, signless, exact_, natural?, number, below]

end Spelling

theorem text_filled (n : Nat) : Numeral.text n ≠ "" := by
  intro blank
  have same := congrArg String.toList blank
  rw [Numeral.text_digits] at same
  exact absurd same Nat.toDigits_ne_nil

theorem text_something (n : Nat) : Spelling.isNothing (Numeral.text n) = false := by
  have other := Numeral.text_ne n
  simp [Spelling.isNothing, other "null" 'n' (by simp) (by decide), other "Null" 'N' (by simp) (by decide),
    other "NULL" 'N' (by simp) (by decide), other "~" '~' (by simp) (by decide)]

theorem text_unchosen (n : Nat) : Spelling.boolean? (Numeral.text n) = none := by
  have other := Numeral.text_ne n
  simp [Spelling.boolean?, other "true" 't' (by simp) (by decide), other "True" 'T' (by simp) (by decide),
    other "TRUE" 'T' (by simp) (by decide), other "false" 'f' (by simp) (by decide),
    other "False" 'F' (by simp) (by decide), other "FALSE" 'F' (by simp) (by decide)]

theorem resolved_text (n : Nat) (below : n < UInt64.size) :
    Resolved.ofSpelling (Numeral.text n) = .natural n := by
  have integer : Resolved.integer? (Numeral.text n).toList = some (.natural n) := by
    rw [Numeral.text_digits, Resolved.integer?, Spelling.unsigned_digits _ n below]
  simp [Resolved.ofSpelling, text_filled n, text_something n, text_unchosen n, integer]

end Yaml

end Overseer
