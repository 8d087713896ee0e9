import Mathlib.Algebra.GroupWithZero.Nat
import Overseer.Text.Blank
import Overseer.Text.Numeral

set_option autoImplicit false

namespace Overseer.Text

namespace Numeral

theorem digits_digit (n : Nat) : ∀ c ∈ digits n, c.isDigit = true :=
  fun _ member => Nat.isDigit_of_mem_toDigits (by decide) (by decide) member

theorem text_digits (n : Nat) : (text n).toList = digits n := String.toList_ofList

-- Digits only make a number larger, so the bound is kept all the way when the whole number keeps it.
theorem scan_digits (bound n : Nat) (ds : List Char) (digits : ∀ c ∈ ds, c.isDigit = true)
    (below : Nat.ofDigitChars 10 ds n < bound) : scan bound n ds = .ok (Nat.ofDigitChars 10 ds n) := by
  induction ds generalizing n with
  | nil => rw [scan, Nat.ofDigitChars_nil]
  | cons c cs ih =>
      obtain ⟨digit, others⟩ := List.forall_mem_cons.mp digits
      rw [Nat.ofDigitChars_cons, Nat.mul_comm 10 n] at below ⊢
      have step : n * 10 + (c.toNat - '0'.toNat) < bound := by
        rw [Nat.ofDigitChars_eq_ofDigitChars_zero] at below
        have positive : 0 < 10 ^ cs.length := Nat.pow_pos (by decide)
        have grows := Nat.le_mul_of_pos_left (n * 10 + (c.toNat - '0'.toNat)) positive
        omega
      rw [scan]
      simp only [digit, Bool.not_true, Bool.false_eq_true, if_false, step, if_true]
      exact ih _ others below

theorem unsigned_plain (ds : List Char) (digits : ∀ c ∈ ds, c.isDigit = true) : unsigned ds = ds := by
  unfold unsigned
  split
  · exact absurd (digits '+' List.mem_cons_self) (by decide)
  · rfl

theorem read_scan (bound : Nat) (ds : List Char) (digits : ∀ c ∈ ds, c.isDigit = true) (some : ds ≠ []) :
    read bound ds = scan bound 0 ds := by
  cases ds with
  | nil => exact absurd rfl some
  | cons c cs => rw [read, unsigned_plain _ digits]

theorem read_digits (bound : Nat) (ds : List Char) (digits : ∀ c ∈ ds, c.isDigit = true) (some : ds ≠ [])
    (below : value ds < bound) : read bound ds = .ok (value ds) :=
  (read_scan bound ds digits some).trans (scan_digits bound 0 ds digits below)

theorem read_text (bound n : Nat) (below : n < bound) : read bound (text n).toList = .ok n := by
  have number : value (digits n) = n := Nat.ofDigitChars_ten_toDigits
  rw [text_digits, read_digits bound _ (digits_digit n) Nat.toDigits_ne_nil (number.symm ▸ below), number]

theorem padded_digit (width n : Nat) : ∀ c ∈ padded width n, c.isDigit = true := by
  intro c member
  rcases List.mem_append.mp member with zero | digit
  · rw [List.eq_of_mem_replicate zero]
    decide
  · exact digits_digit n c digit

theorem padded_ne_nil (width n : Nat) : padded width n ≠ [] :=
  List.append_ne_nil_of_right_ne_nil _ Nat.toDigits_ne_nil

theorem value_padded (width n : Nat) : value (padded width n) = n := by
  rw [value, padded, Nat.ofDigitChars_append, Nat.ofDigitChars_replicate_zero, Nat.mul_zero]
  exact Nat.ofDigitChars_ten_toDigits

theorem length_padded (width n : Nat) : (padded width n).length = max width (digits n).length := by
  rw [padded, List.length_append, List.length_replicate]
  omega

theorem length_digits_mono (m n : Nat) (le : m ≤ n) : (digits m).length ≤ (digits n).length := by
  have shorter := Nat.length_toDigits_le_iff (b := 10) (n := m) (k := (digits n).length) (by decide)
    Nat.length_toDigits_pos
  have own := Nat.length_toDigits_le_iff (b := 10) (n := n) (k := (digits n).length) (by decide) Nat.length_toDigits_pos
  exact shorter.mpr (Nat.lt_of_le_of_lt le (own.mp (Nat.le_refl _)))

theorem read_word64 (ds : List Char) (digits : ∀ c ∈ ds, c.isDigit = true) (some : ds ≠ []) (id : UInt64)
    (number : value ds = id.toNat) : readWord64 (String.ofList ds) = .ok id := by
  rw [readWord64, String.toList_ofList, read_digits _ ds digits some (number ▸ id.toNat_lt), number]
  exact congrArg Except.ok UInt64.ofNat_toNat

theorem scan_value (bound n v : Nat) (ds : List Char) (below : n < bound) (scanned : scan bound n ds = .ok v) :
    v = Nat.ofDigitChars 10 ds n ∧ v < bound := by
  induction ds generalizing n with
  | nil =>
      obtain rfl := Except.ok.inj scanned
      exact ⟨rfl, below⟩
  | cons c cs ih =>
      rw [scan] at scanned
      split at scanned
      · cases scanned
      · dsimp only at scanned
        split at scanned
        · next further =>
            rw [Nat.ofDigitChars_cons, Nat.mul_comm]
            exact ih _ further scanned
        · cases scanned

theorem word64_value (ds : List Char) (digits : ∀ c ∈ ds, c.isDigit = true) (some : ds ≠ []) (id : UInt64)
    (own : readWord64 (String.ofList ds) = .ok id) : value ds = id.toNat := by
  rw [readWord64, String.toList_ofList, read_scan _ ds digits some] at own
  cases scanned : scan UInt64.size 0 ds with
  | error e =>
      rw [scanned] at own
      cases own
  | ok v =>
      rw [scanned] at own
      obtain ⟨rfl, below⟩ := scan_value _ 0 v ds (by decide) scanned
      rw [← Except.ok.inj own]
      exact (UInt64.toNat_ofNat_of_lt' below).symm

theorem read_word32 (n : UInt32) : readWord32 (word32 n) = .ok n := by
  rw [readWord32, word32, read_text UInt32.size n.toNat n.toNat_lt]
  exact congrArg Except.ok UInt32.ofNat_toNat

theorem value_bound (n : Nat) (ds : List Char) (digits : ∀ c ∈ ds, c.isDigit = true) :
    Nat.ofDigitChars 10 ds n < (n + 1) * 10 ^ ds.length := by
  induction ds generalizing n with
  | nil => simp
  | cons c cs ih =>
      obtain ⟨digit, others⟩ := List.forall_mem_cons.mp digits
      have low : c.toNat - '0'.toNat ≤ 9 := by
        have range : 48 ≤ c.toNat ∧ c.toNat ≤ 57 := by
          simpa [Char.isDigit, UInt32.le_iff_toNat_le] using digit
        have zero : '0'.toNat = 48 := rfl
        omega
      rw [Nat.ofDigitChars_cons, List.length_cons, Nat.pow_succ', ← Nat.mul_assoc]
      exact Nat.lt_of_lt_of_le (ih _ others) (Nat.mul_le_mul_right _ (by omega))

theorem value_below (ds : List Char) (digits : ∀ c ∈ ds, c.isDigit = true) : value ds < 10 ^ ds.length := by
  have bound := value_bound 0 ds digits
  rwa [Nat.zero_add, Nat.one_mul] at bound

theorem value_cons (c : Char) (cs : List Char) :
    value (c :: cs) = 10 ^ cs.length * (c.toNat - '0'.toNat) + value cs := by
  rw [value, Nat.ofDigitChars_cons, Nat.ofDigitChars_eq_ofDigitChars_zero, Nat.mul_zero, Nat.zero_add, value]

theorem digit_low (c : Char) (digit : c.isDigit = true) : '0'.toNat ≤ c.toNat := by
  have range : 48 ≤ c.toNat ∧ c.toNat ≤ 57 := by
    simpa [Char.isDigit, UInt32.le_iff_toNat_le] using digit
  exact range.1

theorem zero_or_above (c : Char) (digit : c.isDigit = true) : c = '0' ∨ '0' < c := by
  rcases Nat.eq_or_lt_of_le (digit_low c digit) with zero | above
  · exact .inl (Char.toNat_inj.mp zero.symm)
  · exact .inr (UInt32.lt_iff_toNat_lt.mpr above)

theorem leading_zero (c : Char) (cs : List Char) (digit : c.isDigit = true) (below : value (c :: cs) < 10 ^ cs.length) :
    c = '0' := by
  rcases zero_or_above c digit with zero | above
  · exact zero
  · have more : '0'.toNat < c.toNat := UInt32.lt_iff_toNat_lt.mp above
    have least := Nat.le_mul_of_pos_right (10 ^ cs.length) (Nat.sub_pos_of_lt more)
    rw [value_cons] at below
    omega

theorem value_zero (cs : List Char) : value ('0' :: cs) = value cs := by
  rw [value_cons, Nat.sub_self, Nat.mul_zero, Nat.zero_add]

section Order

variable (a b : List Char) (digits : ∀ c ∈ a, c.isDigit = true) (digits' : ∀ c ∈ b, c.isDigit = true)

include digits digits'

theorem longer_first (same : value a = value b) (positive : value b ≠ 0) (longer : b.length < a.length) : a < b := by
  induction a generalizing b with
  | nil => cases longer
  | cons c cs ih =>
      obtain ⟨digit, others⟩ := List.forall_mem_cons.mp digits
      have short : b.length ≤ cs.length := Nat.le_of_lt_succ longer
      have below := Nat.lt_of_lt_of_le (value_below b digits') (Nat.pow_le_pow_right (by decide) short)
      obtain rfl := leading_zero c cs digit (same ▸ below)
      cases b with
      | nil => exact absurd rfl positive
      | cons d ds =>
          obtain ⟨digit', others'⟩ := List.forall_mem_cons.mp digits'
          rcases zero_or_above d digit' with rfl | above
          · rw [value_zero] at same positive
            rw [value_zero] at same
            exact List.cons_lt_cons_iff.mpr (.inr ⟨rfl, ih ds others others' same positive (Nat.lt_of_succ_lt_succ longer)⟩)
          · exact List.cons_lt_cons_iff.mpr (.inl above)

theorem shorter_first (none : value a = 0) (none' : value b = 0) (shorter : a.length < b.length) : a < b := by
  induction a generalizing b with
  | nil =>
      cases b with
      | nil => cases shorter
      | cons d ds => exact List.nil_lt_cons d ds
  | cons c cs ih =>
      cases b with
      | nil => cases shorter
      | cons d ds =>
          obtain ⟨digit, others⟩ := List.forall_mem_cons.mp digits
          obtain ⟨digit', others'⟩ := List.forall_mem_cons.mp digits'
          obtain rfl := leading_zero c cs digit (none ▸ Nat.pow_pos (by decide))
          obtain rfl := leading_zero d ds digit' (none' ▸ Nat.pow_pos (by decide))
          rw [value_zero] at none none'
          exact List.cons_lt_cons_iff.mpr (.inr ⟨rfl, ih ds others others' none none' (Nat.lt_of_succ_lt_succ shorter)⟩)

theorem numeral_unique (same : value a = value b) (length : a.length = b.length) : a = b := by
  induction a generalizing b with
  | nil => exact (List.eq_nil_of_length_eq_zero length.symm).symm
  | cons c cs ih =>
      cases b with
      | nil => cases length
      | cons d ds =>
          obtain ⟨digit, others⟩ := List.forall_mem_cons.mp digits
          obtain ⟨digit', others'⟩ := List.forall_mem_cons.mp digits'
          have shorter : cs.length = ds.length := Nat.succ.inj length
          have below := value_below cs others
          have below' := value_below ds others'
          rw [value_cons, value_cons, shorter] at same
          rw [shorter] at below
          have rest : value cs = value ds := by
            have parts := congrArg (· % 10 ^ ds.length) same
            simpa [Nat.mul_add_mod, Nat.mod_eq_of_lt below, Nat.mod_eq_of_lt below'] using parts
          have first : c.toNat - '0'.toNat = d.toNat - '0'.toNat := by
            rw [rest] at same
            exact Nat.eq_of_mul_eq_mul_left (Nat.pow_pos (by decide)) (Nat.add_right_cancel same)
          have low := digit_low c digit
          have low' := digit_low d digit'
          have equal : c = d := Char.toNat_inj.mp (by omega)
          rw [equal, ih ds others others' rest shorter]

theorem value_strict (length : a.length = b.length) (first : a < b) : value a < value b := by
  induction a generalizing b with
  | nil =>
      obtain rfl := List.eq_nil_of_length_eq_zero length.symm
      exact absurd first (List.lt_irrefl _)
  | cons c cs ih =>
      cases b with
      | nil => cases length
      | cons d ds =>
          obtain ⟨digit, others⟩ := List.forall_mem_cons.mp digits
          obtain ⟨digit', others'⟩ := List.forall_mem_cons.mp digits'
          have shorter : cs.length = ds.length := Nat.succ.inj length
          rw [value_cons, value_cons, shorter]
          rcases List.cons_lt_cons_iff.mp first with less | ⟨rfl, later⟩
          · have more : c.toNat < d.toNat := UInt32.lt_iff_toNat_lt.mp less
            have low := digit_low c digit
            have below := value_below cs others
            rw [shorter] at below
            calc 10 ^ ds.length * (c.toNat - '0'.toNat) + value cs
                < 10 ^ ds.length * (c.toNat - '0'.toNat) + 10 ^ ds.length := Nat.add_lt_add_left below _
              _ = 10 ^ ds.length * (c.toNat - '0'.toNat + 1) := rfl
              _ ≤ 10 ^ ds.length * (d.toNat - '0'.toNat) := Nat.mul_le_mul_left _ (by omega)
              _ ≤ 10 ^ ds.length * (d.toNat - '0'.toNat) + value ds := Nat.le_add_right _ _
          · exact Nat.add_lt_add_left (ih ds others others' shorter later) _

theorem numeral_order (length : a.length = b.length) : a < b ↔ value a < value b := by
  refine ⟨value_strict a b digits digits' length, fun less => ?_⟩
  rcases Std.lt_trichotomy a b with first | same | back
  · exact first
  · exact absurd (same ▸ less) (Nat.lt_irrefl _)
  · exact absurd (value_strict b a digits' digits length.symm back) (Nat.lt_asymm less)

theorem numeral_lt (same : value a = value b) :
    a < b ↔ if value b = 0 then a.length < b.length else b.length < a.length := by
  by_cases none : value b = 0
  · rw [if_pos none]
    rcases Nat.lt_trichotomy a.length b.length with less | equal | more
    · exact iff_of_true (shorter_first a b digits digits' (same.trans none) none less) less
    · rw [numeral_unique a b digits digits' same equal]
      exact iff_of_false (List.lt_irrefl _) (Nat.lt_irrefl _)
    · have second := shorter_first b a digits' digits none (same.trans none) more
      exact iff_of_false (List.lt_asymm second) (Nat.lt_asymm more)
  · rw [if_neg none]
    rcases Nat.lt_trichotomy a.length b.length with less | equal | more
    · have second := longer_first b a digits' digits same.symm (same ▸ none) less
      exact iff_of_false (List.lt_asymm second) (Nat.lt_asymm less)
    · rw [numeral_unique a b digits digits' same equal]
      exact iff_of_false (List.lt_irrefl _) (Nat.lt_irrefl _)
    · exact iff_of_true (longer_first a b digits digits' same none more) more

end Order

theorem padded_fits (width n : Nat) (some : 0 < width) (fits : n < 10 ^ width) : (padded width n).length = width := by
  have short := (Nat.length_toDigits_le_iff (b := 10) (n := n) (k := width) (by decide) some).mpr fits
  rw [length_padded, digits]
  exact Nat.max_eq_left short

theorem padded_order (width m n : Nat) (some : 0 < width) (fits : m < 10 ^ width) (fits' : n < 10 ^ width) :
    padded width m < padded width n ↔ m < n := by
  have length := (padded_fits width m some fits).trans (padded_fits width n some fits').symm
  rw [numeral_order _ _ (padded_digit width m) (padded_digit width n) length, value_padded, value_padded]

theorem padded_inj (width m n : Nat) : padded width m = padded width n ↔ m = n := by
  refine ⟨fun same => ?_, fun same => same ▸ rfl⟩
  rw [← value_padded width m, same, value_padded]

end Numeral

theorem append_order (a b x y : List Char) (length : a.length = b.length) : a ++ x < b ++ y ↔ a < b ∨ a = b ∧ x < y := by
  induction a generalizing b with
  | nil =>
      obtain rfl := List.eq_nil_of_length_eq_zero length.symm
      simp
  | cons c cs ih =>
      cases b with
      | nil => cases length
      | cons d ds =>
          rw [List.cons_append, List.cons_append, List.cons_lt_cons_iff, List.cons_lt_cons_iff, ih ds (Nat.succ.inj length),
            List.cons.injEq, and_or_left, or_assoc, and_assoc]

theorem digit_ne (c other : Char) (digit : c.isDigit = true) (not : other.isDigit = false) : c ≠ other := by
  rintro rfl
  rw [digit] at not
  cases not

theorem text_free (other : Char) (not : other.isDigit = false) (n : Nat) : other ∉ (Numeral.text n).toList := by
  rw [Numeral.text_digits]
  exact fun member => digit_ne other other (Numeral.digits_digit n other member) not rfl

theorem digit_not_blank (c : Char) (digit : c.isDigit = true) : isBlank c = false := by
  have low : 48 ≤ c.toNat ∧ c.toNat ≤ 57 := by
    simpa [Char.isDigit, UInt32.le_iff_toNat_le] using digit
  unfold isBlank
  rw [← Bool.not_eq_true, List.contains_iff_mem]
  intro member
  simp only [blankCodes, List.mem_cons, List.not_mem_nil, or_false] at member
  omega

theorem trim_unblank (cs : List Char) (unblank : ∀ c ∈ cs, isBlank c = false) : trimChars cs = cs := by
  have kept (l : List Char) (all : ∀ c ∈ l, isBlank c = false) : l.dropWhile isBlank = l := by
    cases l with
    | nil => rfl
    | cons c rest => rw [List.dropWhile_cons_of_neg]; simp [all c List.mem_cons_self]
  rw [trimChars, trimLeft, kept cs unblank, trimRight, kept cs.reverse (by simpa using unblank), List.reverse_reverse]

theorem trim_word32 (n : UInt32) : trim (Numeral.word32 n) = Numeral.word32 n := by
  rw [trim, Numeral.word32, Numeral.text_digits, trim_unblank]
  · rfl
  · exact fun c member => digit_not_blank c (Numeral.digits_digit n.toNat c member)

end Overseer.Text
