import Overseer.Proofs.Text.Numeral

set_option autoImplicit false

namespace Overseer.Text

namespace Numeral

structure Spells (ds : List Char) (n : Nat) : Prop where
  filled : ds ≠ []
  digital : ∀ c ∈ ds, c.isDigit = true
  number : value ds = n

def Signed (cs : List Char) (n : Nat) : Prop := ∃ ds, (cs = ds ∨ cs = '+' :: ds) ∧ Spells ds n

theorem spells_padded (width n : Nat) : Spells (padded width n) n :=
  ⟨padded_ne_nil width n, padded_digit width n, value_padded width n⟩

theorem digits_short (ds : List Char) (n : Nat) (spells : Spells ds n) : (digits n).length ≤ ds.length := by
  have below := value_below ds spells.digital
  rw [spells.number] at below
  exact (Nat.length_toDigits_le_iff (by decide) (List.length_pos_iff.mpr spells.filled)).mpr below

theorem spells_padding (ds : List Char) (n : Nat) (spells : Spells ds n) : ds = padded ds.length n := by
  have length : ds.length = (padded ds.length n).length := by
    rw [length_padded, Nat.max_eq_left (digits_short ds n spells)]
  apply numeral_unique ds _ spells.digital (padded_digit _ n) _ length
  rw [spells.number, value_padded]

theorem spells_zeros (ds : List Char) (n : Nat) : Spells ds n ↔ ∃ zeros, ds = List.replicate zeros '0' ++ digits n := by
  constructor
  · intro spells
    exact ⟨_, spells_padding ds n spells⟩
  · rintro ⟨zeros, rfl⟩
    have wide := spells_padded (zeros + (digits n).length) n
    rwa [padded, Nat.add_sub_cancel] at wide

theorem scan_digital (bound n v : Nat) (ds : List Char) (scanned : scan bound n ds = .ok v) :
    ∀ c ∈ ds, c.isDigit = true := by
  induction ds generalizing n with
  | nil => exact List.forall_mem_nil _
  | cons c cs ih =>
      rw [scan] at scanned
      cases digit : c.isDigit with
      | false => simp [digit] at scanned
      | true =>
          simp only [digit, Bool.not_true, Bool.false_eq_true, if_false] at scanned
          split at scanned
          · exact List.forall_mem_cons.mpr ⟨digit, ih _ scanned⟩
          · cases scanned

theorem scan_spells (bound n : Nat) (ds : List Char) (filled : ds ≠ []) (positive : 0 < bound) :
    scan bound 0 ds = .ok n ↔ Spells ds n ∧ n < bound := by
  constructor
  · intro scanned
    obtain ⟨number, below⟩ := scan_value bound 0 n ds positive scanned
    exact ⟨⟨filled, scan_digital bound 0 n ds scanned, number.symm⟩, below⟩
  · rintro ⟨⟨-, digits, rfl⟩, below⟩
    exact scan_digits bound 0 ds digits below

theorem unsigned_cases (cs : List Char) : cs = unsigned cs ∨ cs = '+' :: unsigned cs := by
  unfold unsigned
  split
  · exact .inr rfl
  · exact .inl rfl

theorem unsigned_plus (ds : List Char) (filled : ds ≠ []) : unsigned ('+' :: ds) = ds := by
  cases ds with
  | nil => exact absurd rfl filled
  | cons d ds => rfl

theorem read_unsigned (bound : Nat) (cs : List Char) (filled : unsigned cs ≠ []) :
    read bound cs = scan bound 0 (unsigned cs) := by
  unfold read
  cases rest : unsigned cs with
  | nil => exact absurd rest filled
  | cons c rest => rfl

theorem read_signed (bound n : Nat) (cs : List Char) (positive : 0 < bound) :
    read bound cs = .ok n ↔ Signed cs n ∧ n < bound := by
  constructor
  · intro told
    have filled : unsigned cs ≠ [] := by
      intro empty
      rw [read, empty] at told
      cases told
    rw [read_unsigned bound cs filled, scan_spells bound n _ filled positive] at told
    exact ⟨⟨unsigned cs, unsigned_cases cs, told.1⟩, told.2⟩
  · rintro ⟨⟨ds, signed, spells⟩, below⟩
    have rest : unsigned cs = ds := by
      rcases signed with rfl | rfl
      · exact unsigned_plain cs spells.digital
      · exact unsigned_plus ds spells.filled
    rw [read_unsigned bound cs (rest ▸ spells.filled), rest]
    exact (scan_spells bound n ds spells.filled positive).mpr ⟨spells, below⟩

theorem word32_signed (s : String) (n : UInt32) : readWord32 s = .ok n ↔ Signed s.toList n.toNat := by
  have told := read_signed UInt32.size n.toNat s.toList (by decide)
  rw [and_iff_left n.toNat_lt] at told
  rw [← told, readWord32]
  cases known : read UInt32.size s.toList with
  | error e => simp [Except.map]
  | ok v =>
      have below := ((read_signed UInt32.size v s.toList (by decide)).mp known).2
      simp only [Except.map, Except.ok.injEq]
      constructor
      · rintro rfl
        exact (UInt32.toNat_ofNat_of_lt' below).symm
      · rintro rfl
        exact UInt32.ofNat_toNat

end Numeral

-- The text is a numeral of the number with white space before and after it.
def Holds (cs : List Char) (n : Nat) : Prop :=
  ∃ before numeral after, cs = before ++ numeral ++ after ∧ (∀ c ∈ before, isBlank c = true) ∧
    (∀ c ∈ after, isBlank c = true) ∧ Numeral.Signed numeral n

theorem signed_unblank (cs : List Char) (n : Nat) (signed : Numeral.Signed cs n) : ∀ c ∈ cs, isBlank c = false := by
  obtain ⟨ds, shape, spells⟩ := signed
  have plain : ∀ c ∈ ds, isBlank c = false := fun c member => digit_not_blank c (spells.digital c member)
  rcases shape with rfl | rfl
  · exact plain
  · exact List.forall_mem_cons.mpr ⟨by decide, plain⟩

theorem signed_filled (cs : List Char) (n : Nat) (signed : Numeral.Signed cs n) : cs ≠ [] := by
  obtain ⟨ds, rfl | rfl, spells⟩ := signed
  · exact spells.filled
  · exact List.cons_ne_nil _ _

theorem trim_around (cs : List Char) : ∃ before after, cs = before ++ trimChars cs ++ after ∧
    (∀ c ∈ before, isBlank c = true) ∧ ∀ c ∈ after, isBlank c = true := by
  have dropped (l : List Char) : ∀ c ∈ l.takeWhile isBlank, isBlank c = true := List.all_eq_true.mp List.all_takeWhile
  refine ⟨cs.takeWhile isBlank, ((trimLeft cs).reverse.takeWhile isBlank).reverse, ?_, dropped cs, ?_⟩
  · have right : trimRight (trimLeft cs) ++ ((trimLeft cs).reverse.takeWhile isBlank).reverse = trimLeft cs := by
      rw [trimRight, ← List.reverse_append, List.takeWhile_append_dropWhile, List.reverse_reverse]
    rw [List.append_assoc, trimChars, right, trimLeft, List.takeWhile_append_dropWhile]
  · simpa using dropped _

theorem trim_surrounded (before cs after : List Char) (filled : cs ≠ []) (unblank : ∀ c ∈ cs, isBlank c = false)
    (blank : ∀ c ∈ before, isBlank c = true) (blank' : ∀ c ∈ after, isBlank c = true) :
    trimChars (before ++ cs ++ after) = cs := by
  have same := trim_unblank cs unblank
  obtain ⟨c, rest, rfl⟩ := List.exists_cons_of_ne_nil filled
  have first (l : List Char) : trimLeft (c :: l) = c :: l :=
    List.dropWhile_cons_of_neg (by simp [unblank c List.mem_cons_self])
  rw [trimChars, first] at same
  rw [trimChars, List.append_assoc, trimLeft_blank_append before _ blank, List.cons_append, first, ← List.cons_append,
    trimRight_append_blank _ after blank', same]

theorem trim_holds (cs : List Char) (n : Nat) : Numeral.Signed (trimChars cs) n ↔ Holds cs n := by
  constructor
  · intro signed
    obtain ⟨before, after, around, blank, blank'⟩ := trim_around cs
    exact ⟨before, trimChars cs, after, around, blank, blank', signed⟩
  · rintro ⟨before, numeral, after, rfl, blank, blank', signed⟩
    have unblank := signed_unblank numeral n signed
    rwa [trim_surrounded before numeral after (signed_filled numeral n signed) unblank blank blank']

theorem trimmed_word32 (t : String) (n : UInt32) : Numeral.readWord32 (trim t) = .ok n ↔ Holds t.toList n.toNat := by
  rw [Numeral.word32_signed, trim, String.toList_ofList, trim_holds]

end Overseer.Text
