import Mathlib.Data.List.Forall2
import Overseer.Proofs.Time.Calendar
import Overseer.Proofs.Time.Stamp

set_option autoImplicit false

namespace Overseer.Time

open Text (append_order)
open Text.Numeral (padded padded_fits padded_inj padded_order value value_padded)

abbrev Layout : Type := List (Char × Nat)

def written : Layout → List Nat → List Char
  | (mark, width) :: layout, n :: ns => mark :: (padded width n ++ written layout ns)
  | _, _ => []

def numbersOf : Layout → List Char → List Nat
  | [], _ => []
  | (_, width) :: layout, cs => value ((cs.drop 1).take width) :: numbersOf layout (cs.drop (1 + width))

def Fits (row : Char × Nat) (n : Nat) : Prop := 0 < row.2 ∧ n < 10 ^ row.2

section Written

variable {layout : Layout} {ns ms : List Nat} (fits : List.Forall₂ Fits layout ns)
include fits

theorem written_length : (written layout ns).length = (layout.map fun row => 1 + row.2).sum := by
  induction fits with
  | nil => rfl
  | @cons row n layout ns own others ih =>
      rw [written, List.length_cons, List.length_append, padded_fits row.2 n own.1 own.2, ih, List.map_cons, List.sum_cons]
      omega

theorem numbers_written : numbersOf layout (written layout ns) = ns := by
  induction fits with
  | nil => rfl
  | @cons row n layout ns own others ih =>
      have length := padded_fits row.2 n own.1 own.2
      rw [written, numbersOf, List.drop_one, List.tail_cons, List.take_left' length, Nat.add_comm, List.drop_succ_cons,
        List.drop_left' length, value_padded, ih]

theorem written_order (fits' : List.Forall₂ Fits layout ms) : written layout ns < written layout ms ↔ ns < ms := by
  induction fits generalizing ms with
  | nil =>
      cases fits'
      exact iff_of_false (List.lt_irrefl _) (List.lt_irrefl _)
  | @cons row n layout ns own others ih =>
      cases fits' with
      | @cons _ m _ ms own' others' =>
          have length := (padded_fits row.2 n own.1 own.2).trans (padded_fits row.2 m own'.1 own'.2).symm
          rw [written, written, List.cons_lt_cons_iff, append_order _ _ _ _ length, List.cons_lt_cons_iff,
            padded_order row.2 n m own.1 own.2 own'.2, padded_inj, ih others']
          simp

end Written

namespace Instant

def Before (a b : Instant) : Prop := a.seconds < b.seconds ∨ a.seconds = b.seconds ∧ a.nanos < b.nanos

instance : DecidableRel Before := fun _ _ => inferInstanceAs (Decidable (_ ∨ _ ∧ _))

def micro (t : Instant) : Instant := ⟨t.seconds, t.nanos / 1000 * 1000⟩

structure Plain (t : Instant) : Prop where
  valid : t.isValid = true
  first : 0 ≤ (Date.ofDayNumber t.day).year
  last : (Date.ofDayNumber t.day).year ≤ 9999

theorem before_or_after (a b : Instant) (other : a.micro ≠ b.micro) : a.micro.Before b.micro ∨ b.micro.Before a.micro := by
  unfold Before
  rcases Int.lt_trichotomy a.seconds b.seconds with less | same | more
  · exact .inl (.inl less)
  · rcases Nat.lt_trichotomy a.micro.nanos b.micro.nanos with less | equal | more
    · exact .inl (.inr ⟨same, less⟩)
    · exact absurd (by rw [micro, micro, Instant.mk.injEq]; exact ⟨same, equal⟩) other
    · exact .inr (.inr ⟨same.symm, more⟩)
  · exact .inr (.inl more)

-- Of instants in two microseconds the one before the other is in the one before the other.
theorem before_micro (a b : Instant) (other : a.micro ≠ b.micro) : a.micro.Before b.micro ↔ a.Before b := by
  simp only [micro, ne_eq, Instant.mk.injEq, not_and] at other
  unfold Before micro
  dsimp only
  omega

theorem valid_bounds (t : Instant) (valid : t.isValid = true) :
    t.secondOfDay < 86400 ∧ t.nanos < 2000000000 ∧ (1000000000 ≤ t.nanos → t.secondOfDay % 60 = 59) := by
  simp only [isValid, isLeap, Bool.and_eq_true, decide_eq_true_eq, Bool.or_eq_true, Bool.not_eq_true', decide_eq_false_iff_not,
    beq_iff_eq] at valid
  obtain ⟨⟨-, low⟩, leap⟩ := valid
  refine ⟨?_, low, fun late => leap.resolve_left (not_not_intro late)⟩
  unfold secondOfDay
  omega

end Instant

namespace Stamp

-- A mark is thought before the year as well.
def layout : Layout := [('-', 4), ('-', 2), ('-', 2), (' ', 2), (':', 2), (':', 2), ('.', 6)]

def numbers (s : Stamp) : List Nat :=
  [s.date.year.toNat, s.date.month, s.date.day, s.hour, s.minute, s.second, s.micro]

def ofNumbers : List Nat → Option Stamp
  | [year, month, day, hour, minute, second, micro] => some ⟨⟨year, month, day⟩, hour, minute, second, micro⟩
  | _ => none

def ofText (text : String) : Option Stamp := ofNumbers (numbersOf layout ('-' :: text.toList))

-- Second 60 is the leap second behind second 59.
def instant (s : Stamp) : Instant where
  seconds := s.date.dayNumber * 86400 + (s.hour * 3600 + s.minute * 60 + min s.second 59 : Nat)
  nanos := (if s.second = 60 then 1000000000 else 0) + s.micro * 1000

section Plain

variable {t : Instant} (plain : t.Plain)
include plain

theorem chars_written : '-' :: (ofInstant t).chars = written layout (ofInstant t).numbers := by
  obtain ⟨year, own⟩ := Int.eq_ofNat_of_zero_le plain.first
  have last := plain.last
  rw [own] at last
  have four : yearText (ofInstant t).date.year = padded 4 (ofInstant t).date.year.toNat := by
    change yearText (Date.ofDayNumber t.day).year = padded 4 (Date.ofDayNumber t.day).year.toNat
    rw [own]
    exact if_pos (Int.ofNat_le.mp last)
  rw [chars, four]
  simp [layout, numbers, written]

theorem numbers_fit : List.Forall₂ Fits layout (ofInstant t).numbers := by
  obtain ⟨seconds, nanos, -⟩ := t.valid_bounds plain.valid
  obtain ⟨⟨-, month⟩, -, day⟩ := Date.date_bounded t.day
  have year : (Date.ofDayNumber t.day).year.toNat < 10000 := by
    have last := plain.last
    omega
  have second : t.secondOfDay % 60 + (if t.isLeap then 1 else 0) < 100 := by split <;> omega
  refine .cons ⟨by decide, year⟩ (.cons ⟨by decide, ?_⟩ (.cons ⟨by decide, ?_⟩ (.cons ⟨by decide, ?_⟩
    (.cons ⟨by decide, ?_⟩ (.cons ⟨by decide, second⟩ (.cons ⟨by decide, ?_⟩ .nil))))))
  · change (Date.ofDayNumber t.day).month < 100
    omega
  · change (Date.ofDayNumber t.day).day < 100
    omega
  · change t.secondOfDay / 3600 < 100
    omega
  · change t.secondOfDay / 60 % 60 < 100
    omega
  · change t.nanos % 1000000000 / 1000 < 1000000
    omega

theorem chars_length : (ofInstant t).chars.length = 26 := by
  have length := written_length (numbers_fit plain)
  rw [← chars_written plain, List.length_cons] at length
  exact Nat.succ.inj length

theorem of_text : ofText (ofInstant t).text = some (ofInstant t) := by
  have year : ((ofInstant t).date.year.toNat : Int) = (ofInstant t).date.year := Int.toNat_of_nonneg plain.first
  rw [ofText, text, String.toList_ofList, chars_written plain, numbers_written (numbers_fit plain), numbers, ofNumbers, year]

theorem instant_of_stamp : (ofInstant t).instant = t.micro := by
  obtain ⟨seconds, nanos, leap⟩ := t.valid_bounds plain.valid
  have day : (ofInstant t).date.dayNumber = t.seconds / 86400 := Date.day_number t.day
  have clock : t.seconds = t.seconds / 86400 * 86400 + t.secondOfDay := by
    unfold Instant.secondOfDay
    omega
  by_cases late : 1000000000 ≤ t.nanos
  · have minute := leap late
    have second : (ofInstant t).second = 60 := by simp [ofInstant, Instant.isLeap, late, minute]
    have micro : (ofInstant t).micro = t.nanos % 1000000000 / 1000 := rfl
    rw [instant, Instant.micro, day, second, if_pos rfl, Instant.mk.injEq, micro]
    refine ⟨?_, by omega⟩
    change _ + ((t.secondOfDay / 3600 * 3600 + t.secondOfDay / 60 % 60 * 60 + 59 : Nat) : Int) = t.seconds
    omega
  · have second : (ofInstant t).second = t.secondOfDay % 60 := by simp [ofInstant, Instant.isLeap, late]
    have micro : (ofInstant t).micro = t.nanos % 1000000000 / 1000 := rfl
    rw [instant, Instant.micro, day, second, if_neg (by omega), Instant.mk.injEq, micro]
    refine ⟨?_, by omega⟩
    change _ + ((t.secondOfDay / 3600 * 3600 + t.secondOfDay / 60 % 60 * 60 + min (t.secondOfDay % 60) 59 : Nat) : Int) = t.seconds
    omega

end Plain

theorem clock_order (a b : Instant) (first : a.isValid = true) (second : b.isValid = true)
    (before : a.secondOfDay < b.secondOfDay ∨ a.secondOfDay = b.secondOfDay ∧ a.nanos / 1000 < b.nanos / 1000) :
    [(ofInstant a).hour, (ofInstant a).minute, (ofInstant a).second, (ofInstant a).micro] <
      [(ofInstant b).hour, (ofInstant b).minute, (ofInstant b).second, (ofInstant b).micro] := by
  obtain ⟨-, nanos, leap⟩ := a.valid_bounds first
  obtain ⟨-, nanos', leap'⟩ := b.valid_bounds second
  simp only [ofInstant, Instant.isLeap, decide_eq_true_eq, List.cons_lt_cons_iff, List.not_lt_nil, and_false, or_false]
  split <;> split <;> omega

theorem numbers_order (a b : Instant) (first : a.Plain) (second : b.Plain) (before : a.micro.Before b.micro) :
    (ofInstant a).numbers < (ofInstant b).numbers := by
  have low := first.first
  have low' := second.first
  rcases Int.lt_trichotomy a.day b.day with less | same | more
  · have dates := Date.later_day a.day b.day less
    unfold Date.Before at dates
    simp only [numbers, ofInstant, List.cons_lt_cons_iff]
    omega
  · have later : a.secondOfDay < b.secondOfDay ∨ a.secondOfDay = b.secondOfDay ∧ a.nanos / 1000 < b.nanos / 1000 := by
      unfold Instant.day at same
      unfold Instant.Before Instant.micro at before
      unfold Instant.secondOfDay
      dsimp only at before
      omega
    have dates : (ofInstant a).date = (ofInstant b).date := congrArg Date.ofDayNumber same
    simp only [numbers, dates, List.cons_lt_cons_iff, Nat.lt_irrefl, false_or, true_and]
    simpa only [List.cons_lt_cons_iff] using clock_order a b first.valid second.valid later
  · unfold Instant.day at more
    unfold Instant.Before Instant.micro at before
    dsimp only at before
    omega

theorem text_order (a b : Instant) (first : a.Plain) (second : b.Plain) :
    (ofInstant a).text < (ofInstant b).text ↔ (ofInstant a).numbers < (ofInstant b).numbers := by
  have dashed : (ofInstant a).chars < (ofInstant b).chars ↔
      '-' :: (ofInstant a).chars < '-' :: (ofInstant b).chars := by
    rw [List.cons_lt_cons_iff]
    simp
  rw [String.lt_iff, text, text, String.toList_ofList, String.toList_ofList, dashed, chars_written first, chars_written second,
    written_order (numbers_fit first) (numbers_fit second)]

theorem of_micro (t : Instant) : ofInstant t.micro = ofInstant t := by
  have leap : t.micro.isLeap = t.isLeap := by
    unfold Instant.isLeap Instant.micro
    rw [decide_eq_decide]
    dsimp only
    omega
  have micro : t.micro.nanos % 1000000000 / 1000 = t.nanos % 1000000000 / 1000 := by
    unfold Instant.micro
    dsimp only
    omega
  rw [ofInstant, leap, micro]
  rfl

theorem text_micro (a b : Instant) (first : a.Plain) (second : b.Plain) :
    (ofInstant a).text = (ofInstant b).text ↔ a.micro = b.micro := by
  constructor
  · intro same
    have stamps := of_text first
    rw [same, of_text second] at stamps
    rw [← instant_of_stamp first, ← instant_of_stamp second, Option.some.inj stamps]
  · intro same
    rw [← of_micro a, same, of_micro b]

theorem text_before (a b : Instant) (first : a.Plain) (second : b.Plain) (other : a.micro ≠ b.micro) :
    (ofInstant a).text < (ofInstant b).text ↔ a.Before b := by
  rw [text_order a b first second, ← Instant.before_micro a b other]
  refine ⟨fun less => ?_, numbers_order a b first second⟩
  rcases Instant.before_or_after a b other with before | after
  · exact before
  · exact absurd (numbers_order b a second first after) (List.lt_asymm less)

end Stamp

end Overseer.Time
