import Mathlib.Data.List.Infix
import Overseer.Proofs.Text.Numeral
import Overseer.Time.Stamp

set_option autoImplicit false

namespace Overseer.Time.Stamp

open Text (digit_ne)
open Text.Numeral (digits_digit padded padded_digit)

theorem padded_free (other : Char) (not : other.isDigit = false) (width n : Nat) : other ∉ padded width n :=
  fun member => digit_ne other other (padded_digit width n other member) not rfl

theorem year_free (other : Char) (not : other.isDigit = false) (unsigned : other ≠ '+' ∧ other ≠ '-') (y : Int) :
    other ∉ yearText y := by
  cases y with
  | ofNat n =>
      rw [yearText]
      split
      · exact padded_free other not 4 n
      · rw [List.mem_cons, not_or]
        exact ⟨unsigned.1, fun member => digit_ne other other (digits_digit n other member) not rfl⟩
  | negSucc n =>
      rw [yearText, List.mem_cons, not_or]
      exact ⟨unsigned.2, padded_free other not 4 (n + 1)⟩

variable (s : Stamp)

theorem chars_split : ∃ day clock, s.chars = day ++ ' ' :: clock ∧ ':' ∉ day ∧ ' ' ∉ clock := by
  refine ⟨yearText s.date.year ++ '-' :: padded 2 s.date.month ++ '-' :: padded 2 s.date.day,
    padded 2 s.hour ++ ':' :: padded 2 s.minute ++ ':' :: padded 2 s.second ++ '.' :: padded 6 s.micro, ?_, ?_, ?_⟩
  · simp [chars]
  · simp [year_free, padded_free]
  · simp [padded_free]

-- A colon in a stamp is behind the stamp's only blank.
theorem chars_clear : ¬[':', ' '] <:+: s.chars := by
  rintro ⟨before, after, split⟩
  obtain ⟨day, clock, whole, dateless, blankless⟩ := chars_split s
  rw [whole, List.append_assoc] at split
  rcases List.append_eq_append_iff.mp split with ⟨middle, rfl, tail⟩ | ⟨middle, rfl, tail⟩
  · cases middle with
    | nil => simp at tail
    | cons c rest =>
        obtain ⟨rfl, -⟩ := List.cons_eq_cons.mp tail
        exact dateless (by simp)
  · cases middle with
    | nil => simp at tail
    | cons c rest =>
        obtain ⟨-, rfl⟩ := List.cons_eq_cons.mp tail
        exact blankless (by simp)

theorem chars_unbroken : '\n' ∉ s.chars := by
  simp [chars, year_free, padded_free]

end Overseer.Time.Stamp
