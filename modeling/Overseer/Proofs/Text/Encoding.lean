import Mathlib.Tactic.SplitIfs
import Overseer.Files.Path

set_option autoImplicit false

namespace Overseer.Text

theorem bytes_cons (m n : Nat) (x y : List UInt8) (byte : m < 256) (byte' : n < 256) :
    UInt8.ofNat m :: x < UInt8.ofNat n :: y ↔ m < n ∨ m = n ∧ x < y := by
  rw [List.cons_lt_cons_iff, UInt8.lt_iff_toNat_lt, ← UInt8.toNat_inj, UInt8.toNat_ofNat_of_lt' byte,
    UInt8.toNat_ofNat_of_lt' byte']

theorem encode_order (c d : Char) (x y : List UInt8) (less : c < d) :
    String.utf8EncodeChar c ++ x < String.utf8EncodeChar d ++ y := by
  have smaller : c.val.toNat < d.val.toNat := UInt32.lt_iff_toNat_lt.mp less
  have top : d.val.toNat < 0x110000 := by
    rcases d.valid with low | high
    · exact Nat.lt_trans low (by decide)
    · exact high.2
  have square (n : Nat) : n / 4096 = n / 64 / 64 := (Nat.div_div_eq_div_mul n 64 64).symm
  have cube (n : Nat) : n / 262144 = n / 64 / 64 / 64 := by rw [← square, Nat.div_div_eq_div_mul]
  unfold String.utf8EncodeChar
  generalize c.val.toNat = m at *
  generalize d.val.toNat = n at *
  dsimp only
  -- The first byte tells how many there are, and more of them belong to the higher character. Of as many bytes,
  -- each holds six bits of the number, the highest ones first.
  split_ifs <;> simp (disch := omega) only [List.cons_append, List.nil_append, bytes_cons, square, cube] <;> omega

theorem encode_strict (a b : List Char) (less : a < b) :
    a.flatMap String.utf8EncodeChar < b.flatMap String.utf8EncodeChar := by
  induction a generalizing b with
  | nil =>
      cases b with
      | nil => exact absurd less (List.lt_irrefl [])
      | cons d ds =>
          obtain ⟨first, rest, bytes⟩ := List.exists_cons_of_ne_nil (String.utf8EncodeChar_ne_nil (c := d))
          rw [List.flatMap_nil, List.flatMap_cons, bytes]
          exact List.nil_lt_cons first _
  | cons c cs ih =>
      cases b with
      | nil => exact absurd less (List.not_lt_nil _)
      | cons d ds =>
          rw [List.flatMap_cons, List.flatMap_cons]
          rcases List.cons_lt_cons_iff.mp less with first | ⟨rfl, later⟩
          · exact encode_order c d _ _ first
          · exact List.append_left_lt (ih ds later)

theorem name_bytes (s : String) : (Files.Name.text s).bytes = s.toList.flatMap String.utf8EncodeChar := by
  change s.toByteArray.data.toList = _
  rw [← String.utf8Encode_toList, List.utf8Encode, List.data_toByteArray]

theorem name_order (s t : String) : (Files.Name.text s).bytes < (Files.Name.text t).bytes ↔ s < t := by
  have strict (s t : String) (less : s < t) : (Files.Name.text s).bytes < (Files.Name.text t).bytes := by
    rw [name_bytes, name_bytes]
    exact encode_strict _ _ (String.lt_iff.mp less)
  refine ⟨fun less => ?_, strict s t⟩
  rcases Std.lt_trichotomy s t with before | rfl | after
  · exact before
  · exact absurd less (List.lt_irrefl _)
  · exact absurd less (List.lt_asymm (strict t s after))

end Overseer.Text
