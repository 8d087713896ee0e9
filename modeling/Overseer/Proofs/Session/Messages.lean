import Overseer.Session.Basic

set_option autoImplicit false

namespace Overseer.Session

open Text (Numeral.text Numeral.word32 Numeral.word64)

def isIncrement (message : String) : Bool := incrementStem.toList.isPrefixOf message.toList

def IsClosing (message : String) : Prop :=
  (∃ report : Report, message = report.summary) ∨ ∃ id reason, message = abortMessage id reason

def firstLetters (message : String) : List Char := message.toList.take 9

theorem first_letters_start : firstLetters startMessage = ['S', 't', 'a', 'r', 't', 'i', 'n', 'g', ' '] := by
  unfold startMessage
  simp [firstLetters]

theorem first_letters_restart :
    firstLetters restartMessage = ['R', 'e', 's', 't', 'a', 'r', 't', 'i', 'n'] := by
  unfold restartMessage
  simp [firstLetters]

theorem first_letters_stem :
    incrementStem.toList.take 9 = ['P', 'r', 'o', 'c', 'e', 's', 's', ' ', 'e'] ∧ 9 ≤ incrementStem.toList.length := by
  unfold incrementStem
  simp

theorem first_letters_escalation (count : UInt32) :
    firstLetters (escalationMessage count) = ['P', 'r', 'o', 'c', 'e', 's', 's', ' ', 'h'] := by
  unfold escalationMessage
  simp [firstLetters]

theorem first_letters_undelivered (reason : String) :
    firstLetters (undeliveredMessage reason) = ['N', 'o', 't', 'i', 'f', 'i', 'c', 'a', 't'] := by
  unfold undeliveredMessage
  simp [firstLetters]

theorem first_letters_increment (message : String) (counted : isIncrement message = true) :
    firstLetters message = ['P', 'r', 'o', 'c', 'e', 's', 's', ' ', 'e'] := by
  obtain ⟨rest, text⟩ := List.isPrefixOf_iff_prefix.mp counted
  obtain ⟨letters, long⟩ := first_letters_stem
  rw [firstLetters, ← text, List.take_append_of_le_length long, letters]

theorem first_letters_summary (report : Report) :
    (firstLetters report.summary).take 2 = ['S', 'e'] := by
  obtain ⟨session, outcome⟩ := report
  cases outcome <;> (unfold Report.summary; simp [firstLetters])

theorem first_letters_abort (id : UInt64) (reason : String) :
    (firstLetters (abortMessage id reason)).take 2 = if id = 0 then ['S', 'u'] else ['S', 'e'] := by
  unfold abortMessage
  split <;> simp [firstLetters]

theorem first_letters_closing (message : String) (closing : IsClosing message) :
    (firstLetters message).take 2 = ['S', 'e'] ∨ (firstLetters message).take 2 = ['S', 'u'] := by
  rcases closing with ⟨report, rfl⟩ | ⟨id, reason, rfl⟩
  · exact .inl (first_letters_summary report)
  · rw [first_letters_abort]
    split
    · exact .inr rfl
    · exact .inl rfl

theorem increment_is_increment (count : UInt32) : isIncrement (incrementMessage count) = true := by
  unfold isIncrement incrementMessage
  rw [List.isPrefixOf_iff_prefix, String.toList_append, String.toList_append, String.toList_append,
    List.append_assoc, List.append_assoc]
  exact List.prefix_append incrementStem.toList _

theorem not_increment (message : String) (other : firstLetters message ≠ ['P', 'r', 'o', 'c', 'e', 's', 's', ' ', 'e']) :
    isIncrement message = false :=
  Bool.eq_false_iff.mpr fun counted => other (first_letters_increment message counted)

theorem start_not_increment : isIncrement startMessage = false :=
  not_increment _ (by simp [first_letters_start])

theorem restart_not_increment : isIncrement restartMessage = false :=
  not_increment _ (by simp [first_letters_restart])

theorem escalation_not_increment (count : UInt32) : isIncrement (escalationMessage count) = false :=
  not_increment _ (by simp [first_letters_escalation])

theorem undelivered_not_increment (reason : String) : isIncrement (undeliveredMessage reason) = false :=
  not_increment _ (by simp [first_letters_undelivered])

theorem closing_not_increment (message : String) (closing : IsClosing message) : isIncrement message = false := by
  apply not_increment
  intro letters
  have kinds := first_letters_closing message closing
  simp [letters] at kinds

theorem not_closing (message : String) (first second : Char) (rest : List Char)
    (letters : firstLetters message = first :: second :: rest)
    (other : ¬(first = 'S' ∧ (second = 'e' ∨ second = 'u'))) : ¬IsClosing message := by
  intro closing
  have kinds := first_letters_closing message closing
  simp only [letters, List.take_succ_cons, List.take_zero, List.cons.injEq, and_true] at kinds
  apply other
  rcases kinds with ⟨one, two⟩ | ⟨one, two⟩
  · exact ⟨one, .inl two⟩
  · exact ⟨one, .inr two⟩

theorem start_not_closing : ¬IsClosing startMessage :=
  not_closing _ _ _ _ first_letters_start (by simp)

theorem restart_not_closing : ¬IsClosing restartMessage :=
  not_closing _ _ _ _ first_letters_restart (by simp)

theorem increment_not_closing (count : UInt32) : ¬IsClosing (incrementMessage count) :=
  not_closing _ _ _ _ (first_letters_increment _ (increment_is_increment count)) (by simp)

theorem escalation_not_closing (count : UInt32) : ¬IsClosing (escalationMessage count) :=
  not_closing _ _ _ _ (first_letters_escalation count) (by simp)

theorem undelivered_not_closing (reason : String) : ¬IsClosing (undeliveredMessage reason) :=
  not_closing _ _ _ _ (first_letters_undelivered reason) (by simp)

theorem summary_closing (report : Report) : IsClosing report.summary := .inl ⟨report, rfl⟩

theorem abort_closing (id : UInt64) (reason : String) : IsClosing (abortMessage id reason) :=
  .inr ⟨id, reason, rfl⟩

theorem numeral_before_blank (m n : Nat) (a b : List Char)
    (same : (Numeral.text m).toList ++ ' ' :: a = (Numeral.text n).toList ++ ' ' :: b) : m = n ∧ a = b := by
  have digits (k : Nat) : (Numeral.text k).toList = Nat.toDigits 10 k := String.toList_ofList
  have number (k : Nat) (rest : List Char) :
      (Nat.toDigits 10 k ++ ' ' :: rest).takeWhile Char.isDigit = Nat.toDigits 10 k := by
    rw [List.takeWhile_append_of_pos fun c member => Nat.isDigit_of_mem_toDigits (by decide) (by decide) member]
    simp
  rw [digits, digits] at same
  have numerals := congrArg (List.takeWhile Char.isDigit) same
  rw [number, number] at numerals
  have equal : m = n := by
    rw [← Nat.ofDigitChars_ten_toDigits (n := m), numerals, Nat.ofDigitChars_ten_toDigits]
  subst equal
  exact ⟨rfl, (List.cons_eq_cons.mp (List.append_cancel_left same)).2⟩

def Outcome.phrase : Outcome → String × String
  | .succeeded => ("succeeded after ", "failures")
  | .exhausted => ("exhausted after ", "failures, giving up")
  | .cancelled => ("cancelled by shutdown request after ", "failures")

theorem summary_text (r : Report) :
    r.summary.toList = "Session ".toList ++ (Numeral.text r.session.id.toNat).toList ++
      ' ' :: (r.outcome.phrase.1.toList ++ (Numeral.text r.session.failures.toNat).toList ++
        ' ' :: r.outcome.phrase.2.toList) := by
  obtain ⟨session, outcome⟩ := r
  cases outcome <;>
    (unfold Report.summary; simp [Outcome.phrase, Numeral.word32, Numeral.word64])

theorem abort_allocated (id : UInt64) (reason : String) (allocated : id ≠ 0) :
    abortMessage id reason = "Session " ++ Numeral.word64 id ++ " aborted: " ++ reason := by
  rw [abortMessage, if_neg allocated]

theorem abort_text (id : UInt64) (reason : String) (allocated : id ≠ 0) :
    (abortMessage id reason).toList = "Session ".toList ++ (Numeral.text id.toNat).toList ++
      ' ' :: ("aborted: ".toList ++ reason.toList) := by
  rw [abort_allocated id reason allocated]
  simp [Numeral.word64]

theorem summary_injective (a b : Report) (same : a.summary = b.summary) :
    a.outcome = b.outcome ∧ a.session.id = b.session.id ∧ a.session.failures = b.session.failures := by
  have text := congrArg String.toList same
  rw [summary_text, summary_text] at text
  simp only [List.append_assoc] at text
  obtain ⟨id, tails⟩ := numeral_before_blank _ _ _ _ (List.append_cancel_left text)
  have outcome : a.outcome = b.outcome := by
    cases one : a.outcome <;> cases two : b.outcome <;> simp [one, two, Outcome.phrase] at tails ⊢
  rw [outcome] at tails
  obtain ⟨failures, -⟩ := numeral_before_blank _ _ _ _ (List.append_cancel_left tails)
  exact ⟨outcome, UInt64.toNat_inj.mp id, UInt32.toNat_inj.mp failures⟩

theorem summary_ne_abort (r : Report) (id : UInt64) (reason : String) : r.summary ≠ abortMessage id reason := by
  intro same
  by_cases allocated : id = 0
  · have letters := first_letters_abort id reason
    rw [← same, first_letters_summary, if_pos allocated] at letters
    simp at letters
  · have text := congrArg String.toList same
    rw [summary_text, abort_text id reason allocated] at text
    simp only [List.append_assoc] at text
    obtain ⟨-, tails⟩ := numeral_before_blank _ _ _ _ (List.append_cancel_left text)
    cases outcome : r.outcome <;> simp [outcome, Outcome.phrase] at tails

end Overseer.Session
