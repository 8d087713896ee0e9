import Overseer.Journal.Entry
import Overseer.Proofs.Files.Entry
import Overseer.Proofs.Time.Stamp

set_option autoImplicit false

namespace Overseer.Journal

open Files (pieces)
open Time (Stamp)

-- The characters before the first colon that a blank follows, and those after that blank.
def parted : List Char → Option (List Char × List Char)
  | [] => none
  | c :: cs => if c = ':' ∧ cs.head? = some ' ' then some ([], cs.tail) else (parted cs).map fun p => (c :: p.1, p.2)

theorem parted_append (front back : List Char) (clear : ¬[':', ' '] <:+: front) :
    parted (front ++ ':' :: ' ' :: back) = some (front, back) := by
  induction front with
  | nil => simp [parted]
  | cons c cs ih =>
      have within : [':', ' '] <:+: cs → [':', ' '] <:+: c :: cs := fun inside => inside.trans (List.suffix_cons c cs).isInfix
      have here : ¬(c = ':' ∧ (cs ++ ':' :: ' ' :: back).head? = some ' ') := by
        rintro ⟨rfl, blank⟩
        cases cs with
        | nil => simp at blank
        | cons d ds =>
            obtain rfl : d = ' ' := by simpa using blank
            exact clear ⟨[], ds, rfl⟩
      rw [List.cons_append, parted, if_neg here, ih fun inside => clear (within inside)]
      rfl

theorem parted_first (cs front back : List Char) (parts : parted cs = some (front, back)) :
    cs = front ++ ':' :: ' ' :: back ∧ ¬[':', ' '] <:+: front := by
  induction cs generalizing front with
  | nil => cases parts
  | cons c cs ih =>
      rw [parted] at parts
      split at parts
      · next here =>
          obtain ⟨rfl, rfl⟩ := Prod.mk.inj (Option.some.inj parts)
          obtain ⟨rfl, blank⟩ := here
          obtain ⟨rest, rfl⟩ := List.head?_eq_some_iff.mp blank
          exact ⟨rfl, by simp⟩
      · next elsewhere =>
          obtain ⟨⟨first, last⟩, later, same⟩ := Option.map_eq_some_iff.mp parts
          obtain ⟨rfl, rfl⟩ := Prod.mk.inj same
          obtain ⟨rfl, clear⟩ := ih first later
          refine ⟨rfl, ?_⟩
          intro inside
          rcases List.infix_cons_iff.mp inside with start | rest
          · obtain ⟨rfl, blank⟩ := List.cons_prefix_cons.mp start
            obtain ⟨more, rfl⟩ := blank
            exact elsewhere (by simp)
          · exact clear rest

theorem parted_iff (cs front back : List Char) :
    parted cs = some (front, back) ↔ cs = front ++ ':' :: ' ' :: back ∧ ¬[':', ' '] <:+: front := by
  constructor
  · exact parted_first cs front back
  · rintro ⟨rfl, clear⟩
    exact parted_append front back clear

theorem line_chars (e : Entry) :
    e.line.toList = (Stamp.ofInstant e.time).chars ++ ':' :: ' ' :: (e.message.toList ++ ['\n']) := by
  simp [Entry.line, Entry.text, Stamp.text, String.toList_append]

theorem parted_line (e : Entry) :
    parted e.line.toList = some ((Stamp.ofInstant e.time).chars, e.message.toList ++ ['\n']) :=
  (parted_iff _ _ _).mpr ⟨line_chars e, Stamp.chars_clear _⟩

theorem parted_text (e : Entry) :
    parted e.text.toList = some ((Stamp.ofInstant e.time).chars, e.message.toList) := by
  have chars : e.text.toList = (Stamp.ofInstant e.time).chars ++ ':' :: ' ' :: e.message.toList := by
    simp [Entry.text, Stamp.text, String.toList_append]
  exact (parted_iff _ _ _).mpr ⟨chars, Stamp.chars_clear _⟩

theorem count_line (e : Entry) : e.line.toList.count '\n' = e.message.toList.count '\n' + 1 := by
  have unbroken := List.count_eq_zero.mpr (Stamp.chars_unbroken (Stamp.ofInstant e.time))
  rw [line_chars, List.count_append, unbroken]
  simp

-- What stands behind a newline in a message stands on a line of its own, whatever it reads as.
theorem line_broken (time : Time.Instant) (a b : String) :
    Entry.line ⟨time, a ++ "\n" ++ b⟩ = Entry.line ⟨time, a⟩ ++ b ++ "\n" := by
  simp only [Entry.line, Entry.text, String.append_assoc]

def transcript (entries : List Entry) : String := String.join (entries.map Entry.line)

theorem transcript_cons (e : Entry) (rest : List Entry) : transcript (e :: rest) = e.line ++ transcript rest :=
  String.join_cons

theorem join_bytes (a b : List String) :
    (String.join (a ++ b)).toUTF8 = (String.join a).toUTF8 ++ (String.join b).toUTF8 := by
  rw [String.join_append]
  exact String.toByteArray_append

theorem transcript_bytes (a b : List Entry) :
    (transcript (a ++ b)).toUTF8 = (transcript a).toUTF8 ++ (transcript b).toUTF8 := by
  rw [transcript, List.map_append]
  exact join_bytes _ _

theorem count_transcript (entries : List Entry) :
    (transcript entries).toList.count '\n' =
      entries.length + (entries.map fun e => e.message.toList.count '\n').sum := by
  induction entries with
  | nil => rfl
  | cons e rest ih =>
      rw [transcript_cons, String.toList_append, List.count_append, ih, count_line]
      simp only [List.length_cons, List.map_cons, List.sum_cons]
      omega

def textLines (text : String) : List (List Char) := (pieces '\n' text.toList).dropLast

-- The messages that a reader finds: of each line the part behind the stamp.
def messages (text : String) : List String :=
  (textLines text).filterMap fun line => (parted line).map fun p => String.ofList p.2

theorem lines_transcript (entries : List Entry) (unbroken : ∀ e ∈ entries, '\n' ∉ e.message.toList) :
    textLines (transcript entries) = entries.map fun e => e.text.toList := by
  have split : pieces '\n' (transcript entries).toList = (entries.map fun e => e.text.toList) ++ [[]] := by
    induction entries with
    | nil => rfl
    | cons e rest ih =>
        obtain ⟨first, others⟩ := List.forall_mem_cons.mp unbroken
        have whole : '\n' ∉ e.text.toList := by
          simp [Entry.text, Stamp.text, String.toList_append, Stamp.chars_unbroken, first]
        have chars : (transcript (e :: rest)).toList = e.text.toList ++ '\n' :: (transcript rest).toList := by
          simp [transcript_cons, Entry.line, String.toList_append]
        rw [chars, Files.pieces_append, Files.pieces_whole _ _ whole, ih others]
        rfl
  rw [textLines, split, List.dropLast_concat]

theorem messages_transcript (entries : List Entry) (unbroken : ∀ e ∈ entries, '\n' ∉ e.message.toList) :
    messages (transcript entries) = entries.map Entry.message := by
  rw [messages, lines_transcript entries unbroken, List.filterMap_map]
  have found : ((fun line => (parted line).map fun p => String.ofList p.2) ∘ fun e : Entry => e.text.toList) =
      fun e => some e.message := by
    funext e
    simp [parted_text]
  rw [found]
  exact congrFun List.filterMap_eq_map entries

end Overseer.Journal
