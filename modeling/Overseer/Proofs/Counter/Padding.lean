import Overseer.Proofs.Counter.Lone

set_option autoImplicit false

namespace Overseer.Counter

open Files (Location Name Path)
open Files.Tree (Ordinary Linkless)
open Host (Listing Machine)
open Text (Numeral.numeral_lt Numeral.padded_digit Numeral.value Numeral.value_padded Numeral.word32)

variable {store : Store} {listing : Listing} {m m' : Machine} {place : Location} {id : UInt64} {stem name : String}

-- Of the names of a number, those with more zeros come before the artifact's. For the number 0 it is those
-- with fewer.
def Outranks (stem : String) (id : UInt64) (name : String) : Prop :=
  if id = 0 then name.length < (artifactName stem id).length else (artifactName stem id).length < name.length

instance (stem : String) (id : UInt64) (name : String) : Decidable (Outranks stem id name) := by
  unfold Outranks
  infer_instance

theorem append_lt (first a b : List Char) : first ++ a < first ++ b ↔ a < b := by
  rw [Text.append_order first first a b rfl]
  exact ⟨fun later => (later.resolve_left (List.lt_irrefl _)).2, fun less => .inr ⟨rfl, less⟩⟩

theorem outranks_iff (own : ordinal? stem name = some id) : name < artifactName stem id ↔ Outranks stem id name := by
  obtain ⟨ds, named, -, digits, number⟩ := ordinal_value stem name id own
  have padded := Numeral.padded_digit ordinalWidth id.toNat
  have same : Numeral.value ds = Numeral.value (Text.Numeral.padded ordinalWidth id.toNat) := by
    rw [number, Numeral.value_padded]
  rw [String.lt_iff, named, artifact_text, append_lt, Numeral.numeral_lt _ _ digits padded same, Numeral.value_padded]
  unfold Outranks
  have zero : id = 0 ↔ id.toNat = 0 := by rw [← UInt64.toNat_inj]; rfl
  rw [← String.length_toList, ← String.length_toList, named, artifact_text, List.length_append, List.length_append]
  simp only [zero, Nat.add_lt_add_iff_left]

theorem name_among_least (store : Store) (names : List Name) (member : Name.text name ∈ names)
    (own : ordinal? store.stem name = some id) :
    Name.text (store.nameAmong (sorted store.stem names) id) ∈ names ∧
      ordinal? store.stem (store.nameAmong (sorted store.stem names) id) = some id ∧
      ∀ other, Name.text other ∈ names → ordinal? store.stem other = some id →
        store.nameAmong (sorted store.stem names) id ≤ other := by
  have inside (other : String) (present : Name.text other ∈ names) (numbered : ordinal? store.stem other = some id) :
      ⟨id, other⟩ ∈ sorted store.stem names := (mem_sorted _ _ ⟨id, other⟩).mpr ⟨present, numbered⟩
  unfold Store.nameAmong
  cases found : (sorted store.stem names).find? fun a => a.id == id with
  | none => exact absurd (beq_self_eq_true id) (List.find?_eq_none.mp found _ (inside name member own))
  | some a =>
      obtain ⟨same, before, after, split, others⟩ := List.find?_eq_some_iff_append.mp found
      have same : a.id = id := by simpa using same
      obtain ⟨present, numbered⟩ := (mem_sorted _ _ a).mp (List.mem_of_find?_eq_some found)
      refine ⟨present, same ▸ numbered, fun other there called => ?_⟩
      have ordered := sorted_ordered store.stem names
      rw [split, List.pairwise_append, List.pairwise_cons] at ordered
      have place := inside other there called
      rw [split, List.mem_append, List.mem_cons] at place
      rcases place with earlier | self | later
      · simpa using others _ earlier
      · exact self ▸ String.le_refl other
      · rcases ordered.2.1.1 _ later with less | ⟨-, le⟩
        · exact absurd (same ▸ less) Std.lt_irrefl
        · exact le

theorem read_among (listing : Listing) (opens : m.tree.Opens m.work store.home place) (some : store.directory ≠ "") (id : UInt64) :
    ((store.read id).run listing.answer m).1 = countAt m (Path.join store.directory
      (store.nameAmong (sorted store.stem (listing.order m (m.tree.names place))) id)) := by
  rw [read_answer, shows_home listing opens, if_neg some]
  rfl

theorem mem_listed (listing : Listing) (m : Machine) (place : Location) (n : Name) :
    n ∈ listing.order m (m.tree.names place) ↔ m.tree.node? (n :: place) ≠ none := by
  rw [(listing.perm m _).mem_iff, Files.Tree.mem_names]

section Replaced

variable {count : UInt32} (plain : Stem store.stem) (replaced : Replaced store id count m m' place)

include plain replaced

theorem replaced_count : countAt m' (store.artifactPath id) = .ok count := by
  obtain ⟨mode, file⟩ := replaced.artifact
  have entry := count_entry replaced.opens (artifact_proper plain id) replaced.fits _ mode file
  exact entry.trans (count_of_numeral _ count)

omit plain in
theorem replaced_names (numbered : ordinal? store.stem name = some id) (other : name ≠ artifactName store.stem id) :
    m'.tree.node? (.text name :: place) = m.tree.node? (.text name :: place) := by
  apply replaced.others
  · simpa using other
  · intro same
    obtain ⟨equal, -⟩ := List.cons_eq_cons.mp same
    rw [Name.text.inj equal, ordinal_temporary] at numbered
    cases numbered

theorem replaced_reads (listing : Listing) (first : store.directory = "" ∨ ∀ name, m.tree.node? (.text name :: place) ≠ none →
      ordinal? store.stem name = some id → ¬Outranks store.stem id name) :
    ((store.read id).run listing.answer m').1 = .ok count := by
  by_cases empty : store.directory = ""
  · rw [read_answer, shows_home listing replaced.opens, if_pos empty]
    exact replaced_count plain replaced
  · have first := first.resolve_left empty
    rw [read_among listing replaced.opens empty]
    have own := ordinal_artifact store.stem id
    have present : m'.tree.node? (.text (artifactName store.stem id) :: place) ≠ none := by
      obtain ⟨mode, file⟩ := replaced.artifact
      rw [file]
      nofun
    obtain ⟨there, numbered, least⟩ := name_among_least store _ ((mem_listed listing m' place _).mpr present) own
    have below := least _ ((mem_listed listing m' place _).mpr present) own
    generalize store.nameAmong (sorted store.stem (listing.order m' (m'.tree.names place))) id = read at there numbered below ⊢
    have same : read = artifactName store.stem id := by
      by_cases equal : read = artifactName store.stem id
      · exact equal
      · have known := (mem_listed listing m' place _).mp there
        rw [replaced_names replaced numbered equal] at known
        have above := String.not_lt.mp fun less => first read known numbered ((outranks_iff numbered).mp less)
        exact String.le_antisymm below above
    rw [same]
    exact replaced_count plain replaced

theorem replaced_stale (listing : Listing) (some : store.directory ≠ "")
    (present : m.tree.node? (.text name :: place) ≠ none) (own : ordinal? store.stem name = .some id)
    (outranks : Outranks store.stem id name)
    (ordinary : ∀ other, ordinal? store.stem other = .some id → Outranks store.stem id other →
      Ordinary (m.tree.node? (.text other :: place))) :
    ((store.read id).run listing.answer m').1 = ((store.read id).run listing.answer m).1 := by
  rw [read_among listing replaced.opens some, read_among listing replaced.before some]
  obtain ⟨there, numbered, least⟩ := name_among_least store _ ((mem_listed listing m place _).mpr present) own
  generalize store.nameAmong (sorted store.stem (listing.order m (m.tree.names place))) id = read at there numbered least ⊢
  have before : read < artifactName store.stem id := by
    have below := least name ((mem_listed listing m place _).mpr present) own
    exact Std.lt_of_le_of_lt below ((outranks_iff own).mpr outranks)
  have kept := replaced_names replaced numbered (Std.ne_of_lt before)
  have known := (mem_listed listing m place _).mp there
  obtain ⟨there', numbered', least'⟩ := name_among_least store _ ((mem_listed listing m' place _).mpr (kept ▸ known)) numbered
  have below := least' read ((mem_listed listing m' place _).mpr (kept ▸ known)) numbered
  generalize store.nameAmong (sorted store.stem (listing.order m' (m'.tree.names place))) id = read' at there' numbered' below ⊢
  have same : read' = read := by
    apply String.le_antisymm below
    by_cases equal : read' = artifactName store.stem id
    · exact equal ▸ Std.le_of_lt before
    · have known' := (mem_listed listing m' place _).mp there'
      rw [replaced_names replaced numbered' equal] at known'
      exact least read' ((mem_listed listing m place _).mpr known') numbered'
  rw [same]
  exact count_same replaced.before replaced.work replaced.opens (ordinal_proper plain numbered)
    (ordinary read numbered ((outranks_iff numbered).mp before)) kept

end Replaced

theorem lone_read (name text : String) (id : UInt64) (own : ordinal? "f" name = some id) (fits : Files.Fits "." name) :
    ((Store.read ⟨".", "f"⟩ id).run (Listing.answer .plain) (lone name text)).1 =
      countOf (Path.join "." name) (Files.textBytes text) := by
  have plain : Stem "f" := by constructor <;> decide
  have file : (lone name text).tree.node? [.text name] = some (.file (Files.textBytes text) Files.Tree.newMode) := by
    rw [lone_node, if_pos rfl]
  have present := (mem_listed .plain (lone name text) [] (.text name)).mpr (by simp [file])
  obtain ⟨there, -, -⟩ := name_among_least ⟨".", "f"⟩ _ present own
  have opens : (lone name text).tree.Opens (lone name text).work (Store.home ⟨".", "f"⟩) [] := lone_opens name text
  rw [read_among .plain opens (by decide)]
  generalize Store.nameAmong _ _ _ = read at there ⊢
  have known := (mem_listed .plain (lone name text) [] _).mp there
  rw [lone_node] at known
  obtain rfl : read = name := by simpa using known
  exact count_entry opens (ordinal_proper plain own) fits _ _ file

theorem updated_home {count : UInt32} (plain : Stem store.stem)
    (granted : ((store.update id count).run listing.answer m).1 = .ok ()) : ∃ place, m.tree.Opens m.work store.home place := by
  by_cases empty : store.directory = ""
  · rw [Store.home, if_pos empty]
    exact ⟨m.work, Files.Tree.opens_here m.tree m.work⟩
  · rw [Store.home, if_neg empty]
    by_cases opened : ∃ place, m.tree.Opens m.work store.directory place
    · exact opened
    · obtain ⟨f, refused⟩ := closed_update listing plain (fun place opens => opened ⟨place, opens⟩) empty id count
      rw [refused] at granted
      cases granted

-- What has been written is read, unless another name of the number comes first. Then what that name held
-- before is read.
theorem read_after_update {count : UInt32} (plain : Stem store.stem)
    (linkless : ∀ place, m.tree.Opens m.work store.home place →
      Linkless (m.tree.node? (.text (temporaryName store.stem id) :: place)))
    (avoids : ∀ place, m.tree.Opens m.work store.home place →
      m.tree.node? (.text (artifactName store.stem id) :: place) ≠ some .directory →
      m.tree.Avoids m.work store.home place (· = .text (artifactName store.stem id) :: place))
    (granted : ((store.update id count).run listing.answer m).1 = .ok ()) :
    ∃ place, m.tree.Opens m.work store.home place ∧
      ((store.directory = "" ∨ ∀ name, m.tree.node? (.text name :: place) ≠ none → ordinal? store.stem name = some id →
          ¬Outranks store.stem id name) →
        ((store.read id).run listing.answer ((store.update id count).run listing.answer m).2).1 = .ok count) ∧
      ∀ name, store.directory ≠ "" → m.tree.node? (.text name :: place) ≠ none → ordinal? store.stem name = some id →
        Outranks store.stem id name →
        (∀ other, ordinal? store.stem other = some id → Outranks store.stem id other →
          Ordinary (m.tree.node? (.text other :: place))) →
        ((store.read id).run listing.answer ((store.update id count).run listing.answer m).2).1 =
          ((store.read id).run listing.answer m).1 := by
  obtain ⟨place, opens⟩ := updated_home plain granted
  have replaced := update_replaced plain opens (linkless place opens) (avoids place opens) granted
  exact ⟨place, opens, replaced_reads plain replaced listing, fun name some present own outranks ordinary =>
    replaced_stale plain replaced listing some present own outranks ordinary⟩

theorem read_after_update_unpadded :
    ((Store.read ⟨".", "f"⟩ 1).run (Listing.answer .plain)
      ((Store.update ⟨".", "f"⟩ 1 3).run (Listing.answer .plain) (lone "f1" "7")).2).1 = .ok 3 := by
  have plain : Stem "f" := by constructor <;> decide
  have opens := lone_opens "f1" "7"
  have nothing (name : String) (other : name ≠ "f1") : (lone "f1" "7").tree.node? [.text name] = none := by
    rw [lone_node, if_neg other]
  have temporary := nothing (temporaryName "f" 1) (by decide)
  have artifact := nothing (artifactName "f" 1) (by decide)
  have granted := lone_granted "f1" "7" (alike_refl _) 1 3 (by decide) (by decide) (by constructor <;> decide)
  have here (place : Location) (there : (lone "f1" "7").tree.Opens (lone "f1" "7").work (Store.home ⟨".", "f"⟩) place) :
      place = [] := Files.Tree.opens_unique opens there
  have linkless (place : Location) (there : (lone "f1" "7").tree.Opens (lone "f1" "7").work (Store.home ⟨".", "f"⟩) place) :
      Linkless ((lone "f1" "7").tree.node? (.text (temporaryName "f" 1) :: place)) := by
    rw [here place there, temporary]
    trivial
  have avoids (place : Location) (there : (lone "f1" "7").tree.Opens (lone "f1" "7").work (Store.home ⟨".", "f"⟩) place)
      (_ : (lone "f1" "7").tree.node? (.text (artifactName "f" 1) :: place) ≠ some .directory) :
      (lone "f1" "7").tree.Avoids (lone "f1" "7").work (Store.home ⟨".", "f"⟩) place (· = .text (artifactName "f" 1) :: place) := by
    rw [here place there]
    exact Files.Tree.avoids_blocked opens (artifact ▸ trivial)
  obtain ⟨place, there, reads, -⟩ := read_after_update plain linkless avoids granted
  refine reads (.inr fun name present _ => ?_)
  rw [here place there] at present
  by_cases same : name = "f1"
  · rw [same]
    decide
  · exact absurd (nothing name same) present

-- An artifact with six digits comes before the one with five, and what it holds is read instead of what was written.
theorem wide_padding_stays :
    ((Store.update ⟨".", "f"⟩ 1 3).run (Listing.answer .plain) (lone "f000001" (Numeral.word32 7))).1 = .ok () ∧
    ((Store.read ⟨".", "f"⟩ 1).run (Listing.answer .plain)
      ((Store.update ⟨".", "f"⟩ 1 3).run (Listing.answer .plain) (lone "f000001" (Numeral.word32 7))).2).1 = .ok 7 := by
  have plain : Stem "f" := by constructor <;> decide
  have opens : (lone "f000001" (Numeral.word32 7)).tree.Opens (lone "f000001" (Numeral.word32 7)).work
      (Store.home ⟨".", "f"⟩) [] := lone_opens "f000001" (Numeral.word32 7)
  have node := lone_node "f000001" (Numeral.word32 7)
  have wide : (lone "f000001" (Numeral.word32 7)).tree.node? [.text "f000001"] ≠ none := by simp [node]
  have temporary : (lone "f000001" (Numeral.word32 7)).tree.node? [.text (temporaryName "f" 1)] = none := by
    rw [node, if_neg (by decide)]
  have artifact : (lone "f000001" (Numeral.word32 7)).tree.node? [.text (artifactName "f" 1)] = none := by
    rw [node, if_neg (by decide)]
  have granted := lone_granted "f000001" (Numeral.word32 7) (alike_refl _) 1 3 (by decide) (by decide) (by constructor <;> decide)
  refine ⟨granted, ?_⟩
  have replaced := update_replaced plain opens (temporary ▸ trivial)
    (fun _ => Files.Tree.avoids_blocked opens (artifact ▸ trivial)) granted
  rw [replaced_stale plain replaced .plain (by decide) wide (by decide) (by decide)]
  · rw [lone_read _ _ _ (by decide) (by constructor <;> decide)]
    exact count_of_numeral _ 7
  · intro other own _
    rw [node]
    split
    · trivial
    · trivial

end Overseer.Counter
