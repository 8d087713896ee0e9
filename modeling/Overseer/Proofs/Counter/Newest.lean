import Overseer.Proofs.Counter.Maximum
import Overseer.Proofs.Counter.Padding
import Overseer.Proofs.Text.Encoding

set_option autoImplicit false

namespace Overseer.Counter

open Files (Location Name Tree)
open Host (Listing Machine)
open Text (Numeral.digits Numeral.padded)

variable {stem name : String} {t : Tree} {place : Location} {numbers : Set Nat}

-- The numbers all fit in the padding, or all have as many digits.
def Level (numbers : Set Nat) : Prop :=
  (∀ n ∈ numbers, (Numeral.digits n).length ≤ ordinalWidth) ∨
    ∃ width, ∀ n ∈ numbers, (Numeral.digits n).length = width

theorem level_length (level : Level numbers) {a b : Nat} (one : a ∈ numbers) (other : b ∈ numbers) :
    (Numeral.padded ordinalWidth a).length = (Numeral.padded ordinalWidth b).length := by
  rw [Text.Numeral.length_padded, Text.Numeral.length_padded]
  rcases level with short | ⟨width, same⟩
  · rw [Nat.max_eq_left (short a one), Nat.max_eq_left (short b other)]
  · rw [same a one, same b other]

theorem artifact_order (stem : String) {a b : UInt64} (level : Level numbers) (one : a.toNat ∈ numbers)
    (other : b.toNat ∈ numbers) : artifactName stem a < artifactName stem b ↔ a < b := by
  have padded (n : Nat) := Text.Numeral.padded_digit ordinalWidth n
  rw [String.lt_iff, artifact_text, artifact_text, append_lt,
    Text.Numeral.numeral_order _ _ (padded _) (padded _) (level_length level one other), Text.Numeral.value_padded,
    Text.Numeral.value_padded, UInt64.lt_iff_toNat_lt]

-- With a sixth digit the order is lost.
example : artifactName "f" 100000 < artifactName "f" 99999 := by decide

theorem artifact_order_le (stem : String) {a b : UInt64} (level : Level numbers) (one : a.toNat ∈ numbers)
    (other : b.toNat ∈ numbers) : artifactName stem a ≤ artifactName stem b ↔ a ≤ b := by
  rw [← String.not_lt, artifact_order stem level other one, UInt64.not_lt]

def artifactNames (stem : String) (t : Tree) (place : Location) : Set String :=
  {name | t.node? (.text name :: place) ≠ none ∧ ordinal? stem name ≠ none}

def OwnNamed (stem : String) (t : Tree) (place : Location) : Prop :=
  ∀ name id, t.node? (.text name :: place) ≠ none → ordinal? stem name = some id → name = artifactName stem id

def ordinals (stem : String) (t : Tree) (place : Location) : Set Nat := {n | Taken stem t place n}

section OwnNamed

variable (named : OwnNamed stem t place)

include named

theorem mem_artifact_names : name ∈ artifactNames stem t place ↔
    ∃ id : UInt64, name = artifactName stem id ∧ id.toNat ∈ ordinals stem t place := by
  constructor
  · rintro ⟨present, numbered⟩
    obtain ⟨id, own⟩ := Option.ne_none_iff_exists'.mp numbered
    exact ⟨id, named name id present own, (taken_ordinal stem t place id).mpr ⟨name, present, own⟩⟩
  · rintro ⟨id, rfl, taken⟩
    obtain ⟨name, present, own⟩ := (taken_ordinal stem t place id).mp taken
    rw [named name id present own] at present
    refine ⟨present, ?_⟩
    rw [ordinal_artifact]
    nofun

variable (level : Level (ordinals stem t place))

include level

theorem last_highest_name (id : UInt64) :
    IsGreatest (artifactNames stem t place) (artifactName stem id) ↔ IsGreatest (ordinals stem t place) id.toNat := by
  have own (id : UInt64) : artifactName stem id ∈ artifactNames stem t place ↔ id.toNat ∈ ordinals stem t place := by
    rw [mem_artifact_names named]
    constructor
    · rintro ⟨other, same, taken⟩
      rwa [artifact_injective stem id other same]
    · exact fun taken => ⟨id, rfl, taken⟩
  constructor
  · rintro ⟨member, last⟩
    have highest := (own id).mp member
    refine ⟨highest, fun n taken => ?_⟩
    have word := taken_word taken
    have further := last ((own (UInt64.ofNat n)).mpr (word.symm ▸ taken))
    rw [artifact_order_le stem level (word.symm ▸ taken) highest, UInt64.le_iff_toNat_le, word] at further
    exact further
  · rintro ⟨taken, highest⟩
    refine ⟨(own id).mpr taken, fun name member => ?_⟩
    obtain ⟨other, rfl, below⟩ := (mem_artifact_names named).mp member
    exact (artifact_order_le stem level below taken).mpr (UInt64.le_iff_toNat_le.mpr (highest below))

theorem last_name_exists (some : (artifactNames stem t place).Nonempty) :
    ∃ last, IsGreatest (artifactNames stem t place) last := by
  obtain ⟨name, member⟩ := some
  obtain ⟨id, -, taken⟩ := (mem_artifact_names named).mp member
  rcases greatest_taken stem t place with untaken | ⟨top, greatest⟩
  · exact absurd taken (untaken id.toNat)
  · have word := taken_word greatest.1
    exact ⟨_, (last_highest_name named level (UInt64.ofNat top)).mpr (word.symm ▸ greatest)⟩

end OwnNamed

-- Names stand in the order of their bytes. Those of artifacts stand in that of their numbers where these are level,
-- and then the last name in the directory tells the next number.
theorem last_name_is_newest :
    (∀ s t : String, s < t ↔ (Name.text s).bytes < (Name.text t).bytes) ∧
    (∀ (stem : String) (a b : UInt64), Level {a.toNat, b.toNat} → a < b → artifactName stem a < artifactName stem b) ∧
    ∀ (store : Store) (m : Machine) (place : Location), m.tree.Opens m.work store.directory place →
      OwnNamed store.stem m.tree place → Level (ordinals store.stem m.tree place) →
      ((artifactNames store.stem m.tree place).Nonempty → ∃ last, IsGreatest (artifactNames store.stem m.tree place) last) ∧
      ∀ last, IsGreatest (artifactNames store.stem m.tree place) last →
        ∃ id : UInt64, last = artifactName store.stem id ∧ IsGreatest (ordinals store.stem m.tree place) id.toNat ∧
          ∀ listing : Listing, (store.allocate.run listing.answer m).1 = following id.toNat := by
  refine ⟨fun s t => (Text.name_order s t).symm, ?_, ?_⟩
  · intro stem a b level less
    exact (artifact_order stem level (Set.mem_insert _ _) (Set.mem_insert_of_mem _ rfl)).mpr less
  · intro store m place opens named level
    refine ⟨last_name_exists named level, fun last greatest => ?_⟩
    obtain ⟨id, rfl, -⟩ := (mem_artifact_names named).mp greatest.1
    have highest := (last_highest_name named level id).mp greatest
    refine ⟨id, rfl, highest, fun listing => ?_⟩
    rw [allocate_names listing (Files.Tree.make_opens opens) opens]
    exact next_greatest highest

def ninthAndTenth : Machine :=
  { lone "f00009" "0" with
    tree := (lone "f00009" "0").tree.put [.text "f00010"] (.file (Files.textBytes "0") Files.Tree.newMode) }

theorem ninth_and_tenth (name : String) :
    ninthAndTenth.tree.node? [.text name] ≠ none ↔ name = "f00010" ∨ name = "f00009" := by
  change (Files.Tree.put _ _ _).node? _ ≠ none ↔ _
  rw [Files.Tree.node_put, lone_node]
  by_cases tenth : name = "f00010"
  · simp [tenth]
  · simp [tenth]

theorem last_name_is_newest_tenth :
    IsGreatest (artifactNames "f" ninthAndTenth.tree []) "f00010" ∧
      ∀ listing : Listing, ((Store.allocate ⟨".", "f"⟩).run listing.answer ninthAndTenth).1 = .ok 11 := by
  have numbered (name : String) (id : UInt64) (present : ninthAndTenth.tree.node? [.text name] ≠ none)
      (own : ordinal? "f" name = some id) : name = "f00010" ∧ id = 10 ∨ name = "f00009" ∧ id = 9 := by
    rcases (ninth_and_tenth name).mp present with rfl | rfl
    · exact .inl ⟨rfl, Option.some.inj (own.symm.trans (by decide))⟩
    · exact .inr ⟨rfl, Option.some.inj (own.symm.trans (by decide))⟩
  have named : OwnNamed "f" ninthAndTenth.tree [] := by
    intro name id present own
    rcases numbered name id present own with ⟨rfl, rfl⟩ | ⟨rfl, rfl⟩
    · decide
    · decide
  have level : Level (ordinals "f" ninthAndTenth.tree []) := by
    refine .inl fun n taken => ?_
    have word := taken_word taken
    obtain ⟨name, present, own⟩ := (taken_ordinal "f" _ [] _).mp (word.symm ▸ taken)
    rw [← word]
    rcases numbered name _ present own with ⟨-, ten⟩ | ⟨-, nine⟩
    · rw [ten]
      decide
    · rw [nine]
      decide
  have greatest : IsGreatest (artifactNames "f" ninthAndTenth.tree []) "f00010" := by
    refine ⟨⟨(ninth_and_tenth _).mpr (.inl rfl), by decide⟩, fun name member => ?_⟩
    rcases (ninth_and_tenth name).mp member.1 with rfl | rfl
    · exact String.le_refl _
    · decide
  have opens : ninthAndTenth.tree.Opens ninthAndTenth.work (Store.directory ⟨".", "f"⟩) [] := Files.Tree.opens_here _ _
  obtain ⟨-, -, newest⟩ := last_name_is_newest
  obtain ⟨id, same, -, next⟩ := (newest ⟨".", "f"⟩ ninthAndTenth [] opens named level).2 "f00010" greatest
  obtain rfl : 10 = id := artifact_injective "f" 10 id ((by decide : artifactName "f" 10 = "f00010").trans same)
  exact ⟨greatest, next⟩

end Overseer.Counter
