import Overseer.Proofs.Counter.Lone
import Overseer.Proofs.Counter.Numbering
import Overseer.Proofs.Session.Origin

set_option autoImplicit false

namespace Overseer.Session

open Counter (Stem Store lone ordinal?)
open Host (Listing Machine)
open Program (Runs)

variable {c : Config} {sup : Supervisor} {listing : Listing} {m m' m'' : Machine} {id : UInt64}

theorem begun_numbers_rise {h : List Journal.Exchange} (built : Runs (Supervisor.assemble c) h (.ok sup))
    (unslashed : '/' ∉ c.storage.stem.toList) (named : c.storage.directory ≠ "")
    (allocated : sup.store.allocate.run listing.answer m = (.ok id, m'))
    (begun : (sup.store.begin id).run listing.answer m' = (.ok (), m'')) :
    ((∃ next, (sup.store.allocate.run listing.answer m'').1 = .ok next ∧ id < next) ∨
      (sup.store.allocate.run listing.answer m'').1 = .error (.noNumberAfter 18446744073709551615) ∧
        ∃ place name, m''.tree.Opens m''.work sup.store.directory place ∧ m''.tree.node? (.text name :: place) ≠ none ∧
          ordinal? sup.store.stem name = some 18446744073709551615) ∧
    ∀ counts, (sup.store.list.run listing.answer m'').1 = .ok counts → ∃ count, (id, count) ∈ counts := by
  obtain ⟨own, -, -, -⟩ := assemble_course c sup h built
  have some : sup.store.directory ≠ "" := own ▸ named
  have plain : Stem sup.store.stem := Counter.begin_stem (own ▸ unslashed) (congrArg Prod.fst begun)
  obtain ⟨place, bearing⟩ := Counter.begun_bearing plain some allocated begun
  refine ⟨?_, Counter.bearing_lists bearing listing⟩
  rcases Counter.bearing_allocates bearing listing with rises | ⟨full, name, present, top⟩
  · exact .inl rises
  · exact .inr ⟨full, place, name, bearing.opens, present, top⟩

def beside : Config := { Config.standard none with storage := ⟨".", "f"⟩ }

def besides : Supervisor := { standing with store := ⟨".", "f"⟩ }

theorem beside_built : Runs (Supervisor.assemble beside) [] (.ok besides) := .done _

theorem begun_numbers_rise_eighth :
    ∃ m' m'', besides.store.allocate.run (Listing.answer .plain) (lone "f00007" "2") = (.ok 8, m') ∧
      (besides.store.begin 8).run (Listing.answer .plain) m' = (.ok (), m'') ∧
      ∀ counts, (besides.store.list.run (Listing.answer .plain) m'').1 = .ok counts → ∃ count, (8, count) ∈ counts := by
  obtain ⟨m', alike, allocated⟩ := Counter.lone_allocated "f00007" "2" 8 7 (by decide) (by decide) (by decide)
  obtain ⟨m'', begun⟩ := Counter.lone_begun "f00007" "2" alike 8 (by decide) (by decide) (by constructor <;> decide)
  exact ⟨m', m'', allocated, begun, (begun_numbers_rise beside_built (by decide) (by decide) allocated begun).2⟩

theorem highest_number_ends :
    ∃ m' m'', Runs (Supervisor.assemble beside) [] (.ok besides) ∧
      besides.store.allocate.run (Listing.answer .plain) (lone "f18446744073709551614" "2") = (.ok 18446744073709551615, m') ∧
      (besides.store.begin 18446744073709551615).run (Listing.answer .plain) m' = (.ok (), m'') ∧
      (besides.store.allocate.run (Listing.answer .plain) m'').1 = .error (.noNumberAfter 18446744073709551615) := by
  obtain ⟨m', alike, allocated⟩ := Counter.lone_allocated "f18446744073709551614" "2" 18446744073709551615
    18446744073709551614 (by decide) (by decide) (by decide)
  obtain ⟨m'', begun⟩ := Counter.lone_begun "f18446744073709551614" "2" alike 18446744073709551615 (by decide) (by decide)
    (by constructor <;> decide)
  refine ⟨m', m'', beside_built, allocated, begun, ?_⟩
  have plain : Stem "f" := by constructor <;> decide
  obtain ⟨place, bearing⟩ := Counter.begun_bearing plain (by decide) allocated begun
  rcases Counter.bearing_allocates bearing .plain with ⟨other, -, above⟩ | ⟨full, -⟩
  · have bound := other.toNat_lt
    have least := UInt64.lt_iff_toNat_lt.mp above
    exact absurd (Nat.lt_of_le_of_lt least bound) (by decide)
  · exact full

end Overseer.Session
