import Overseer.Host.Machine
import Overseer.Proofs.Files.Standing

set_option autoImplicit false

namespace Overseer.Journal

open Host (Machine)

variable {path : String} {σ : Type}

structure Sheet where
  file : ByteArray
  printed : ByteArray

-- A machine on which a file and the printer are watched, as long as they are what a log can go to. A
-- refused extension leaves the file as it was; a refused print may have printed a part.
structure Paper (path : String) (σ : Type) where
  answer : (c : Host.Call) → σ → Host.Answer c × σ
  sheet : σ → Option Sheet
  timed : ∀ s p, sheet s = some p → sheet (answer .clock s).2 = some p
  opened : ∀ s p, sheet s = some p → sheet (answer (.openEnd path) s).2 = some p
  extended : ∀ s p bytes, sheet s = some p → (answer (.extend path bytes) s).1 = .ok () →
    sheet (answer (.extend path bytes) s).2 = some ⟨p.file ++ bytes, p.printed⟩
  unextended : ∀ s p bytes r, sheet s = some p → (answer (.extend path bytes) s).1 = .error r →
    sheet (answer (.extend path bytes) s).2 = some p
  printed : ∀ s p text, sheet s = some p → (answer (.print text) s).1 = .ok () →
    sheet (answer (.print text) s).2 = some ⟨p.file, p.printed ++ text.toUTF8⟩
  unprinted : ∀ s p text r, sheet s = some p → (answer (.print text) s).1 = .error r →
    ∃ part, sheet (answer (.print text) s).2 = some ⟨p.file, part⟩

def Paper.Prints (paper : Paper path σ) (console : Bool) : Prop :=
  console = true → ∀ text s, (paper.answer (.print text) s).1 = .ok ()

-- What stands under the path to be read and extended, unless it is a device. A path that leads nowhere has
-- an empty file.
def sheetOf (path : String) (m : Machine) : Option Sheet :=
  match m.tree.findForWriting m.work path with
  | .error _ => some ⟨.empty, m.printed⟩
  | .ok (.free _) => some ⟨.empty, m.printed⟩
  | .ok (.taken _ (.file content _)) => some ⟨content, m.printed⟩
  | .ok (.taken _ _) => none

theorem sheet_filled (path : String) (m : Machine) (place : Files.Location) (spot : Files.Spot)
    (found : m.tree.findForWriting m.work path = .ok spot) (fillable : m.tree.Fillable place spot) (content : ByteArray)
    (mode : Nat) :
    sheetOf path { m with tree := m.tree.put place (.file content mode) } = some ⟨content, m.printed⟩ := by
  unfold sheetOf
  rw [Files.Tree.writing_fillable spot found fillable content mode]

theorem sheet_opened (path : String) (m : Machine) (p : Sheet) (held : sheetOf path m = some p) :
    sheetOf path (m.settle (m.tree.openEnd m.work path)).2 = some p := by
  unfold Files.Tree.openEnd
  cases found : m.tree.findForWriting m.work path with
  | error r => exact held
  | ok spot =>
      cases spot with
      | taken place node => exact held
      | free place =>
          have filled := sheet_filled path m place _ found (Files.Tree.writing_free place found) .empty Files.Tree.newMode
          unfold sheetOf at held
          rw [found] at held
          exact filled.trans held

theorem sheet_extended (path : String) (m : Machine) (p : Sheet) (bytes : ByteArray) (held : sheetOf path m = some p)
    (granted : (m.settle (m.tree.extend m.work path bytes)).1 = .ok ()) :
    sheetOf path (m.settle (m.tree.extend m.work path bytes)).2 = some ⟨p.file ++ bytes, p.printed⟩ := by
  unfold sheetOf at held
  unfold Files.Tree.extend at granted ⊢
  cases found : m.tree.findForWriting m.work path with
  | error r =>
      rw [found] at granted
      cases granted
  | ok spot =>
      rw [found] at granted held
      cases spot with
      | free place => cases granted
      | taken place node =>
          cases node with
          | file content mode =>
              obtain rfl := Option.some.inj held
              exact sheet_filled path m place _ found (Files.Tree.writing_taken place (.file content mode) trivial found) _ mode
          | _ => cases held

theorem sheet_unextended (path : String) (m : Machine) (p : Sheet) (bytes : ByteArray) (r : Refusal)
    (held : sheetOf path m = some p) (refused : (m.settle (m.tree.extend m.work path bytes)).1 = .error r) :
    sheetOf path (m.settle (m.tree.extend m.work path bytes)).2 = some p := by
  cases ended : m.tree.extend m.work path bytes with
  | error cause => exact held
  | ok tree =>
      rw [ended] at refused
      cases refused

theorem sheet_printed (path : String) (m : Machine) (p : Sheet) (text : String) (held : sheetOf path m = some p) :
    sheetOf path { m with printed := m.printed ++ text.toUTF8 } = some ⟨p.file, p.printed ++ text.toUTF8⟩ := by
  unfold sheetOf at held ⊢
  dsimp only
  cases found : m.tree.findForWriting m.work path with
  | error r =>
      rw [found] at held
      obtain rfl := Option.some.inj held
      rfl
  | ok spot =>
      rw [found] at held
      cases spot with
      | free place =>
          obtain rfl := Option.some.inj held
          rfl
      | taken place node =>
          cases node with
          | file content mode =>
              obtain rfl := Option.some.inj held
              rfl
          | _ => cases held

def Paper.ofMachine (launch : Machine.Launcher) (path : String) : Paper path Machine where
  answer := Machine.answer launch
  sheet := sheetOf path
  timed _ _ held := held
  opened := sheet_opened path
  extended m p bytes := sheet_extended path m p bytes
  unextended m p bytes r := sheet_unextended path m p bytes r
  printed m p text held granted := by
    change (m.print text.toUTF8).1 = _ at granted
    change sheetOf path (m.print text.toUTF8).2 = _
    unfold Machine.print at granted ⊢
    split
    · next full =>
        rw [if_pos full] at granted
        cases granted
    · exact sheet_printed path m p text held
  unprinted m p text r held refused := by
    change (m.print text.toUTF8).1 = _ at refused
    change ∃ part, sheetOf path (m.print text.toUTF8).2 = _
    unfold Machine.print at refused ⊢
    split
    · exact ⟨p.printed, held⟩
    · next room =>
        rw [if_neg room] at refused
        cases refused

def Paper.plain (path : String) : Paper path Sheet where
  answer
    | .openEnd _, p => (.ok (), p)
    | .extend _ bytes, p => (.ok (), ⟨p.file ++ bytes, p.printed⟩)
    | .print text, p => (.ok (), ⟨p.file, p.printed ++ text.toUTF8⟩)
    | c, p => ((Machine.fresh.answer Machine.noPrograms c).1, p)
  sheet := some
  timed _ _ held := held
  opened _ _ held := held
  extended p q bytes held granted := by
    obtain rfl := Option.some.inj held
    rfl
  unextended p q bytes r held refused := by
    cases refused
  printed p q text held granted := by
    obtain rfl := Option.some.inj held
    rfl
  unprinted p q text r held refused := by
    cases refused

-- Openings are numbered, and a schedule says which of them are refused, whatever the file.
def Paper.hindered (paper : Paper path σ) (schedule : Nat → Option Refusal) : Paper path (σ × Nat) where
  answer
    | .openEnd p, s =>
      match schedule s.2 with
      | some r => (.error r, s.1, s.2 + 1)
      | none => ((paper.answer (.openEnd p) s.1).1, (paper.answer (.openEnd p) s.1).2, s.2 + 1)
    | c, s => ((paper.answer c s.1).1, (paper.answer c s.1).2, s.2)
  sheet s := paper.sheet s.1
  timed s := paper.timed s.1
  opened s p held := by
    dsimp only
    split
    · exact held
    · exact paper.opened s.1 p held
  extended s := paper.extended s.1
  unextended s := paper.unextended s.1
  printed s := paper.printed s.1
  unprinted s := paper.unprinted s.1

def Paper.clocked (paper : Paper path σ) (reading : Nat → Time.Instant) : Paper path (σ × Nat) where
  answer
    | .clock, s => (reading s.2, s.1, s.2 + 1)
    | c, s => ((paper.answer c s.1).1, (paper.answer c s.1).2, s.2)
  sheet s := paper.sheet s.1
  timed _ _ held := held
  opened s := paper.opened s.1
  extended s := paper.extended s.1
  unextended s := paper.unextended s.1
  printed s := paper.printed s.1
  unprinted s := paper.unprinted s.1

end Overseer.Journal
