import Overseer.Proofs.Counter.Answers

set_option autoImplicit false

namespace Overseer.Counter

open Files (Name)
open Host (Listing Machine)
open Text (Numeral.word32)

def lone (name text : String) : Machine := { Machine.fresh with tree := ⟨[([.text name], .file (Files.textBytes text) Files.Tree.newMode)]⟩ }

theorem lone_opens (name text : String) : (lone name text).tree.Opens (lone name text).work "." [] := Files.Tree.opens_here _ _

theorem lone_node (name text other : String) : (lone name text).tree.node? [.text other] =
    if other = name then some (.file (Files.textBytes text) Files.Tree.newMode) else none := by
  rw [Files.Tree.node?, if_neg (List.cons_ne_nil _ _)]
  by_cases same : other = name
  · rw [if_pos same, same]
    exact List.lookup_cons_self
  · rw [if_neg same]
    exact Files.Tree.lookup_other [] _ _ _ (by simpa using same)

theorem lone_stands {stem : String} (name text : String) : Stands ⟨".", stem⟩ (lone name text) [] (lone name text).tree.node? :=
  ⟨lone_opens name text, by simp [lone, Files.Tree.names, Files.Tree.nameIn], fun q _ => by rw [List.append_nil]⟩

theorem lone_updated {stem : String} {m : Machine} (plain : Stem stem) (name text : String) (alike : Alike (lone name text) m)
    (id : UInt64) (count : UInt32) (artifact : artifactName stem id ≠ name) (temporary : temporaryName stem id ≠ name)
    (fits : Files.Fits "." (temporaryName stem id)) :
    ((Store.update ⟨".", stem⟩ id count).run (Listing.answer .plain) m).1 = .ok () := by
  have stands : Stands ⟨".", stem⟩ m [] _ := stands_alike alike (lone_stands name text)
  have artifact : (lone name text).tree.node? [.text (artifactName stem id)] = none := by rw [lone_node, if_neg artifact]
  have temporary : (lone name text).tree.node? [.text (temporaryName stem id)] = none := by rw [lone_node, if_neg temporary]
  exact ready_update .plain plain stands (artifact ▸ trivial) (temporary ▸ trivial) (by simp [artifact]) (by simp [temporary])
    fits count

theorem lone_granted {m : Machine} (name text : String) (alike : Alike (lone name text) m) (id : UInt64) (count : UInt32)
    (artifact : artifactName "f" id ≠ name) (temporary : temporaryName "f" id ≠ name)
    (fits : Files.Fits "." (temporaryName "f" id)) :
    ((Store.update ⟨".", "f"⟩ id count).run (Listing.answer .plain) m).1 = .ok () :=
  lone_updated (by constructor <;> decide) name text alike id count artifact temporary fits

theorem lone_shows {stem : String} (name text : String) :
    Store.shows ⟨".", stem⟩ .plain (lone name text) = .ok (sorted stem [.text name]) := by
  have names : (lone name text).tree.names [] = [.text name] := by simp [lone, Files.Tree.names, Files.Tree.nameIn]
  unfold Store.shows
  rw [Files.Tree.list_opens (lone_opens name text), names]
  rfl

theorem lone_count (store : Store) (here : store.home = ".") (name : String) (count : UInt32) (fits : Files.Fits "." name)
    (proper : Files.Proper name) :
    countAt (lone name (Numeral.word32 count)) (Files.Path.join store.directory name) = .ok count := by
  have opens := lone_opens name (Numeral.word32 count)
  have file := lone_node name (Numeral.word32 count) name
  rw [← here] at opens fits
  rw [if_pos rfl] at file
  exact (count_entry opens proper fits _ _ file).trans (count_of_numeral _ count)

theorem lone_allocated (name text : String) (id last : UInt64) (own : ordinal? "f" name = some last)
    (room : last.toNat + 1 < UInt64.size) (next : last.toNat + 1 = id.toNat) :
    ∃ m, Alike (lone name text) m ∧ (Store.allocate ⟨".", "f"⟩).run (Listing.answer .plain) (lone name text) = (.ok id, m) := by
  have top : Highest "f" (fun other => Name.text other ∈ [Name.text name]) last.toNat := by
    constructor
    · intro other number present numbered
      obtain rfl : other = name := by simpa using present
      rw [own] at numbered
      exact Nat.le_of_eq (congrArg UInt64.toNat (Option.some.inj numbered).symm)
    · exact .inr ⟨name, last, by simp, own, rfl⟩
  have numbered := next_id "f" _ _ top
  rw [if_pos room, next, UInt64.ofNat_toNat] at numbered
  have made : (lone name text).tree.makePath (lone name text).work (Store.directory ⟨".", "f"⟩) = .ok (lone name text).tree :=
    Files.Tree.make_opens (lone_opens name text)
  obtain ⟨m, alike, told⟩ := allocate_there .plain made
  rw [lone_shows] at told
  exact ⟨m, alike, told.trans (congrArg (·, m) numbered)⟩

theorem lone_begun {m : Machine} (name text : String) (alike : Alike (lone name text) m) (id : UInt64)
    (artifact : artifactName "f" id ≠ name) (temporary : temporaryName "f" id ≠ name)
    (fits : Files.Fits "." (temporaryName "f" id)) :
    ∃ m', (Store.begin ⟨".", "f"⟩ id).run (Listing.answer .plain) m = (.ok (), m') := by
  obtain ⟨m₁, again, same⟩ := begin_run ⟨".", "f"⟩ .plain id m
  have granted := lone_granted name text (alike_trans alike again) id 0 artifact temporary fits
  refine ⟨((Store.update ⟨".", "f"⟩ id 0).run (Listing.answer .plain) m₁).2, ?_⟩
  rw [same, ← granted]

def crossed (name target : String) (bytes : ByteArray) : Files.Tree :=
  ⟨[([.text target], .file bytes Files.Tree.newMode), ([.text name], .link target)]⟩

section Crossed

variable {name target : String} (bytes : ByteArray) (different : name ≠ target)

theorem crossed_file : (crossed name target bytes).node? [.text target] = some (.file bytes Files.Tree.newMode) := by
  simp [crossed, Files.Tree.node?]

include different

theorem crossed_link : (crossed name target bytes).node? [.text name] = some (.link target) := by
  rw [Files.Tree.node?, if_neg (List.cons_ne_nil _ _), crossed, Files.Tree.lookup_other _ _ _ _ (by simpa using different)]
  exact List.lookup_cons_self

omit different in
theorem crossed_nothing {other : String} (notTarget : other ≠ target) (notName : other ≠ name) :
    (crossed name target bytes).node? [.text other] = none := by
  rw [Files.Tree.node?, if_neg (List.cons_ne_nil _ _), crossed, Files.Tree.lookup_other _ _ _ _ (by simpa using notTarget),
    Files.Tree.lookup_other _ _ _ _ (by simpa using notName)]
  rfl

theorem crossed_put (more : ByteArray) :
    (crossed name target bytes).put [.text target] (.file more Files.Tree.newMode) = crossed name target more := by
  simp [crossed, Files.Tree.put, Files.Tree.erase, different]

variable (proper : Files.Proper name) (properTarget : Files.Proper target) (fits : Files.Fits "." name)
  (short : (Name.text target).isTooLong = false)

include proper properTarget fits short

theorem crossed_found : (crossed name target bytes).findForWriting [] (Files.Path.join "." name) =
    .ok (.taken [.text target] (.file bytes Files.Tree.newMode)) := by
  have here : Files.Path.ofText "." = .ok ⟨false, [.here], false⟩ :=
    (Files.parsed_text _ _).mpr ⟨by decide, by decide, by decide, by decide⟩
  have parsed := Files.parsed_join "." name proper _ here
  rw [if_neg (Nat.not_le.mpr fits.1)] at parsed
  have small : ¬Files.Path.limit ≤ target.utf8ByteSize := by
    have bytes : (Name.text target).bytes.length = target.utf8ByteSize := by simp [Name.bytes]
    have bounded := of_decide_eq_false short
    simp only [Files.Path.limit]
    omega
  have parsedTarget := Files.Tree.parsed_bare properTarget
  rw [if_neg small] at parsedTarget
  simp [Files.Tree.findForWriting, parsed, Files.Tree.locate, Files.Tree.walk, fits.2, crossed_link bytes different,
    Files.Tree.linkLimit, parsedTarget, short, crossed_file bytes]

theorem crossed_create : (crossed name target bytes).create [] (Files.Path.join "." name) = .ok (crossed name target .empty) := by
  unfold Files.Tree.create
  rw [crossed_found bytes different proper properTarget fits short]
  exact congrArg Except.ok (crossed_put bytes different _)

theorem crossed_extend (more : ByteArray) :
    (crossed name target bytes).extend [] (Files.Path.join "." name) more = .ok (crossed name target (bytes ++ more)) := by
  unfold Files.Tree.extend
  rw [crossed_found bytes different proper properTarget fits short]
  exact congrArg Except.ok (crossed_put bytes different _)

theorem crossed_sync : (crossed name target bytes).sync [] (Files.Path.join "." name) = .ok (crossed name target bytes) := by
  unfold Files.Tree.sync
  rw [crossed_found bytes different proper properTarget fits short]

end Crossed

end Overseer.Counter
