import Mathlib.Data.List.Count
import Mathlib.Data.List.Nodup
import Mathlib.Data.List.ProdSigma
import Overseer.Proofs.Session.Turns

set_option autoImplicit false

namespace Overseer.Session

open Program (Runs)

def retry : Move := (.running, .retrying)

def lap : List Move := [retry, (.retrying, .running)]

-- The start, and then so many failed attempts after each of which another one is made.
def laps (count : Nat) : List Move := (.init, .running) :: (List.replicate count lap).flatten

-- The transitions of a whole run that is neither stopped nor refused anything.
inductive Word (limit : Nat) : List Move → Prop where
  | succeeds (count : Nat) (below : count < limit) : Word limit (laps count ++ [(.running, .succeeded)])
  | exhausts (count : Nat) (full : count + 1 = limit) :
      Word limit (laps count ++ [retry, (.retrying, .exhausted)])

inductive Standing (limit : Nat) : Phase → Nat → List Move → Prop where
  | init : Standing limit .init 0 []
  | running (count : Nat) (below : count < limit) : Standing limit .running count (laps count)
  | retrying (count : Nat) (below : count < limit) : Standing limit .retrying count (laps count ++ [retry])
  | succeeded (count : Nat) (below : count < limit) :
      Standing limit .succeeded count (laps count ++ [(.running, .succeeded)])
  | exhausted (count : Nat) (full : count + 1 = limit) :
      Standing limit .exhausted (count + 1) (laps count ++ [retry, (.retrying, .exhausted)])

def whither (path : List Move) : Phase := (path.getLast?.map Prod.snd).getD .init

theorem laps_succ (count : Nat) : laps (count + 1) = laps count ++ lap := by
  simp [laps, List.replicate_succ']

theorem laps_length (count : Nat) : (laps count).length = 2 * count + 1 := by
  induction count with
  | zero => rfl
  | succ count ih =>
      rw [laps_succ, List.length_append, ih]
      rfl

theorem laps_count (count : Nat) : (laps count).count retry = count := by
  induction count with
  | zero => rfl
  | succ count ih =>
      rw [laps_succ, List.count_append, ih]
      rfl

theorem laps_whither (count : Nat) : whither (laps count) = .running := by
  cases count with
  | zero => rfl
  | succ count =>
      rw [laps_succ, whither, lap, List.getLast?_append]
      rfl

theorem word_length {limit : Nat} {word : List Move} (spelled : Word limit word) : word.length ≤ 2 * limit + 1 := by
  cases spelled with
  | succeeds count below =>
      rw [List.length_append, laps_length, List.length_singleton]
      omega
  | exhausts count full =>
      rw [List.length_append, laps_length, List.length_cons, List.length_singleton]
      omega

theorem standing_word {limit k : Nat} {p : Phase} {path : List Move} (some : 0 < limit)
    (standing : Standing limit p k path) : ∃ word, Word limit word ∧ path <+: word := by
  cases standing with
  | init => exact ⟨_, .succeeds 0 some, List.nil_prefix⟩
  | running _ below => exact ⟨_, .succeeds k below, List.prefix_append _ _⟩
  | retrying _ below =>
      by_cases full : k + 1 = limit
      · exact ⟨_, .exhausts k full, [(.retrying, .exhausted)], List.append_assoc _ _ _⟩
      · refine ⟨_, .succeeds (k + 1) (by omega), (.retrying, .running) :: [(.running, .succeeded)], ?_⟩
        rw [laps_succ, lap, List.append_assoc, List.append_assoc]
        rfl
  | succeeded _ below => exact ⟨_, .succeeds k below, List.prefix_rfl⟩
  | exhausted count full => exact ⟨_, .exhausts count full, List.prefix_rfl⟩

theorem standing_whither {limit k : Nat} {p : Phase} {path : List Move} (standing : Standing limit p k path) :
    whither path = p := by
  cases standing with
  | init => rfl
  | running _ below => exact laps_whither k
  | retrying _ below => rw [whither, List.getLast?_append]; rfl
  | succeeded _ below => rw [whither, List.getLast?_append]; rfl
  | exhausted count full => rw [whither, List.getLast?_append]; rfl

-- The failure that a turn in `retrying` is about to count has been recorded as a transition already.
def told : Phase → Nat → Nat
  | .retrying, k => k + 1
  | _, k => k

theorem standing_count {limit k : Nat} {p : Phase} {path : List Move} (standing : Standing limit p k path) :
    path.count retry = told p k := by
  cases standing with
  | init => rfl
  | running _ below => exact laps_count k
  | retrying _ below => rw [List.count_append, laps_count]; rfl
  | succeeded _ below => rw [List.count_append, laps_count]; rfl
  | exhausted count full => rw [List.count_append, laps_count]; rfl

theorem standing_told {limit k : Nat} {p : Phase} {path : List Move} (standing : Standing limit p k path) :
    told p k ≤ limit := by
  cases standing with
  | init => exact Nat.zero_le _
  | running _ below => exact Nat.le_of_lt below
  | retrying _ below => exact below
  | succeeded _ below => exact Nat.le_of_lt below
  | exhausted count full => exact Nat.le_of_eq full

theorem phase_listed (p : Phase) : p ∈ Phase.all := by
  cases p <;> simp [Phase.all]

theorem passages_differ :
    ((Phase.all.product Phase.all).map fun m : Move => m.1.label ++ " -> " ++ m.2.label).Nodup := by
  decide +kernel

theorem sentence_injective (id : UInt64) : Function.Injective (sentence id) := by
  intro m n same
  have passage : m.1.label ++ " -> " ++ m.2.label = n.1.label ++ " -> " ++ n.2.label := by
    simpa only [sentence, String.append_assoc, String.append_right_inj] using same
  have listed (m : Move) : m ∈ Phase.all.product Phase.all :=
    List.pair_mem_product.mpr ⟨phase_listed m.1, phase_listed m.2⟩
  exact List.inj_on_of_nodup_map passages_differ (listed m) (listed n) passage

def Outcome.phase : Outcome → Phase
  | succeeded => .succeeded
  | exhausted => .exhausted
  | cancelled => .running

theorem limit_positive (ceiling : UInt32) : 0 < limit ceiling :=
  Nat.lt_of_lt_of_le Nat.zero_lt_one (Nat.le_max_right _ _)

theorem room_of_below (s : Session) (below : s.failures.toNat < limit s.ceiling) : s.HasRoom := by
  by_cases zero : s.failures = 0
  · exact .inl zero
  · have some : s.failures.toNat ≠ 0 := fun none => zero (UInt32.toNat_inj.mp none)
    refine .inr ((can_retry_iff s).mpr ?_)
    unfold limit at below
    omega

theorem turned_standing {s s' : Session} {p p' : Phase} {path : List Move} (turned : Turned s p s' (.next p'))
    (standing : Standing (limit s.ceiling) p s.failures.toNat path) :
    Standing (limit s.ceiling) p' s'.failures.toNat (path ++ [(p, p')]) := by
  generalize count : s.failures.toNat = k at standing
  cases turned with
  | started id =>
      cases standing with
      | init =>
          change Standing _ _ s.failures.toNat _
          rw [count]
          exact .running 0 (limit_positive s.ceiling)
  | passed =>
      cases standing with
      | running _ below =>
          rw [count]
          exact .succeeded k below
  | failed =>
      cases standing with
      | running _ below =>
          rw [count]
          exact .retrying k below
  | again more =>
      cases standing with
      | retrying _ below =>
          have grows := failures_failed (room_of_below s (count ▸ below))
          have path : laps k ++ [retry] ++ [(.retrying, .running)] = laps (k + 1) := by
            rw [laps_succ, List.append_assoc]
            rfl
          have next : k + 1 < s.ceiling.toNat := by
            rw [← count, ← grows]
            exact (can_retry_iff s.failed).mp more
          rw [path, grows, count]
          exact .running (k + 1) (Nat.lt_of_lt_of_le next (Nat.le_max_left _ _))
  | full full =>
      cases standing with
      | retrying _ below =>
          have room := room_of_below s (count ▸ below)
          rw [List.append_assoc, failures_failed room, count]
          exact .exhausted k (count ▸ full_at_limit s room full)

theorem turned_over {s s' : Session} {p : Phase} {outcome : Except Fault Outcome} {path : List Move}
    (turned : Turned s p s' (.last outcome)) (standing : Standing (limit s.ceiling) p s.failures.toNat path) :
    s'.failures.toNat = told p s.failures.toNat ∧ ∀ o, outcome = .ok o → p = o.phase := by
  generalize count : s.failures.toNat = k at standing
  cases turned with
  | unallocated f => exact ⟨count, by rintro o ⟨⟩⟩
  | unstarted id f => exact ⟨count, by rintro o ⟨⟩⟩
  | stopped => exact ⟨count, by rintro o ⟨⟩; rfl⟩
  | broken f => exact ⟨count, by rintro o ⟨⟩⟩
  | unrecorded f =>
      cases standing with
      | retrying _ below =>
          refine ⟨?_, by rintro o ⟨⟩⟩
          rw [failures_failed (room_of_below s (count ▸ below)), count]
          rfl
  | succeeded => exact ⟨count, by rintro o ⟨⟩; rfl⟩
  | unescalated f => exact ⟨count, by rintro o ⟨⟩⟩
  | escalated => exact ⟨count, by rintro o ⟨⟩; rfl⟩

theorem turned_same {s s' : Session} {p : Phase} {t : Turn} (turned : Turned s p s' t) :
    s'.ceiling = s.ceiling ∧ (p = .init ∨ s'.id = s.id) := by
  cases turned with
  | unallocated f => exact ⟨rfl, .inl rfl⟩
  | unstarted id f => exact ⟨rfl, .inl rfl⟩
  | started id => exact ⟨rfl, .inl rfl⟩
  | _ => exact ⟨rfl, .inr rfl⟩

inductive Arrived (limit : Nat) (path : List Move) (s : Session) : Turn → Prop where
  | next (p : Phase) (standing : Standing limit p s.failures.toNat path) : Arrived limit path s (.next p)
  | last (outcome : Except Fault Outcome) (p : Phase) (k : Nat) (standing : Standing limit p k path)
      (counted : s.failures.toNat = told p k) (ends : ∀ o, outcome = .ok o → p = o.phase) :
      Arrived limit path s (.last outcome)

theorem loop_arrived (turns : Nat) (s s' : Session) (p : Phase) (t : Turn) (path : List Move) (h : History)
    (standing : Standing (limit s.ceiling) p s.failures.toNat path) (run : Runs (loop turns s p) h (s', t)) :
    ∃ more, transitions h = more.map (sentence s'.id) ∧ (s'.ceiling = s.ceiling ∧ (p = .init ∨ s'.id = s.id)) ∧
      (∀ p', t = .next p' → more.length = turns) ∧ Arrived (limit s.ceiling) (path ++ more) s' t := by
  induction turns generalizing s p path h with
  | zero =>
      obtain ⟨rfl, rfl, rfl⟩ := runs_turn run
      refine ⟨[], rfl, ⟨rfl, .inr rfl⟩, fun _ _ => rfl, ?_⟩
      rw [List.append_nil]
      exact .next p standing
  | succ turns ih =>
      obtain ⟨first, ⟨s₁, t₁⟩, rest, rfl, turning, going⟩ := Program.runs_bind run
      obtain ⟨turned, silent⟩ := turn_course turning
      have same := turned_same turned
      cases t₁ with
      | last outcome =>
          obtain ⟨rfl, rfl, rfl⟩ := runs_turn going
          obtain ⟨counted, ends⟩ := turned_over turned standing
          refine ⟨[], ?_, same, by rintro p' ⟨⟩, ?_⟩
          · rw [List.append_nil, silent]
            rfl
          · rw [List.append_nil]
            exact .last outcome p _ standing counted ends
      | next p₁ =>
          obtain ⟨noted, later, rfl, looping⟩ := Program.runs_call_bind going
          have arrives := turned_standing turned standing
          rw [← same.1] at arrives
          obtain ⟨more, texts, ⟨ceiling, kept⟩, length, arrived⟩ := ih s₁ p₁ (path ++ [(p, p₁)]) later arrives looping
          -- Only a turn in `init` gives the session another number, and none leads back there.
          have named : s'.id = s₁.id := by
            rcases kept with rfl | kept
            · cases turned
            · exact kept
          refine ⟨(p, p₁) :: more, ?_, ?_, ?_, ?_⟩
          · rw [transitions_append, silent, List.map_cons, ← texts, named]
            rfl
          · rw [named]
            exact ⟨ceiling.trans same.1, same.2⟩
          · intro p' last
            rw [List.length_cons, length p' last]
          · rw [← same.1]
            simpa only [List.append_assoc, List.singleton_append] using arrived

-- A run between two turns. In `retrying` the failure that the next turn counts is recorded as a transition
-- already, and counting it stays within the limit and within the word.
structure Underway (limit turns : Nat) (path : List Move) (texts : List String) (s : Session) (p : Phase) : Prop where
  length : path.length = turns
  phase : whither path = p
  counted : p ≠ .retrying → texts.count (sentence s.id retry) = s.failures.toNat
  counting : p = .retrying → s.failed.failures.toNat = s.failures.toNat + 1 ∧ s.failed.failures.toNat ≤ limit ∧
    texts.count (sentence s.id retry) = s.failed.failures.toNat

structure Over (path : List Move) (texts : List String) (s : Session) (outcome : Except Fault Outcome) : Prop where
  counted : texts.count (sentence s.id retry) = s.failures.toNat
  phase : ∀ o, outcome = .ok o → whither path = o.phase

theorem retries_told (path : List Move) (id : UInt64) :
    (path.map (sentence id)).count (sentence id retry) = path.count retry :=
  List.count_map_of_injective path (sentence id) (sentence_injective id) retry

theorem standing_underway {s : Session} {p : Phase} {path : List Move}
    (standing : Standing (limit s.ceiling) p s.failures.toNat path) :
    Underway (limit s.ceiling) path.length path (path.map (sentence s.id)) s p := by
  have count := (retries_told path s.id).trans (standing_count standing)
  refine ⟨rfl, standing_whither standing, ?_, ?_⟩
  · intro outside
    cases p with
    | retrying => exact absurd rfl outside
    | _ => exact count
  · rintro rfl
    have within : s.failures.toNat < limit s.ceiling := standing_told standing
    have grows := failures_failed (room_of_below s within)
    exact ⟨grows, grows ▸ within, count.trans grows.symm⟩

theorem told_above (p : Phase) (k : Nat) : k ≤ told p k := by
  cases p with
  | retrying => exact Nat.le_succ k
  | _ => exact Nat.le_refl k

structure Travelled (limit turns : Nat) (h : History) (s : Session) (t : Turn) (path : List Move) : Prop where
  texts : transitions h = path.map (sentence s.id)
  begins : ∃ word, Word limit word ∧ path <+: word
  short : path.length ≤ 2 * limit + 1
  within : s.failures.toNat ≤ limit
  stands : match t with
    | .next p => Underway limit turns path (transitions h) s p
    | .last outcome => Over path (transitions h) s outcome

theorem standing_short {limit k : Nat} {p : Phase} {path : List Move} (some : 0 < limit)
    (standing : Standing limit p k path) : path.length ≤ 2 * limit + 1 := by
  obtain ⟨word, whole, part⟩ := standing_word some standing
  exact Nat.le_trans part.length_le (word_length whole)

theorem loop_travelled (ceiling : UInt32) (turns : Nat) (h : History) (s : Session) (t : Turn)
    (run : Runs (loop turns (fresh ceiling) .init) h (s, t)) : ∃ path, Travelled (limit ceiling) turns h s t path := by
  have beginning : Standing (limit (fresh ceiling).ceiling) .init (fresh ceiling).failures.toNat [] := .init
  obtain ⟨path, texts, ⟨same, -⟩, length, arrived⟩ := loop_arrived turns _ s .init t [] h beginning run
  rw [← same, List.nil_append] at arrived
  change s.ceiling = ceiling at same
  have some := limit_positive s.ceiling
  rw [← same]
  cases arrived with
  | next p standing =>
      have within := Nat.le_trans (told_above p _) (standing_told standing)
      refine ⟨path, texts, standing_word some standing, standing_short some standing, within, ?_⟩
      have underway := standing_underway standing
      rw [length p rfl] at underway
      rw [texts]
      exact underway
  | last outcome p k standing counted ends =>
      have within : s.failures.toNat ≤ limit s.ceiling := counted ▸ standing_told standing
      refine ⟨path, texts, standing_word some standing, standing_short some standing, within, ?_, ?_⟩
      · rw [texts, retries_told, standing_count standing, counted]
      · intro o result
        rw [standing_whither standing, ends o result]

-- The supervisor is the loop with twice the limit and two turns, none of whose runs is left unended, so it
-- makes at most one transition less. Whoever answers, the transitions recorded after any number of turns
-- begin the word of a whole run.
theorem transitions_bounded (ceiling : UInt32) :
    (∀ unended, supervise ceiling = (loop (2 * limit ceiling + 2) (fresh ceiling) .init).bind (settle unended)) ∧
      (∀ h s p, ¬Runs (loop (2 * limit ceiling + 2) (fresh ceiling) .init) h (s, .next p)) ∧
      ∀ turns h s t, Runs (loop turns (fresh ceiling) .init) h (s, t) →
        ∃ path, Travelled (limit ceiling) turns h s t path := by
  refine ⟨supervise_turns ceiling, ?_, loop_travelled ceiling⟩
  intro h s p run
  obtain ⟨path, travelled⟩ := loop_travelled ceiling _ h s _ run
  have underway : Underway _ _ path _ s p := travelled.stands
  have short := travelled.short
  rw [underway.length] at short
  omega

end Overseer.Session
