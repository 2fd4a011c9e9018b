import Mathlib.Data.Finset.Card
import Mathlib.Data.Finset.Range
import ObjectConstraints.Pattern.Meaning

/-!
# Matching

Places where matches end are computed for many starts at once, and repetitions stop as soon as a round
brings no new place. The places so found are those where a match from one of the starts ends (`mem_ends`).
For unbounded repetitions this needs that a text has only so many places: each round brings a new one or
was the last (`upTo_closed`).
-/

namespace ObjectConstraints.Pattern

theorem mem_mergePlaces {xs ys : List Nat} : x ∈ mergePlaces xs ys ↔ x ∈ xs ∨ x ∈ ys := by
  by_cases hx : x ∈ xs <;> simp [mergePlaces, hx]

/-- Where merging brings nothing new, the second places are among the first. -/
theorem subset_of_length_mergePlaces {xs ys : List Nat} (h : (mergePlaces xs ys).length = xs.length) :
    ys ⊆ xs := by
  have hnone : ys.filter (!xs.contains ·) = [] := by
    rw [mergePlaces, List.length_append] at h
    exact List.length_eq_zero_iff.mp (by omega)
  intro y hy
  simpa using List.filter_eq_nil_iff.mp hnone y hy

-- ---------------------------------------------------------------------------
-- Rounds
-- ---------------------------------------------------------------------------

/-- So many steps of a relation, one after the other. -/
inductive Power (R : Nat → Nat → Prop) : Nat → Nat → Nat → Prop where
  | zero (i : Nat) : Power R 0 i i
  | succ {n i j k : Nat} (first : R i j) (more : Power R n j k) : Power R (n + 1) i k

/-- The places that so many steps lead to from one of the given places. -/
def Lands (R : Nat → Nat → Prop) (n : Nat) (places : List Nat) (x : Nat) : Prop :=
  ∃ i ∈ places, Power R n i x

theorem lands_zero {places : List Nat} : Lands R 0 places x ↔ x ∈ places := by
  constructor
  · rintro ⟨i, hi, hpower⟩
    cases hpower
    exact hi
  · exact fun hx => ⟨x, hx, .zero x⟩

/-- Whether a function on lists of places takes them where a relation leads from them. Neither leaves the
places up to a bound. -/
structure Steps (R : Nat → Nat → Prop) (bound : Nat) (step : List Nat → List Nat) : Prop where
  within : ∀ i j, R i j → i ≤ bound → j ≤ bound
  mem : ∀ places, (∀ i ∈ places, i ≤ bound) → ∀ j, j ∈ step places ↔ ∃ i ∈ places, R i j

namespace Steps

variable {R : Nat → Nat → Prop} {bound : Nat} {step : List Nat → List Nat} {places : List Nat}
  (hstep : Steps R bound step) (hplaces : ∀ i ∈ places, i ≤ bound)
include hstep hplaces

theorem step_within : ∀ j ∈ step places, j ≤ bound := by
  intro j hj
  obtain ⟨i, hi, hij⟩ := (hstep.mem places hplaces j).mp hj
  exact hstep.within i j hij (hplaces i hi)

theorem merge_within : ∀ j ∈ mergePlaces places (step places), j ≤ bound := by
  intro j hj
  rcases mem_mergePlaces.mp hj with hj | hj
  · exact hplaces j hj
  · exact hstep.step_within hplaces j hj

theorem lands_succ : Lands R (n + 1) places x ↔ Lands R n (step places) x := by
  constructor
  · rintro ⟨i, hi, hpower⟩
    cases hpower with
    | succ first more => exact ⟨_, (hstep.mem places hplaces _).mpr ⟨i, hi, first⟩, more⟩
  · rintro ⟨j, hj, more⟩
    obtain ⟨i, hi, first⟩ := (hstep.mem places hplaces j).mp hj
    exact ⟨i, hi, .succ first more⟩

theorem lands_of_fixed (hfixed : step places = places) (n : Nat) : Lands R n places x ↔ x ∈ places := by
  induction n with
  | zero => exact lands_zero
  | succ n ih => rw [hstep.lands_succ hplaces, hfixed, ih]

theorem mem_rounds (n : Nat) : x ∈ rounds step n places ↔ Lands R n places x := by
  induction n generalizing places with
  | zero => exact lands_zero.symm
  | succ n ih =>
    simp only [rounds, beq_iff_eq]
    split
    · next hfixed => exact (hstep.lands_of_fixed hplaces hfixed (n + 1)).symm
    · rw [ih (hstep.step_within hplaces), hstep.lands_succ hplaces]

/-- Steps do not lead out of places that they lead to no new ones from. -/
theorem mem_of_lands (hclosed : step places ⊆ places) (h : Lands R n places x) : x ∈ places := by
  obtain ⟨i, hi, hpower⟩ := h
  induction hpower with
  | zero i => exact hi
  | succ first more ih => exact ih (hclosed ((hstep.mem places hplaces _).mpr ⟨_, hi, first⟩))

theorem mem_upTo (n : Nat) : x ∈ upTo step n places ↔ ∃ k ≤ n, Lands R k places x := by
  induction n generalizing places with
  | zero => simp [upTo, lands_zero]
  | succ n ih =>
    simp only [upTo, beq_iff_eq]
    split
    · next hsame =>
      have hclosed := subset_of_length_mergePlaces hsame
      exact ⟨fun hx => ⟨0, by omega, lands_zero.mpr hx⟩,
        fun ⟨_, _, hx⟩ => hstep.mem_of_lands hplaces hclosed hx⟩
    · rw [ih (hstep.merge_within hplaces)]
      constructor
      · rintro ⟨k, hk, i, hi, hpower⟩
        rcases mem_mergePlaces.mp hi with hi | hi
        · exact ⟨k, by omega, i, hi, hpower⟩
        · exact ⟨k + 1, by omega, (hstep.lands_succ hplaces).mpr ⟨i, hi, hpower⟩⟩
      · rintro ⟨k, hk, hlands⟩
        cases k with
        | zero => exact ⟨0, by omega, lands_zero.mpr (mem_mergePlaces.mpr (.inl (lands_zero.mp hlands)))⟩
        | succ k =>
          obtain ⟨i, hi, hpower⟩ := (hstep.lands_succ hplaces).mp hlands
          exact ⟨k, by omega, i, mem_mergePlaces.mpr (.inr hi), hpower⟩

/-- Rounds that may be as many as there are places not met yet come to an end with places from which nothing
new can be reached. -/
theorem upTo_closed (hn : bound + 2 ≤ n + places.toFinset.card) :
    step (upTo step n places) ⊆ upTo step n places := by
  induction n generalizing places with
  | zero =>
    have hsub : places.toFinset ⊆ Finset.range (bound + 1) := fun i hi =>
      Finset.mem_range.mpr (by have := hplaces i (List.mem_toFinset.mp hi); omega)
    have hcard := Finset.card_le_card hsub
    rw [Finset.card_range] at hcard
    omega
  | succ n ih =>
    simp only [upTo, beq_iff_eq]
    split
    · next hsame => exact subset_of_length_mergePlaces hsame
    · next hmore =>
      refine ih (hstep.merge_within hplaces) ?_
      have hnew : ∃ y ∈ step places, y ∉ places := by
        by_contra hnone
        push Not at hnone
        exact hmore (by simpa [mergePlaces] using hnone)
      obtain ⟨y, hy, hfresh⟩ := hnew
      have hlarger : insert y places.toFinset ⊆ (mergePlaces places (step places)).toFinset := by
        intro z hz
        rw [List.mem_toFinset, mem_mergePlaces]
        rcases Finset.mem_insert.mp hz with rfl | hz
        · exact .inr hy
        · exact .inl (List.mem_toFinset.mp hz)
      have hcard := Finset.card_le_card hlarger
      rw [Finset.card_insert_of_notMem (by simpa using hfresh)] at hcard
      omega

theorem lands_within (h : Lands R n places x) : x ≤ bound := by
  obtain ⟨i, hi, hpower⟩ := h
  replace hi := hplaces i hi
  induction hpower with
  | zero i => exact hi
  | succ first _ ih => exact ih (hstep.within _ _ first hi)

theorem mem_upTo_all : x ∈ upTo step (bound + 1) places ↔ ∃ k, Lands R k places x := by
  constructor
  · intro hx
    obtain ⟨k, _, hlands⟩ := (hstep.mem_upTo hplaces (bound + 1)).mp hx
    exact ⟨k, hlands⟩
  · rintro ⟨k, i, hi, hpower⟩
    have hcard : 0 < places.toFinset.card := Finset.card_pos.mpr ⟨i, List.mem_toFinset.mpr hi⟩
    have hclosed := hstep.upTo_closed hplaces (n := bound + 1) (by omega)
    have hwithin : ∀ j ∈ upTo step (bound + 1) places, j ≤ bound := by
      intro j hj
      obtain ⟨_, _, hlands⟩ := (hstep.mem_upTo hplaces (bound + 1)).mp hj
      exact hstep.lands_within hplaces hlands
    have hstart : i ∈ upTo step (bound + 1) places :=
      (hstep.mem_upTo hplaces (bound + 1)).mpr ⟨0, by omega, lands_zero.mpr hi⟩
    exact hstep.mem_of_lands hwithin hclosed ⟨i, hstart, hpower⟩

end Steps

-- ---------------------------------------------------------------------------
-- Repetitions
-- ---------------------------------------------------------------------------

theorem Power.append (first : Power R m i j) (more : Power R n j k) : Power R (m + n) i k := by
  induction first with
  | zero i => rwa [Nat.zero_add]
  | succ first _ ih =>
    rw [Nat.succ_add_eq_add_succ, Nat.add_succ]
    exact .succ first (ih more)

theorem Power.split (h : Power R (m + n) i k) : ∃ j, Power R m i j ∧ Power R n j k := by
  induction m generalizing i with
  | zero => exact ⟨i, .zero i, by rwa [Nat.zero_add] at h⟩
  | succ m ih =>
    rw [Nat.succ_add_eq_add_succ, Nat.add_succ] at h
    cases h with
    | succ first more =>
      obtain ⟨j, hj, hk⟩ := ih more
      exact ⟨j, .succ first hj, hk⟩

/-- A repetition spans what as many rounds span as it may make. With bounds the wrong way round, it makes the
rounds that are due. -/
theorem spans_repeated_iff : Spans text (.repeated p least most) i j ↔
    ∃ n, least ≤ n ∧ (∀ m ∈ most, n ≤ max least m) ∧ Power (Spans text p) n i j := by
  constructor
  · intro h
    generalize hp : Pattern.repeated p least most = repetition at h
    induction h generalizing least most with
    | done i =>
      cases hp
      exact ⟨0, by omega, by simp, .zero i⟩
    | @round p' least' most' _ _ _ room first more _ ih =>
      cases hp
      obtain ⟨n, hleast, hmost, hpower⟩ := ih rfl
      refine ⟨n + 1, by omega, fun m hm => ?_, .succ first hpower⟩
      cases hm
      have hmost := hmost (m - 1) rfl
      have hroom : 0 < least' ∨ m ≠ 0 := room.imp_right fun h hm => h (congrArg some hm)
      omega
    | _ => cases hp
  · rintro ⟨n, hleast, hmost, hpower⟩
    induction hpower generalizing least most with
    | zero i =>
      obtain rfl : least = 0 := by omega
      exact .done i
    | succ first more ih =>
      refine .round ?_ first (ih (by omega) fun m hm => ?_)
      · by_cases hdue : 0 < least
        · exact .inl hdue
        · refine .inr fun hm => ?_
          have := hmost 0 hm
          omega
      · obtain ⟨m', hm', rfl⟩ := Option.map_eq_some_iff.mp hm
        have := hmost m' hm'
        show _ ≤ max (least - 1) (m' - 1)
        omega

-- ---------------------------------------------------------------------------
-- Places where matches end
-- ---------------------------------------------------------------------------

theorem Spans.within (h : Spans text p i j) (hi : i ≤ text.size) : j ≤ text.size := by
  induction h with
  | chars at_place =>
    obtain ⟨hlt, -⟩ := Array.getElem?_eq_some_iff.mp at_place
    omega
  | seq _ _ ihp ihq => exact ihq (ihp hi)
  | left _ ih | right _ ih => exact ih hi
  | round _ _ _ ihp ihq => exact ihq (ihp hi)
  | _ => exact hi

/-- Whether the places computed for a pattern are those where a match from one of the starts ends. -/
abbrev Computes (text : Array Char) (p : Pattern) : Prop := Steps (Spans text p) text.size (ends text p)

namespace Computes

variable {text : Array Char} {p q : Pattern}

theorem of_mem (h : ∀ places, (∀ i ∈ places, i ≤ text.size) → ∀ j,
    j ∈ ends text p places ↔ ∃ i ∈ places, Spans text p i j) : Computes text p :=
  ⟨fun _ _ hspans hi => hspans.within hi, h⟩

theorem empty : Computes text .empty := by
  refine .of_mem fun places _ j => ⟨fun hj => ⟨j, hj, .empty j⟩, ?_⟩
  rintro ⟨i, hi, ⟨⟩⟩
  exact hi

theorem chars (set : Char → Bool) : Computes text (.chars set) := by
  refine .of_mem fun places _ j => ?_
  simp only [ends, List.mem_filterMap]
  constructor
  · rintro ⟨i, hi, hj⟩
    refine ⟨i, hi, ?_⟩
    split at hj
    · next c hc =>
      split at hj
      · next hset =>
        cases hj
        exact .chars hc hset
      · cases hj
    · cases hj
  · rintro ⟨i, hi, h⟩
    cases h with
    | chars at_place in_set => exact ⟨i, hi, by simp [at_place, in_set]⟩

theorem look (holds : Option Char → Option Char → Bool) : Computes text (.look holds) := by
  refine .of_mem fun places _ j => ?_
  rw [ends, List.mem_filter]
  constructor
  · exact fun ⟨hj, hholds⟩ => ⟨j, hj, .look hholds⟩
  · rintro ⟨i, hi, h⟩
    cases h with
    | look there => exact ⟨hi, there⟩

/-- What the second part leads to from the places where the first part ends. -/
theorem seq (hp : Computes text p) (hq : Computes text q) : Computes text (.seq p q) := by
  refine .of_mem fun places hplaces k => ?_
  rw [ends, hq.mem _ (hp.step_within hplaces)]
  constructor
  · rintro ⟨j, hj, second⟩
    obtain ⟨i, hi, first⟩ := (hp.mem places hplaces j).mp hj
    exact ⟨i, hi, .seq first second⟩
  · rintro ⟨i, hi, h⟩
    cases h with
    | seq first second => exact ⟨_, (hp.mem places hplaces _).mpr ⟨i, hi, first⟩, second⟩

theorem either (hp : Computes text p) (hq : Computes text q) : Computes text (.either p q) := by
  refine .of_mem fun places hplaces j => ?_
  rw [ends, mem_mergePlaces, hp.mem places hplaces, hq.mem places hplaces]
  constructor
  · rintro (⟨i, hi, h⟩ | ⟨i, hi, h⟩)
    · exact ⟨i, hi, .left h⟩
    · exact ⟨i, hi, .right h⟩
  · rintro ⟨i, hi, h⟩
    cases h with
    | left h => exact .inl ⟨i, hi, h⟩
    | right h => exact .inr ⟨i, hi, h⟩

/-- A repetition makes the rounds that are due, and then some of those that are allowed. -/
theorem spans_rounds (hp : Computes text p) (hplaces : ∀ i ∈ places, i ≤ text.size)
    (least : Nat) (most : Option Nat) : (∃ i ∈ places, Spans text (.repeated p least most) i j) ↔
      ∃ n, (∀ m ∈ most, n ≤ m - least) ∧ Lands (Spans text p) n (rounds (ends text p) least places) j := by
  constructor
  · rintro ⟨i, hi, h⟩
    obtain ⟨n, hleast, hmost, hpower⟩ := spans_repeated_iff.mp h
    obtain ⟨n, rfl⟩ := Nat.exists_eq_add_of_le hleast
    obtain ⟨k, hk, hj⟩ := hpower.split
    refine ⟨n, fun m hm => ?_, k, (hp.mem_rounds hplaces least).mpr ⟨i, hi, hk⟩, hj⟩
    have := hmost m hm
    omega
  · rintro ⟨n, hmost, k, hk, hj⟩
    obtain ⟨i, hi, hk⟩ := (hp.mem_rounds hplaces least).mp hk
    refine ⟨i, hi, spans_repeated_iff.mpr ⟨least + n, by omega, fun m hm => ?_, hk.append hj⟩⟩
    have := hmost m hm
    omega

theorem repeated (hp : Computes text p) (least : Nat) (most : Option Nat) :
    Computes text (.repeated p least most) := by
  refine .of_mem fun places hplaces j => ?_
  have hstart : ∀ i ∈ rounds (ends text p) least places, i ≤ text.size := fun i hi =>
    hp.lands_within hplaces ((hp.mem_rounds hplaces least).mp hi)
  rw [hp.spans_rounds hplaces]
  cases most with
  | some most => simp [ends, hp.mem_upTo hstart]
  | none => simp [ends, hp.mem_upTo_all hstart]

end Computes

/-- The places computed are those where a match from one of the starts ends. -/
theorem mem_ends (text : Array Char) (p : Pattern) : Computes text p := by
  induction p with
  | empty => exact .empty
  | chars set => exact .chars set
  | look holds => exact .look holds
  | seq p q ihp ihq => exact ihp.seq ihq
  | either p q ihp ihq => exact ihp.either ihq
  | repeated p least most ih => exact ih.repeated least most

theorem matchesIn_iff : p.matchesIn text ↔
    ∃ i ≤ text.toList.length, ∃ j, Spans text.toList.toArray p i j := by
  have hwithin : ∀ i ∈ List.range (text.toList.toArray.size + 1), i ≤ text.toList.toArray.size := by
    intro i hi
    have := List.mem_range.mp hi
    omega
  simp only [matchesIn, Bool.not_eq_true', List.isEmpty_eq_false_iff_exists_mem,
    (mem_ends _ p).mem _ hwithin]
  constructor
  · rintro ⟨j, i, hi, h⟩
    exact ⟨i, by simpa using hwithin i hi, j, h⟩
  · rintro ⟨i, hi, j, h⟩
    exact ⟨j, i, by simpa [Nat.lt_succ_iff] using hi, h⟩

-- ---------------------------------------------------------------------------
-- Whole texts
-- ---------------------------------------------------------------------------

/-- Whether a pattern matches the whole of a text. -/
def MatchesWhole (p : Pattern) (text : String) : Prop :=
  Spans text.toList.toArray p 0 text.toList.length

/-- The pattern between the start and the end of the text. -/
def anchored (p : Pattern) : Pattern :=
  .seq (.look (Assertion.lineStart.holds {})) (.seq p (.look (Assertion.lineEnd.holds {})))

theorem holdsAt_lineStart {text : Array Char} :
    holdsAt text (Assertion.lineStart.holds {}) i = true ↔ i = 0 ∨ text.size < i := by
  by_cases hi : i = 0
  · simp [holdsAt, Assertion.holds, hi]
  · simp [holdsAt, Assertion.holds, hi]
    omega

theorem holdsAt_lineEnd {text : Array Char} :
    holdsAt text (Assertion.lineEnd.holds {}) i = true ↔ text.size ≤ i := by
  simp [holdsAt, Assertion.holds]

theorem anchored_matchesIn : (anchored p).matchesIn text ↔ p.MatchesWhole text := by
  rw [matchesIn_iff, MatchesWhole]
  constructor
  · rintro ⟨i, hi, j, h⟩
    cases h with
    | seq first more =>
      cases first with
      | look atStart =>
        cases more with
        | seq body last =>
          cases last with
          | look atEnd =>
            have hstart := holdsAt_lineStart.mp atStart
            have hend := holdsAt_lineEnd.mp atEnd
            have hwithin := body.within (by simpa using hi)
            simp only [List.size_toArray] at hstart hend hwithin
            obtain rfl : i = 0 := by omega
            obtain rfl : j = text.toList.length := by omega
            exact body
  · intro h
    have hend : holdsAt text.toList.toArray (Assertion.lineEnd.holds {}) text.toList.length = true :=
      holdsAt_lineEnd.mpr (by simp)
    exact ⟨0, by omega, text.toList.length,
      .seq (.look (holdsAt_lineStart.mpr (.inl rfl))) (.seq h (.look hend))⟩

end ObjectConstraints.Pattern
