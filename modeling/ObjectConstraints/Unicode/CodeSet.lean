import ObjectConstraints.Unicode.Ranges

/-!
# Runs of sets

A set of code points by its runs: ranges in ascending order, none of which is empty or touches the next.
Every list of ranges has such a form (`CodeSet.ofRanges`), and the operations on sets keep to it.
-/

namespace ObjectConstraints.Unicode

/-- Whether ranges are in ascending order and neither empty nor touching. -/
structure Apart (ranges : List CodeRange) : Prop where
  nonempty : ∀ r ∈ ranges, r.first ≤ r.last
  ascending : ranges.Pairwise fun r s => r.last + 1 < s.first

/-- A set of code points, given by its runs. -/
structure CodeSet where
  runs : List CodeRange
  apart : Apart runs

theorem Apart.nil : Apart [] := ⟨nofun, .nil⟩

theorem apart_cons : Apart (r :: ranges) ↔
    r.first ≤ r.last ∧ (∀ s ∈ ranges, r.last + 1 < s.first) ∧ Apart ranges := by
  constructor
  · rintro ⟨hnonempty, hascending⟩
    obtain ⟨hr, hranges⟩ := List.forall_mem_cons.mp hnonempty
    obtain ⟨hbefore, hascending⟩ := List.pairwise_cons.mp hascending
    exact ⟨hr, hbefore, hranges, hascending⟩
  · rintro ⟨hr, hbefore, hranges, hascending⟩
    exact ⟨List.forall_mem_cons.mpr ⟨hr, hranges⟩, List.pairwise_cons.mpr ⟨hbefore, hascending⟩⟩

-- ---------------------------------------------------------------------------
-- Adding a range
-- ---------------------------------------------------------------------------

/-- Adds a range to runs; those that it touches become one with it. -/
def addRange (range : CodeRange) : List CodeRange → List CodeRange
  | [] => [range]
  | r :: rest =>
    if range.last + 1 < r.first then range :: r :: rest
    else if r.last + 1 < range.first then r :: addRange range rest
    else addRange ⟨min range.first r.first, max range.last r.last⟩ rest

theorem lt_addRange {bound : Nat} (hrange : bound < range.first) (h : ∀ r ∈ ranges, bound < r.first) :
    ∀ r ∈ addRange range ranges, bound < r.first := by
  induction ranges generalizing range with
  | nil => simpa [addRange] using hrange
  | cons s rest ih =>
    obtain ⟨hs, hrest⟩ := List.forall_mem_cons.mp h
    unfold addRange
    split
    · exact List.forall_mem_cons.mpr ⟨hrange, h⟩
    · split
      · exact List.forall_mem_cons.mpr ⟨hs, ih hrange hrest⟩
      · exact ih (Nat.lt_min.mpr ⟨hrange, hs⟩) hrest

theorem Apart.addRange (h : Apart ranges) (hrange : range.first ≤ range.last) :
    Apart (addRange range ranges) := by
  induction ranges generalizing range with
  | nil => exact apart_cons.mpr ⟨hrange, nofun, .nil⟩
  | cons r rest ih =>
    obtain ⟨hr, hbefore, hrest⟩ := apart_cons.mp h
    unfold Unicode.addRange
    split
    · next hless =>
      refine apart_cons.mpr ⟨hrange, List.forall_mem_cons.mpr ⟨hless, fun s hs => ?_⟩, h⟩
      have := hbefore s hs
      omega
    · split
      · next hmore => exact apart_cons.mpr ⟨hr, lt_addRange hmore hbefore, ih hrest hrange⟩
      · exact ih hrest (by simp only; omega)

theorem covers_cons : covers (r :: ranges) code ↔
    (r.first ≤ code ∧ code ≤ r.last) ∨ covers ranges code := by
  simp [covers, CodeRange.contains]

theorem covers_addRange (h : Apart ranges) (hrange : range.first ≤ range.last) :
    covers (addRange range ranges) code ↔
      (range.first ≤ code ∧ code ≤ range.last) ∨ covers ranges code := by
  induction ranges generalizing range with
  | nil => exact covers_cons
  | cons r rest ih =>
    obtain ⟨hr, -, hrest⟩ := apart_cons.mp h
    unfold addRange
    split
    · exact covers_cons
    · split
      · rw [covers_cons, covers_cons, ih hrest hrange, or_left_comm]
      · -- The two ranges touch, so there is nothing between them.
        rw [covers_cons, ih hrest (by simp only; omega), ← or_assoc]
        refine or_congr_left ?_
        simp only
        omega

-- ---------------------------------------------------------------------------
-- Sets
-- ---------------------------------------------------------------------------

/-- The last code point there is. -/
def maxCode : Nat := 0x10ffff

/-- What lies between runs, from a place on. -/
def gaps (start : Nat) : List CodeRange → List CodeRange
  | [] => [⟨start, maxCode⟩]
  | r :: rest =>
    if start < r.first then ⟨start, r.first - 1⟩ :: gaps (r.last + 1) rest else gaps (r.last + 1) rest

theorem covers_gaps (h : Apart ranges) (hstart : ∀ r ∈ ranges, start ≤ r.first) (hcode : code ≤ maxCode) :
    covers (gaps start ranges) code ↔ start ≤ code ∧ ¬ covers ranges code := by
  induction ranges generalizing start with
  | nil => simp [gaps, covers, CodeRange.contains, hcode]
  | cons r rest ih =>
    obtain ⟨hr, hbefore, hrest⟩ := apart_cons.mp h
    have hfirst := hstart r List.mem_cons_self
    have hrest := ih hrest fun s hs => Nat.le_of_lt (hbefore s hs)
    have hlater : covers rest code → r.last + 1 < code := by
      intro hcovers
      obtain ⟨s, hs, hcontains⟩ := List.any_eq_true.mp hcovers
      simp only [CodeRange.contains, Bool.and_eq_true, decide_eq_true_eq] at hcontains
      exact Nat.lt_of_lt_of_le (hbefore s hs) hcontains.1
    unfold gaps
    split
    · rw [covers_cons, hrest, covers_cons]
      simp only
      by_cases hcovers : covers rest code <;> grind
    · rw [hrest, covers_cons]
      grind

namespace CodeSet

def contains (set : CodeSet) (code : Nat) : Bool := covers set.runs code

def empty : CodeSet := ⟨[], .nil⟩

def add (set : CodeSet) (range : CodeRange) : CodeSet :=
  if h : range.first ≤ range.last then ⟨addRange range set.runs, set.apart.addRange h⟩ else set

/-- The set with some more ranges. -/
def addAll (ranges : List CodeRange) (set : CodeSet) : CodeSet :=
  ranges.foldr (fun range set => set.add range) set

def ofRanges (ranges : List CodeRange) : CodeSet := addAll ranges empty

instance : Union CodeSet := ⟨fun left right => right.addAll left.runs⟩

/-- The code points that are not in a set. -/
def compl (set : CodeSet) : CodeSet := ofRanges (gaps 0 set.runs)

instance : Inter CodeSet := ⟨fun left right => (left.compl ∪ right.compl).compl⟩

instance : SDiff CodeSet := ⟨fun left right => left ∩ right.compl⟩

variable {set left right : CodeSet} {code : Nat}

theorem contains_add (range : CodeRange) :
    (set.add range).contains code ↔ (range.first ≤ code ∧ code ≤ range.last) ∨ set.contains code := by
  unfold add
  split
  · next h => exact covers_addRange set.apart h
  · exact (or_iff_right (by omega)).symm

theorem contains_addAll (ranges : List CodeRange) :
    (set.addAll ranges).contains code ↔ covers ranges code ∨ set.contains code := by
  induction ranges with
  | nil => simp [addAll, covers]
  | cons r rest ih =>
    rw [covers_cons, or_assoc, ← ih]
    exact contains_add r

theorem contains_ofRanges (ranges : List CodeRange) :
    (ofRanges ranges).contains code ↔ covers ranges code :=
  (contains_addAll ranges).trans (or_iff_left Bool.false_ne_true)

theorem contains_union : (left ∪ right).contains code ↔ left.contains code ∨ right.contains code :=
  contains_addAll left.runs

theorem contains_compl (hcode : code ≤ maxCode) : set.compl.contains code ↔ ¬ set.contains code := by
  rw [compl, contains_ofRanges, covers_gaps set.apart (fun _ _ => Nat.zero_le _) hcode]
  exact and_iff_right (Nat.zero_le _)

theorem contains_inter (hcode : code ≤ maxCode) :
    (left ∩ right).contains code ↔ left.contains code ∧ right.contains code := by
  refine (contains_compl hcode).trans ?_
  rw [contains_union, contains_compl hcode, contains_compl hcode, not_or, Classical.not_not,
    Classical.not_not]

theorem contains_sdiff (hcode : code ≤ maxCode) :
    (left \ right).contains code ↔ left.contains code ∧ ¬ right.contains code :=
  (contains_inter hcode).trans (and_congr_right fun _ => contains_compl hcode)

end CodeSet

end ObjectConstraints.Unicode
