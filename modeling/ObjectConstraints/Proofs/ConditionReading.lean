import ObjectConstraints.Failure
import Mathlib.Data.List.DropRight

/-!
# Reading conditions

The first colon of a text separates two parts (`Condition.Splits`). The text is read as a condition iff
neither part is blank, and blanks around the parts do not count (`Condition.ofText_ok`,
`Condition.ofText_pad`). What is read has no colon in its language and no blanks around its parts, so
it is read again from what it is written as (`Condition.ofText_text`).
-/

namespace ObjectConstraints

-- ---------------------------------------------------------------------------
-- Trimming
-- ---------------------------------------------------------------------------

namespace Unicode

/-- Whether all characters of a text are blank. -/
def Blank (cs : List Char) : Prop := ∀ c ∈ cs, isBlank c = true

instance (cs : List Char) : Decidable (Blank cs) :=
  decidable_of_iff (cs.all isBlank = true) List.all_eq_true

/-- Whether there is no blank at either end of a text. -/
structure Trimmed (cs : List Char) : Prop where
  first : ∀ c ∈ cs.head?, isBlank c = false
  last : ∀ c ∈ cs.getLast?, isBlank c = false

variable {cs front back : List Char}

theorem trimChars_eq (cs : List Char) :
    trimChars cs = (cs.dropWhile isBlank).rdropWhile isBlank := rfl

theorem mem_of_mem_trimChars {c : Char} (h : c ∈ trimChars cs) : c ∈ cs :=
  (List.dropWhile_suffix isBlank).mem ((List.rdropWhile_prefix isBlank _).mem h)

theorem trimChars_eq_nil : trimChars cs = [] ↔ Blank cs := by
  rw [trimChars_eq, List.rdropWhile_eq_nil_iff, Blank]
  refine ⟨fun h c hc => ?_, fun h c hc => h c ((List.dropWhile_suffix isBlank).mem hc)⟩
  rw [← List.takeWhile_append_dropWhile (p := isBlank) (l := cs)] at hc
  exact (List.mem_append.mp hc).elim List.mem_takeWhile_imp (h c)

theorem trimmed_trimChars (cs : List Char) : Trimmed (trimChars cs) where
  first c hc := by
    -- What is left of a text starts where the blanks in front of it end.
    obtain ⟨dropped, hsplit⟩ := List.rdropWhile_prefix isBlank (cs.dropWhile isBlank)
    have hfirst := List.head?_dropWhile_not isBlank cs
    have hhead : (cs.dropWhile isBlank).head? = some c := by
      rw [← hsplit, List.head?_append]
      simp [← trimChars_eq, Option.mem_def.mp hc]
    simpa [hhead] using hfirst
  last c hc := by
    have hne : trimChars cs ≠ [] := by
      rintro h
      simp [h] at hc
    rw [List.getLast?_eq_some_getLast hne, Option.mem_some_iff] at hc
    have hlast := List.rdropWhile_last_not isBlank (cs.dropWhile isBlank) hne
    simpa [← trimChars_eq, hc] using hlast

theorem trimChars_of_trimmed (h : Trimmed cs) : trimChars cs = cs := by
  have hfront : cs.dropWhile isBlank = cs := by
    refine List.dropWhile_eq_self_iff.mpr fun hpos => ?_
    simpa using h.first cs[0] (by simp [List.head?_eq_getElem?, hpos])
  rw [trimChars_eq, hfront, List.rdropWhile_eq_self_iff]
  intro hne
  simpa using h.last _ (List.getLast?_eq_some_getLast hne)

/-- Blanks around a text do not count. -/
theorem trimChars_pad (hfront : Blank front) (hback : Blank back) :
    trimChars (front ++ cs ++ back) = trimChars cs := by
  have hbehind (rest : List Char) : (rest ++ back).rdropWhile isBlank = rest.rdropWhile isBlank := by
    rw [List.rdropWhile, List.rdropWhile, List.reverse_append, List.dropWhile_append_of_pos]
    exact fun c hc => hback c (List.mem_reverse.mp hc)
  rw [trimChars_eq, trimChars_eq, List.append_assoc, List.dropWhile_append_of_pos hfront,
    List.dropWhile_append]
  split
  · next hempty =>
    rw [List.isEmpty_iff.mp hempty, List.dropWhile_eq_nil_iff.mpr hback]
  · exact hbehind _

end Unicode

namespace Condition

-- ---------------------------------------------------------------------------
-- Splitting
-- ---------------------------------------------------------------------------

/-- Whether the first colon of a text separates the two given parts of it. -/
def Splits (text before after : String) : Prop :=
  text = before ++ ":" ++ after ∧ ':' ∉ before.toList

variable {text before after : String} {c : Condition}

theorem splitColon_eq_none {cs : List Char} (h : ':' ∉ cs) : splitColon cs = none := by
  induction cs with
  | nil => rfl
  | cons first rest ih =>
    have hfirst : first ≠ ':' := fun heq => h (heq ▸ List.mem_cons_self)
    rw [splitColon, if_neg hfirst, ih fun hrest => h (List.mem_cons_of_mem _ hrest)]
    rfl

theorem splitColon_append {front back : List Char} (h : ':' ∉ front) :
    splitColon (front ++ ':' :: back) = some (front, back) := by
  induction front with
  | nil => rfl
  | cons first rest ih =>
    have hfirst : first ≠ ':' := fun heq => h (heq ▸ List.mem_cons_self)
    rw [List.cons_append, splitColon, if_neg hfirst,
      ih fun hrest => h (List.mem_cons_of_mem _ hrest)]
    rfl

theorem Splits.splitColon (h : Splits text before after) :
    Condition.splitColon text.toList = some (before.toList, after.toList) := by
  obtain ⟨rfl, hcolon⟩ := h
  rw [← splitColon_append hcolon]
  simp

theorem exists_splits : (∃ before after, Splits text before after) ↔ ':' ∈ text.toList := by
  constructor
  · rintro ⟨before, after, rfl, -⟩
    simp
  · intro hcolon
    obtain ⟨front, back, hsplit, hfront⟩ := List.eq_append_cons_of_mem hcolon
    refine ⟨String.ofList front, String.ofList back, ?_, by simpa using hfront⟩
    rw [← String.toList_inj]
    simp [hsplit]

-- ---------------------------------------------------------------------------
-- Reading
-- ---------------------------------------------------------------------------

/-- Whether a part of a text has a character that is not blank. -/
def Written (part : String) : Prop := ∃ c ∈ part.toList, Unicode.isBlank c = false

instance (part : String) : Decidable (Written part) :=
  decidable_of_iff (part.toList.any (fun c => !Unicode.isBlank c) = true) (by simp [Written])

theorem written_iff {part : String} : Written part ↔ Unicode.trimChars part.toList ≠ [] := by
  rw [Ne, Unicode.trimChars_eq_nil, Unicode.Blank, Written]
  simp

/-- A text with a colon is read as its trimmed parts, unless one of them is blank. -/
theorem Splits.ofText (h : Splits text before after) :
    Condition.ofText text =
      if Written before ∧ Written after then .ok ⟨Unicode.trim before, Unicode.trim after⟩
      else .error (.invalidCondition text) := by
  simp only [Condition.ofText, ofText?, h.splitColon, written_iff]
  by_cases hbefore : Unicode.trimChars before.toList = [] <;>
    by_cases hafter : Unicode.trimChars after.toList = [] <;> simp [hbefore, hafter, Unicode.trim]

theorem ofText_of_not_mem (h : ':' ∉ text.toList) :
    ofText text = .error (.invalidCondition text) := by
  simp only [ofText, ofText?, splitColon_eq_none h]

theorem ofText_ok : ofText text = .ok c ↔ ∃ before after, Splits text before after ∧
    Written before ∧ Written after ∧ c = ⟨Unicode.trim before, Unicode.trim after⟩ := by
  constructor
  · intro h
    by_cases hcolon : ':' ∈ text.toList
    · obtain ⟨before, after, hsplits⟩ := exists_splits.mpr hcolon
      rw [hsplits.ofText] at h
      split at h
      · next hwritten =>
        cases h
        exact ⟨before, after, hsplits, hwritten.1, hwritten.2, rfl⟩
      · cases h
    · rw [ofText_of_not_mem hcolon] at h
      cases h
  · rintro ⟨before, after, hsplits, hbefore, hafter, rfl⟩
    rw [hsplits.ofText, if_pos ⟨hbefore, hafter⟩]

/-- Blanks around the parts of a text change nothing but the text that an error quotes. -/
theorem Splits.ofText_pad (h : Splits text before after) {p q r s : String}
    (hp : Unicode.Blank p.toList) (hq : Unicode.Blank q.toList) (hr : Unicode.Blank r.toList)
    (hs : Unicode.Blank s.toList) :
    let padded := p ++ before ++ q ++ ":" ++ (r ++ after ++ s)
    Condition.ofText padded =
      (Condition.ofText text).mapError fun _ => .invalidCondition padded := by
  intro padded
  have hpadded : Splits padded (p ++ before ++ q) (r ++ after ++ s) := by
    refine ⟨rfl, fun hcolon => ?_⟩
    simp only [String.toList_append, List.mem_append] at hcolon
    rcases hcolon with (hcolon | hcolon) | hcolon
    · cases hp _ hcolon
    · exact h.2 hcolon
    · cases hq _ hcolon
  have hbefore : Unicode.trimChars (p.toList ++ before.toList ++ q.toList) =
      Unicode.trimChars before.toList := Unicode.trimChars_pad hp hq
  have hafter : Unicode.trimChars (r.toList ++ after.toList ++ s.toList) =
      Unicode.trimChars after.toList := Unicode.trimChars_pad hr hs
  rw [hpadded.ofText, h.ofText]
  simp only [written_iff, Unicode.trim, String.toList_append, hbefore, hafter]
  split <;> rfl

/-- What is read is read again from what it is written as. -/
theorem ofText_text_of_ok (h : ofText text = .ok c) : Splits c.text c.language c.expression ∧
    Unicode.Trimmed c.language.toList ∧ Unicode.Trimmed c.expression.toList ∧
    ofText c.text = .ok c := by
  obtain ⟨before, after, ⟨-, hcolon⟩, hbefore, hafter, rfl⟩ := ofText_ok.mp h
  have htrimmed (part : String) : Unicode.Trimmed (Unicode.trim part).toList := by
    rw [Unicode.trim, String.toList_ofList]
    exact Unicode.trimmed_trimChars _
  have htwice (part : String) : Unicode.trim (Unicode.trim part) = Unicode.trim part := by
    rw [Unicode.trim, Unicode.trimChars_of_trimmed (htrimmed part), String.ofList_toList]
  have hwritten {part : String} (hpart : Written part) : Written (Unicode.trim part) := by
    rw [written_iff] at hpart ⊢
    rwa [Unicode.trimChars_of_trimmed (htrimmed part), Unicode.trim, String.toList_ofList]
  have hsplits : Splits (Condition.text ⟨Unicode.trim before, Unicode.trim after⟩) (Unicode.trim before)
      (Unicode.trim after) := by
    refine ⟨rfl, fun hmem => hcolon (Unicode.mem_of_mem_trimChars ?_)⟩
    rwa [Unicode.trim, String.toList_ofList] at hmem
  refine ⟨hsplits, htrimmed before, htrimmed after, ?_⟩
  exact ofText_ok.mpr ⟨_, _, hsplits, hwritten hbefore, hwritten hafter, by rw [htwice, htwice]⟩

/-- A text is read as a condition iff it has a colon and is blank neither before nor after the first one,
and is refused otherwise. The condition consists of the two parts without the blanks around them; its
language has no colon, and it is read again from what it is written as. More blanks around the parts of
a text change nothing. -/
theorem ofText_text (text : String) :
    ((∃ c, ofText text = .ok c) ↔
        ∃ before after, Splits text before after ∧ Written before ∧ Written after) ∧
      ((¬ ∃ c, ofText text = .ok c) → ofText text = .error (.invalidCondition text)) ∧
      (∀ c, ofText text = .ok c →
        (∀ before after, Splits text before after →
          c = ⟨Unicode.trim before, Unicode.trim after⟩) ∧
        ':' ∉ c.language.toList ∧ Unicode.Trimmed c.language.toList ∧
        Unicode.Trimmed c.expression.toList ∧ ofText c.text = .ok c) ∧
      ∀ before after, Splits text before after → ∀ p q r s : String,
        Unicode.Blank p.toList → Unicode.Blank q.toList → Unicode.Blank r.toList →
        Unicode.Blank s.toList →
        let padded := p ++ before ++ q ++ ":" ++ (r ++ after ++ s)
        ofText padded = (ofText text).mapError fun _ => .invalidCondition padded := by
  refine ⟨⟨?_, ?_⟩, fun hno => ?_, fun c hc => ⟨fun before after hsplits => ?_, ?_⟩, ?_⟩
  · rintro ⟨c, hc⟩
    obtain ⟨before, after, hsplits, hbefore, hafter, -⟩ := ofText_ok.mp hc
    exact ⟨before, after, hsplits, hbefore, hafter⟩
  · rintro ⟨before, after, hsplits, hbefore, hafter⟩
    exact ⟨_, ofText_ok.mpr ⟨before, after, hsplits, hbefore, hafter, rfl⟩⟩
  · unfold ofText at hno ⊢
    split
    · next c hread => exact absurd ⟨c, by rw [hread]⟩ hno
    · rfl
  · rw [hsplits.ofText] at hc
    split at hc
    · cases hc
      rfl
    · cases hc
  · obtain ⟨hsplits, hlanguage, hexpression, hagain⟩ := ofText_text_of_ok hc
    exact ⟨hsplits.2, hlanguage, hexpression, hagain⟩
  · exact fun before after hsplits p q r s hp hq hr hs => hsplits.ofText_pad hp hq hr hs

theorem ofText_text_spaced :
    let text := "js :_value > a:b"
    let c : Condition := ⟨"js", "_value > a:b"⟩
    Splits text "js " "_value > a:b" ∧ ofText text = .ok c ∧ ofText c.text = .ok c ∧
      ofText ("\t" ++ "js " ++ "" ++ ":" ++ (" " ++ "_value > a:b" ++ "\u3000")) = .ok c := by
  intro text c
  have hsplits : Splits text "js " "_value > a:b" := ⟨rfl, by decide⟩
  obtain ⟨hreads, -, hread, hpad⟩ := ofText_text text
  obtain ⟨found, hfound⟩ := hreads.mpr ⟨_, _, hsplits, by decide, by decide⟩
  obtain ⟨hparts, -, -, -, hagain⟩ := hread found hfound
  have htrimmed : (⟨Unicode.trim "js ", Unicode.trim "_value > a:b"⟩ : Condition) = c := by decide
  obtain rfl : found = c := (hparts _ _ hsplits).trans htrimmed
  have hpadded := hpad _ _ hsplits "\t" "" " " "\u3000" (by decide) (by decide) (by decide) (by decide)
  refine ⟨hsplits, hfound, hagain, hpadded.trans ?_⟩
  rw [hfound]
  rfl

example : ofText "js: " = .error (.invalidCondition "js: ") := rfl

end Condition

end ObjectConstraints
