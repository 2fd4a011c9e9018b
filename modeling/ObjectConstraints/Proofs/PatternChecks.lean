import ObjectConstraints.Proofs.DocumentLoading
import ObjectConstraints.Proofs.PatternGroups
import ObjectConstraints.Proofs.PatternMatching
import ObjectConstraints.Satisfaction

/-!
# Pattern checks

A check is made from texts of patterns by putting each into a group between anchors, as text. The texts for which
this makes of a pattern the one that matches in full, and of no pattern none, are those that keep to the group
(`Pattern.Contained`): no parenthesis in them closes it, no comment of theirs swallows the one that does, and
there is room for the group around them within the limits of size and depth. For such texts a check can be made if
each of them is a pattern, and a value satisfies it if all of the patterns match the whole text of the value, or
any of them (`CheckKind.ofPatterns_matches`). Of the others, a text that is a pattern is refused
(`Pattern.contained_of_anchored`), and one that is none may be accepted (`CheckKind.ofPatterns_uncontained`).
-/

namespace ObjectConstraints

open ClassChecks (mapM_ok)

namespace Pattern

-- ---------------------------------------------------------------------------
-- Anchored texts
-- ---------------------------------------------------------------------------

/-- The text of a pattern as a group between anchors. -/
def wrapped (text : List Char) : List Char := ['^', '(', '?', ':'] ++ text ++ closing

theorem toList_anchors (source : String) : ("^(?:" ++ source ++ ")$").toList = wrapped source.toList := by
  simp [wrapped, closing]

/-- What reading a text leaves over, if it can be read. -/
def leftOver? (text : List Char) : Option (List Char) := (readText text).map (·.2.rest)

/-- The expression as a group between anchors. -/
def Expression.wrapped (body : Expression) : Expression :=
  .concat [.assertion .lineStart, .group (some []) body, .assertion .lineEnd]

theorem readText_wrapped (text : List Char) : readText (wrapped text) =
    ((readText (text ++ closing)).bind fun (body, after) =>
      closeGroup (parts (2 * text.length + 11)) [.assertion .lineStart] (some []) false body after).bind
        fun (read, input) => afterBranch (branches (2 * text.length + 13)) read input := by
  have hlength : 2 * (wrapped text).length + 2 = 2 * text.length + 11 + 1 + 1 + 1 := by
    simp [wrapped]
    omega
  have hbody : branches (2 * text.length + 11) ⟨text ++ closing, false, []⟩ = readText (text ++ closing) :=
    branches_eq_readText _ (by simp; omega)
  rw [readText, hlength, ← hbody]
  rfl

/-- What is read of a text between anchors, if no parenthesis of its own closes the group and the one behind it is
not a part of a comment. -/
theorem readText_wrapped_of (text : List Char) (hclosed : ∀ rest ∈ leftOver? text, rest = [])
    (huncommented : leftOver? text = some [] → leftOver? (text ++ closing) ≠ some []) :
    (readText (wrapped text)).map (fun (body, o) => (body, o.rest)) =
      (readText text).map fun (body, _) => ([(Expression.ofBranches body).wrapped], []) := by
  rw [readText_wrapped]
  have htracks := readText_tracks text
  cases hread : readText text with
  | none =>
    rw [hread] at htracks
    cases htracks with
    | refused hbeyond =>
      cases hread' : readText (text ++ closing) with
      | none => rfl
      | some found =>
        obtain ⟨body, o⟩ := found
        have hsuffix := hbeyond body o hread'
        have hunclosed : ∀ rest, o.rest ≠ ')' :: rest := by
          rintro rest hrest
          rw [hrest] at hsuffix
          simp [List.suffix_cons_iff] at hsuffix
        simp [closeGroup_unclosed hunclosed]
  | some found =>
    obtain ⟨body, o⟩ := found
    have hleft : leftOver? text = some o.rest := by rw [leftOver?, hread]; rfl
    have hrest := hclosed o.rest hleft
    rw [hread] at htracks
    generalize hread' : readText (text ++ closing) = found' at htracks
    cases htracks with
    | read h =>
      cases h with
      | swallowed =>
        refine absurd ?_ (huncommented (hrest ▸ hleft))
        rw [leftOver?, hread', ← hrest]
        rfl
      | enclosed =>
        obtain ⟨rest, free, names⟩ := o
        obtain rfl : rest = [] := hrest
        rfl

theorem Expression.depth_wrapped (e : Expression) : e.wrapped.depth = e.depth + 2 := by
  simp [Expression.wrapped, Expression.depth, Expression.depthAll]

theorem Expression.size_wrapped (e : Expression) : e.wrapped.size = e.size + 2 * stateSize := by
  have hmodes : Modes.set {} [] = {} := rfl
  simp only [Expression.size, Expression.wrapped, Expression.sizeIn, Expression.sizesIn, Option.getD_some,
    Option.isNone_some, hmodes]
  simp
  omega

theorem Expression.pattern?_wrapped (e : Expression) :
    e.wrapped.pattern? {} = (e.pattern? {}).map fun (p, _) => (anchored p, {}) := by
  have hmodes : Modes.set {} [] = {} := rfl
  simp only [Expression.wrapped, Expression.pattern?, Expression.seqPattern?, Option.bind_eq_bind,
    Option.bind_some, Option.getD_some, hmodes]
  cases e.pattern? {} <;> rfl

theorem Expression.ofText?_eq (text : List Char) : Expression.ofText? text =
    ((readText text).map fun (body, o) => (body, o.rest)).bind fun (body, rest) =>
      if rest.isEmpty && (Expression.ofBranches body).depth ≤ maxDepth then some (Expression.ofBranches body)
      else none := by
  rw [Expression.ofText?, ← readText]
  cases readText text <;> rfl

theorem Expression.ofText?_eq_some : Expression.ofText? text = some e ↔
    ∃ body, (readText text).map (fun (body, o) => (body, o.rest)) = some (body, []) ∧
      Expression.ofBranches body = e ∧ e.depth ≤ maxDepth := by
  rw [Expression.ofText?_eq, Option.bind_eq_some_iff]
  constructor
  · rintro ⟨⟨body, rest⟩, hread, h⟩
    simp only [Option.ite_none_right_eq_some, Bool.and_eq_true, List.isEmpty_iff, decide_eq_true_eq] at h
    obtain ⟨⟨rfl, hdepth⟩, h⟩ := h
    cases h
    exact ⟨body, hread, rfl, hdepth⟩
  · rintro ⟨body, hread, rfl, hdepth⟩
    exact ⟨(body, []), hread, by simp [hdepth]⟩

theorem Expression.ofText?_wrapped {text : List Char} (hclosed : ∀ rest ∈ leftOver? text, rest = [])
    (huncommented : leftOver? text = some [] → leftOver? (text ++ closing) ≠ some [])
    (hroom : ∀ e ∈ Expression.ofText? text, e.depth + 2 ≤ maxDepth) :
    Expression.ofText? (Pattern.wrapped text) = (Expression.ofText? text).map Expression.wrapped := by
  rw [Expression.ofText?_eq] at hroom
  rw [Expression.ofText?_eq, readText_wrapped_of text hclosed huncommented, Expression.ofText?_eq]
  cases hread : readText text with
  | none => rfl
  | some found =>
    obtain ⟨body, o⟩ := found
    obtain hrest : o.rest = [] := hclosed o.rest (by rw [leftOver?, hread]; rfl)
    simp only [Option.map_some, Option.bind_some, hread, hrest, List.isEmpty_nil, Bool.true_and,
      decide_eq_true_eq] at hroom ⊢
    show (if (Expression.ofBranches body).wrapped.depth ≤ maxDepth then some (Expression.ofBranches body).wrapped
      else none) = _
    rw [Expression.depth_wrapped]
    by_cases hdepth : (Expression.ofBranches body).depth ≤ maxDepth
    · rw [if_pos hdepth] at hroom ⊢
      rw [if_pos (hroom _ rfl)]
      rfl
    · rw [if_neg hdepth, if_neg (by omega)]
      rfl

/-- A text whose last comment swallows the closing parenthesis is no pattern between anchors. -/
theorem ofText?_swallowed {source : String} (h : leftOver? (source.toList ++ closing) = some []) :
    Pattern.ofText? ("^(?:" ++ source ++ ")$") = none := by
  obtain ⟨⟨body, o⟩, hread, hrest⟩ := Option.map_eq_some_iff.mp h
  have hunclosed : ∀ rest, o.rest ≠ ')' :: rest := fun rest => by
    rw [show o.rest = [] from hrest]
    exact (List.cons_ne_nil _ _).symm
  have hwrapped : readText (wrapped source.toList) = none := by
    rw [readText_wrapped, hread]
    simp [closeGroup_unclosed hunclosed]
  rw [Pattern.ofText?, toList_anchors, Expression.ofText?_eq, hwrapped]
  rfl

-- ---------------------------------------------------------------------------
-- Texts that keep to their group
-- ---------------------------------------------------------------------------

/-- Whether a text, made the body of a group between anchors, is the body of the group. -/
structure Contained (source : String) : Prop where
  /-- Each closing parenthesis has an opening one of the text's own in front of it, or the text cannot be
  read that far. -/
  closed : ∀ rest ∈ leftOver? source.toList, rest = []
  /-- Behind the text, the closing parenthesis is not a part of a comment. -/
  uncommented : leftOver? source.toList = some [] → leftOver? (source.toList ++ closing) ≠ some []
  /-- There is room for the group around, unless the text alone is too large. -/
  room : ∀ e ∈ Expression.ofText? source.toList,
    e.depth + 2 ≤ maxDepth ∧ (e.size ≤ maxSize → e.size + 2 * stateSize ≤ maxSize)

instance (source : String) : Decidable (Contained source) :=
  decidable_of_iff
    ((∀ rest ∈ leftOver? source.toList, rest = []) ∧
      (leftOver? source.toList = some [] → leftOver? (source.toList ++ closing) ≠ some []) ∧
      ∀ e ∈ Expression.ofText? source.toList,
        e.depth + 2 ≤ maxDepth ∧ (e.size ≤ maxSize → e.size + 2 * stateSize ≤ maxSize))
    ⟨fun ⟨closed, uncommented, room⟩ => ⟨closed, uncommented, room⟩,
      fun h => ⟨h.closed, h.uncommented, h.room⟩⟩

theorem Contained.ofText?_anchored (h : Contained source) :
    Pattern.ofText? ("^(?:" ++ source ++ ")$") = (Pattern.ofText? source).map anchored := by
  simp only [Pattern.ofText?, toList_anchors,
    Expression.ofText?_wrapped h.closed h.uncommented fun e he => (h.room e he).1]
  cases hread : Expression.ofText? source.toList with
  | none => rfl
  | some e =>
    have hroom := (h.room e hread).2
    simp only [Option.map_some, Option.bind_eq_bind, Option.bind_some, Expression.pattern?_wrapped,
      Expression.size_wrapped]
    cases e.pattern? {} with
    | none => rfl
    | some found =>
      simp only [Option.map_some, Option.bind_some]
      split <;> split
      · rfl
      · omega
      · omega
      · rfl

theorem exists_expression (h : (Pattern.ofText? source).isSome) :
    ∃ e, Expression.ofText? source.toList = some e ∧ e.size ≤ maxSize := by
  obtain ⟨p, hp⟩ := Option.isSome_iff_exists.mp h
  obtain ⟨e, hread, hp⟩ := Option.bind_eq_some_iff.mp hp
  obtain ⟨_, -, hp⟩ := Option.bind_eq_some_iff.mp hp
  exact ⟨e, hread, (Option.ite_none_right_eq_some.mp hp).1⟩

/-- Among the texts that are patterns, those that are so between anchors keep to their group. -/
theorem contained_of_anchored (h : (Pattern.ofText? source).isSome)
    (hanchored : (Pattern.ofText? ("^(?:" ++ source ++ ")$")).isSome) : Contained source := by
  obtain ⟨e, hread, -⟩ := exists_expression h
  obtain ⟨body, hbody, rfl, -⟩ := Expression.ofText?_eq_some.mp hread
  have hclosed : ∀ rest ∈ leftOver? source.toList, rest = [] := by
    have hleft : leftOver? source.toList = some [] := by
      simpa [leftOver?, Option.map_map] using congrArg (Option.map Prod.snd) hbody
    simp [hleft]
  have huncommented : leftOver? source.toList = some [] → leftOver? (source.toList ++ closing) ≠ some [] := by
    intro _ hswallowed
    rw [ofText?_swallowed hswallowed] at hanchored
    cases hanchored
  refine ⟨hclosed, huncommented, fun e he => ?_⟩
  cases hread.symm.trans he
  -- between anchors, the expression read is the one that is read alone, in the group
  obtain ⟨w, hw, hsize⟩ := exists_expression hanchored
  rw [toList_anchors] at hw
  obtain ⟨outer, houter, rfl, hdepth⟩ := Expression.ofText?_eq_some.mp hw
  rw [readText_wrapped_of source.toList hclosed huncommented] at houter
  obtain ⟨⟨inner, o⟩, hinner, houter⟩ := Option.map_eq_some_iff.mp houter
  simp only [hinner, Option.map_some, Option.some.injEq, Prod.mk.injEq] at hbody
  obtain ⟨rfl, -⟩ := hbody
  cases houter
  have hdepth := (Expression.depth_wrapped _).symm.trans_le hdepth
  have hsize := (Expression.size_wrapped _).symm.trans_le hsize
  exact ⟨hdepth, fun _ => hsize⟩

/-- Whether a text is a pattern that matches the whole of another text. -/
def Matches (source text : String) : Prop := ∃ p, Pattern.ofText? source = some p ∧ p.MatchesWhole text

/-- A pattern made of a text matches what the text alone matches in full. -/
theorem Contained.matchesIn_iff (h : Contained source)
    (hanchored : Pattern.ofText? ("^(?:" ++ source ++ ")$") = some p) : p.matchesIn text ↔ Matches source text := by
  rw [h.ofText?_anchored] at hanchored
  obtain ⟨inner, hinner, rfl⟩ := Option.map_eq_some_iff.mp hanchored
  rw [anchored_matchesIn]
  constructor
  · exact fun hmatches => ⟨inner, hinner, hmatches⟩
  · rintro ⟨other, hother, hmatches⟩
    cases hinner.symm.trans hother
    exact hmatches

end Pattern

-- ---------------------------------------------------------------------------
-- Checks
-- ---------------------------------------------------------------------------

/-- The patterns of a check are those of its texts between anchors. -/
theorem CheckKind.ofPatterns_ok (h : CheckKind.ofPatterns sources matchAll = .ok kind) :
    ∃ patterns, kind = .pattern sources patterns matchAll ∧
      List.Forall₂ (fun source p => Pattern.ofText? ("^(?:" ++ source ++ ")$") = some p) sources patterns := by
  obtain ⟨patterns, hpatterns, h⟩ := ClassChecks.bind_ok.mp h
  cases h
  refine ⟨patterns, rfl, (mapM_ok hpatterns).imp fun source p hp => ?_⟩
  cases hread : Pattern.ofText? ("^(?:" ++ source ++ ")$") with
  | none => simp [hread] at hp
  | some q => simpa [hread] using hp

/-- A value that is not null satisfies a pattern check if its text is matched in full. -/
theorem CheckKind.meets_iff (hcontained : ∀ source ∈ sources, Pattern.Contained source)
    (h : CheckKind.ofPatterns sources matchAll = .ok kind) (value : Value) (now : Instant) :
    value.meets now kind = true ↔
      if matchAll then ∀ source ∈ sources, Pattern.Matches source value.text
      else ∃ source ∈ sources, Pattern.Matches source value.text := by
  obtain ⟨patterns, rfl, hpatterns⟩ := CheckKind.ofPatterns_ok h
  clear h
  have hall : (∀ p ∈ patterns, p.matchesIn value.text = true) ↔
      ∀ source ∈ sources, Pattern.Matches source value.text := by
    induction hpatterns with
    | nil => simp
    | cons hhead _ ih =>
      rw [List.forall_mem_cons] at hcontained
      rw [List.forall_mem_cons, List.forall_mem_cons, ih hcontained.2, hcontained.1.matchesIn_iff hhead]
  have hany : (∃ p ∈ patterns, p.matchesIn value.text = true) ↔
      ∃ source ∈ sources, Pattern.Matches source value.text := by
    clear hall
    induction hpatterns with
    | nil => simp
    | cons hhead _ ih =>
      rw [List.forall_mem_cons] at hcontained
      rw [List.exists_mem_cons_iff, List.exists_mem_cons_iff, ih hcontained.2,
        hcontained.1.matchesIn_iff hhead]
  cases matchAll with
  | true => simpa [Value.meets] using hall
  | false => simpa [Value.meets] using hany

/-- A check made of texts that are patterns by themselves asks for full matches of them. -/
theorem CheckKind.meets_iff_of_patterns (hpatterns : ∀ source ∈ sources, (Pattern.ofText? source).isSome)
    (h : CheckKind.ofPatterns sources matchAll = .ok kind) (value : Value) (now : Instant) :
    value.meets now kind = true ↔
      if matchAll then ∀ source ∈ sources, Pattern.Matches source value.text
      else ∃ source ∈ sources, Pattern.Matches source value.text :=
  meets_iff (fun source hsource => Pattern.contained_of_anchored (hpatterns source hsource)
    (CheckKind.ofPatterns_succeeds.mp ⟨kind, h⟩ source hsource)) h value now

/-- For texts that keep to their groups, a check can be made if each of them is a pattern by itself. And if each is
one, a value that is not null satisfies the check made if its whole text matches all of the patterns, or any. -/
theorem CheckKind.ofPatterns_matches (sources : List String) (matchAll : Bool) :
    ((∀ source ∈ sources, Pattern.Contained source) →
      ((∃ kind, CheckKind.ofPatterns sources matchAll = .ok kind) ↔
        ∀ source ∈ sources, (Pattern.ofText? source).isSome)) ∧
    ((∀ source ∈ sources, (Pattern.ofText? source).isSome) →
      ∀ check : Check, CheckKind.ofPatterns sources matchAll = .ok check.kind →
        ∀ (languages : Languages) (now : Instant) (owner : Option Object) (value : Value) (context : Context)
          (store : Store), value.isNull = false →
          ∃ answer, check.isSatisfied languages now owner value context store = .ok answer ∧
            (answer = true ↔
              if matchAll then ∀ source ∈ sources, Pattern.Matches source value.text
              else ∃ source ∈ sources, Pattern.Matches source value.text)) := by
  constructor
  · intro hcontained
    rw [CheckKind.ofPatterns_succeeds]
    refine forall₂_congr fun source hsource => ?_
    rw [(hcontained source hsource).ofText?_anchored, Option.isSome_map]
  · intro hpatterns check hcheck languages now owner value context store hvalue
    have hmeets := CheckKind.meets_iff_of_patterns hpatterns hcheck value now
    obtain ⟨patterns, hkind, -⟩ := CheckKind.ofPatterns_ok hcheck
    refine ⟨value.meets now check.kind, ?_, hmeets⟩
    simp [Check.isSatisfied, hkind, hvalue]

/-- Plates of two letters and digits, the first letter an A. The second text ends in a comment, and its line. -/
def plateSources : List String := ["[A-Z]{2}[0-9]+", "(?x) A . [0-9 ]+ # digits\n"]

def plateCheck : Check := { kind := (CheckKind.ofPatterns plateSources true).toOption.getD .notNull }

theorem plateSources_contained : ∀ source ∈ plateSources, Pattern.Contained source := by decide +kernel

theorem CheckKind.ofPatterns_matches_plate :
    (∃ kind, CheckKind.ofPatterns plateSources true = .ok kind) ∧
      (∀ source ∈ plateSources, Pattern.Matches source "AB12") ∧
      ¬ ∀ source ∈ plateSources, Pattern.Matches source "AB12x" := by
  obtain ⟨hmade, hmatches⟩ := CheckKind.ofPatterns_matches plateSources true
  have hpatterns : ∀ source ∈ plateSources, (Pattern.ofText? source).isSome := by decide +kernel
  refine ⟨(hmade plateSources_contained).mpr hpatterns, ?_, ?_⟩
  · obtain ⟨answer, hanswer, hiff⟩ :=
      hmatches hpatterns plateCheck rfl {} default none (.string "AB12") default {} rfl
    cases hanswer
    exact hiff.mp rfl
  · obtain ⟨answer, hanswer, hiff⟩ :=
      hmatches hpatterns plateCheck rfl {} default none (.string "AB12x") default {} rfl
    cases hanswer
    exact fun h => absurd (hiff.mpr h) (by decide +kernel)

/-- A text that is no pattern may be one between anchors, where a parenthesis closes the group, and matches then
what starts or ends in a certain way. A text that is a pattern may be none between anchors, where a comment swallows
the parenthesis. -/
theorem CheckKind.ofPatterns_uncontained :
    ((Pattern.ofText? "a)|(?:b").isSome = false ∧
      ∃ kind, CheckKind.ofPatterns ["a)|(?:b"] true = .ok kind ∧
        ∀ now, (Value.string "ax").meets now kind = true ∧ (Value.string "xb").meets now kind = true) ∧
    (Pattern.ofText? "(?x)a # letter").isSome = true ∧
      ¬ ∃ kind, CheckKind.ofPatterns ["(?x)a # letter"] true = .ok kind := by
  refine ⟨⟨by decide +kernel, _, rfl, fun now => ⟨rfl, rfl⟩⟩, by decide +kernel, ?_⟩
  have hswallowed : Pattern.ofText? ("^(?:" ++ "(?x)a # letter" ++ ")$") = none :=
    Pattern.ofText?_swallowed (by decide +kernel)
  rw [CheckKind.ofPatterns_succeeds, List.forall_mem_singleton, hswallowed]
  exact Bool.false_ne_true

end ObjectConstraints
