import ObjectConstraints.Validation.Traversal

/-!
# Rendering of messages

Rendering reads a template once from the left (`Message.Renders`): where a placeholder starts it puts the
first value of that name, or the placeholder itself, and goes on after it; other characters stay. A rendered
template is the only text so obtained (`renders_iff`). What stands around a placeholder is rendered as if
it stood alone, so a value is put in as it is, whatever it contains (`render_around`).
-/

namespace ObjectConstraints

namespace Message

/-- Whether characters are a name that a placeholder can have. -/
def IsName (name : List Char) : Prop :=
  ∃ first others, name = first :: others ∧ isNameStart first ∧ ∀ c ∈ others, isNamePart c

/-- A name as a placeholder. -/
def braced (name : List Char) : List Char := '\x7b' :: (name ++ ['\x7d'])

/-- What a placeholder is replaced by: the first value of its name, or nothing new. -/
def replacement (values : List (String × String)) (name : List Char) : List Char :=
  ((values.lookup (String.ofList name)).map String.toList).getD (braced name)

/-- Whether a placeholder starts a text. -/
def StartsPlaceholder (cs : List Char) : Prop := ∃ name rest, IsName name ∧ cs = braced name ++ rest

/-- What becomes of a text that is read once from the left. -/
inductive Renders (values : List (String × String)) : List Char → List Char → Prop where
  | nil : Renders values [] []
  | placeholder {name rest out : List Char} (hname : IsName name) (more : Renders values rest out) :
      Renders values (braced name ++ rest) (replacement values name ++ out)
  | char {c : Char} {cs out : List Char} (hplain : ¬ StartsPlaceholder (c :: cs))
      (more : Renders values cs out) : Renders values (c :: cs) (c :: out)

-- ---------------------------------------------------------------------------
-- Names and placeholders
-- ---------------------------------------------------------------------------

theorem isNamePart_of_isNameStart (h : isNameStart c) : isNamePart c := by
  simp [isNamePart, h]

theorem IsName.isNamePart (h : IsName name) (hc : c ∈ name) : isNamePart c := by
  obtain ⟨first, others, rfl, hfirst, hothers⟩ := h
  rcases List.mem_cons.mp hc with rfl | hc
  · exact isNamePart_of_isNameStart hfirst
  · exact hothers c hc

/-- A name is read up to the first brace, as it has none. -/
theorem placeholder?_eq_some : placeholder? cs = some (name, rest) ↔
    IsName name ∧ cs = name ++ '\x7d' :: rest := by
  constructor
  · intro h
    cases cs with
    | nil => simp [placeholder?] at h
    | cons c cs =>
      simp only [placeholder?] at h
      split at h
      case isFalse => cases h
      case isTrue hc =>
        split at h
        case h_2 => cases h
        case h_1 after hafter =>
          cases h
          refine ⟨⟨c, _, rfl, hc, List.all_eq_true.mp List.all_takeWhile⟩, ?_⟩
          rw [← hafter, List.cons_append, List.takeWhile_append_dropWhile]
  · rintro ⟨⟨first, others, rfl, hfirst, hothers⟩, rfl⟩
    have hclosed : isNamePart '\x7d' = false := by decide
    rw [List.cons_append, placeholder?, if_pos hfirst, List.dropWhile_append_of_pos hothers,
      List.takeWhile_append_of_pos hothers, List.dropWhile_cons_of_neg (by simp [hclosed]),
      List.takeWhile_cons_of_neg (by simp [hclosed]), List.append_nil]
    rfl

theorem placeholder?_eq_none : placeholder? cs = none ↔ ¬ StartsPlaceholder ('\x7b' :: cs) := by
  rw [Option.eq_none_iff_forall_ne_some]
  constructor
  · rintro h ⟨name, rest, hname, hcs⟩
    refine h (name, rest) (placeholder?_eq_some.mpr ⟨hname, ?_⟩)
    simpa [braced] using hcs
  · rintro h ⟨name, rest⟩ hsome
    obtain ⟨hname, rfl⟩ := placeholder?_eq_some.mp hsome
    exact h ⟨name, rest, hname, by simp [braced]⟩

-- ---------------------------------------------------------------------------
-- Pieces
-- ---------------------------------------------------------------------------

theorem pieces_braced (hname : IsName name) (rest : List Char) :
    pieces (braced name ++ rest) = .placeholder name :: pieces rest := by
  have hread : placeholder? (name ++ '\x7d' :: rest) = some (name, rest) :=
    placeholder?_eq_some.mpr ⟨hname, rfl⟩
  rw [braced, List.cons_append, List.append_assoc, List.singleton_append, pieces, if_pos rfl]
  split
  · next heq => cases hread.symm.trans heq; rfl
  · next heq => cases hread.symm.trans heq

theorem pieces_char (hplain : ¬ StartsPlaceholder (c :: cs)) : pieces (c :: cs) = .char c :: pieces cs := by
  rw [pieces]
  split
  · next hbrace =>
    subst hbrace
    have hnone := placeholder?_eq_none.mpr hplain
    split
    · next heq => cases hnone.symm.trans heq
    · rfl
  · rfl

/-- A text is read piece by piece: it is empty, or a placeholder starts it, or else its first character
stands for itself. -/
theorem pieces_induction {motive : List Char → Prop} (nil : motive [])
    (placeholder : ∀ name rest, IsName name → motive rest → motive (braced name ++ rest))
    (char : ∀ c cs, ¬ StartsPlaceholder (c :: cs) → motive cs → motive (c :: cs)) (cs : List Char) :
    motive cs := by
  induction hlength : cs.length using Nat.strongRecOn generalizing cs with
  | ind length ih =>
    subst hlength
    cases cs with
    | nil => exact nil
    | cons c cs =>
      by_cases hstart : StartsPlaceholder (c :: cs)
      · obtain ⟨name, rest, hname, hcs⟩ := hstart
        rw [hcs]
        refine placeholder name rest hname (ih rest.length ?_ rest rfl)
        simp only [hcs, braced, List.length_append, List.length_cons, List.length_nil]
        omega
      · exact char c cs hstart (ih cs.length (by simp) cs rfl)

/-- No placeholder reaches over an opening brace. -/
theorem startsPlaceholder_append_brace (h : StartsPlaceholder (c :: (cs ++ '\x7b' :: more))) :
    StartsPlaceholder (c :: cs) := by
  obtain ⟨name, rest, hname, hcs⟩ := h
  have hopen : '\x7b' ∉ name ++ ['\x7d'] := by
    intro hmem
    rcases List.mem_append.mp hmem with hmem | hmem
    · exact absurd (hname.isNamePart hmem) (by decide)
    · exact absurd (List.mem_singleton.mp hmem) (by decide)
  rw [braced, List.cons_append, List.cons.injEq] at hcs
  obtain ⟨rfl, hcs⟩ := hcs
  rcases List.append_eq_append_iff.mp hcs with ⟨left, hleft, -⟩ | ⟨rest, hrest, -⟩
  · cases left with
    | nil => exact ⟨name, [], hname, by simp_all [braced]⟩
    | cons d left =>
      obtain rfl : d = '\x7b' := by simp_all
      exact absurd (hleft ▸ by simp) hopen
  · exact ⟨name, rest, hname, by rw [hrest, braced, List.cons_append]⟩

theorem pieces_append_brace (cs more : List Char) :
    pieces (cs ++ '\x7b' :: more) = pieces cs ++ pieces ('\x7b' :: more) := by
  induction cs using pieces_induction with
  | nil => simp [pieces]
  | placeholder name rest hname ih =>
    rw [List.append_assoc, pieces_braced hname, pieces_braced hname, ih, List.cons_append]
  | char c cs hplain ih =>
    rw [List.cons_append, pieces_char (mt startsPlaceholder_append_brace hplain), pieces_char hplain, ih,
      List.cons_append]

-- ---------------------------------------------------------------------------
-- Rendering
-- ---------------------------------------------------------------------------

/-- Keys are compared as texts, so a lookup finds the first value of a name. -/
theorem render_placeholder (values : List (String × String)) (name : List Char) :
    (Piece.placeholder name).render values = replacement values name := by
  have hfind : values.lookup (String.ofList name) = (values.find? (·.1.toList == name)).map (·.2) := by
    induction values with
    | nil => rfl
    | cons entry rest ih =>
      have hkey : (String.ofList name == entry.1) = (entry.1.toList == name) := by
        rw [Bool.eq_iff_iff, beq_iff_eq, beq_iff_eq]
        constructor
        · rintro h
          rw [← h, String.toList_ofList]
        · rintro rfl
          exact String.ofList_toList
      rw [List.lookup_cons, List.find?_cons, hkey]
      cases entry.1.toList == name with
      | true => rfl
      | false => exact ih
  rw [replacement, hfind]
  cases hvalue : values.find? (·.1.toList == name) <;> simp [Piece.render, hvalue, Piece.source, braced]

/-- What a text is rendered to. -/
def renderChars (values : List (String × String)) (cs : List Char) : List Char :=
  (pieces cs).flatMap (Piece.render values)

theorem toList_render (template : String) (values : List (String × String)) :
    (render template values).toList = renderChars values template.toList :=
  String.toList_ofList

theorem renderChars_braced (hname : IsName name) (values : List (String × String)) (rest : List Char) :
    renderChars values (braced name ++ rest) = replacement values name ++ renderChars values rest := by
  rw [renderChars, pieces_braced hname, List.flatMap_cons, render_placeholder, renderChars]

theorem renderChars_char (hplain : ¬ StartsPlaceholder (c :: cs)) (values : List (String × String)) :
    renderChars values (c :: cs) = c :: renderChars values cs := by
  rw [renderChars, pieces_char hplain, List.flatMap_cons, renderChars]
  rfl

theorem renders_renderChars (values : List (String × String)) (cs : List Char) :
    Renders values cs (renderChars values cs) := by
  induction cs using pieces_induction with
  | nil => simpa [renderChars, pieces] using Renders.nil
  | placeholder name rest hname ih =>
    rw [renderChars_braced hname]
    exact .placeholder hname ih
  | char c cs hplain ih =>
    rw [renderChars_char hplain]
    exact .char hplain ih

theorem Renders.eq (h : Renders values cs out) : out = renderChars values cs := by
  induction h with
  | nil => simp [renderChars, pieces]
  | placeholder hname _ ih => rw [renderChars_braced hname, ih]
  | char hplain _ ih => rw [renderChars_char hplain, ih]

theorem renders_iff : Renders values cs out ↔ out = renderChars values cs :=
  ⟨Renders.eq, fun h => h ▸ renders_renderChars values cs⟩

theorem renderChars_append_brace (values : List (String × String)) (cs more : List Char) :
    renderChars values (cs ++ '\x7b' :: more) =
      renderChars values cs ++ renderChars values ('\x7b' :: more) := by
  rw [renderChars, pieces_append_brace, List.flatMap_append, renderChars, renderChars]

/-- A placeholder is replaced alike wherever it stands, and what is put in its place has no bearing on the
text around it. -/
theorem renderChars_around (hname : IsName name) (values : List (String × String)) (before after : List Char) :
    renderChars values (before ++ (braced name ++ after)) =
      renderChars values before ++ replacement values name ++ renderChars values after := by
  rw [List.append_assoc, ← renderChars_braced hname]
  exact renderChars_append_brace values before (name ++ ['\x7d'] ++ after)

theorem render_around (hname : IsName name) (values : List (String × String)) (before after : String) :
    render (before ++ String.ofList (braced name) ++ after) values =
      render before values ++ String.ofList (replacement values name) ++ render after values := by
  refine String.toList_inj.mp ?_
  simp only [toList_render, String.toList_append, String.toList_ofList, List.append_assoc,
    renderChars_around hname]

end Message

-- ---------------------------------------------------------------------------
-- Messages of violations
-- ---------------------------------------------------------------------------

/-- Whether values are those of a check, but for the context and the value that a violation is about, which
keep their names to themselves. -/
structure Violation.GivesValues (w : Violation) (values : List (String × String)) : Prop where
  context : values.lookup "context" = some w.context.text
  value : values.lookup "invalidValue" = some w.value.text
  others : ∀ name, name ≠ "context" → name ≠ "invalidValue" →
    values.lookup name = w.check.kind.placeholders.lookup name

theorem Traversal.violation_givesValues (env : Environment) (check : Check) (site : Site)
    (causes : List Violation) :
    let w := violation env check site causes
    ∃ values, w.GivesValues values ∧ w.message = Message.render w.template values := by
  refine ⟨("context", site.context.text) :: ("invalidValue", site.value.text) :: check.kind.placeholders,
    ⟨rfl, rfl, fun name hcontext hvalue => ?_⟩, rfl⟩
  rw [List.lookup_cons, beq_false_of_ne hcontext, List.lookup_cons, beq_false_of_ne hvalue]
  rfl

/-- A template is rendered to what a reading of it once from the left gives, and a placeholder is replaced
alike wherever it stands. The message of a violation is so obtained from values among which those of the
context and of the value are not the check's, whatever placeholders it has. -/
theorem Message.render_substitutes :
    (∀ template values out, Renders values template.toList out ↔ out = (render template values).toList) ∧
    (∀ before name after values, IsName name →
      render (before ++ String.ofList (braced name) ++ after) values =
        render before values ++ String.ofList (replacement values name) ++ render after values) ∧
    ∀ env check site causes,
      let w := Traversal.violation env check site causes
      ∃ values, w.GivesValues values ∧ Renders values w.template.toList w.message.toList := by
  refine ⟨fun template values out => ?_, fun before name after values hname => ?_, ?_⟩
  · rw [toList_render]
    exact renders_iff
  · exact render_around hname values before after
  · intro env check site causes w
    obtain ⟨values, hvalues, hmessage⟩ := Traversal.violation_givesValues env check site causes
    refine ⟨values, hvalues, renders_iff.mpr ?_⟩
    rw [hmessage, toList_render]

/-- A value that looks like a placeholder, between an open brace and a name that is never closed. -/
theorem Message.render_substitutes_braces :
    IsName ['a'] ∧ render ("\x7b" ++ "\x7ba\x7d" ++ "\x7bb") [("a", "\x7bb\x7d"), ("b", "c"), ("a", "d")] =
      "\x7b\x7bb\x7d\x7bb" := by
  have hname : IsName ['a'] := ⟨'a', [], rfl, by decide, by simp⟩
  refine ⟨hname, (render_substitutes.2.1 "\x7b" ['a'] "\x7bb" _ hname).trans ?_⟩
  simp [render, pieces, placeholder?, isNameStart, Piece.render, replacement]

end ObjectConstraints
