import ObjectConstraints.Proofs.PatternReading

/-!
# Reading classes with a parenthesis behind the text

Between brackets a parenthesis stands for itself, so a class that is not closed takes the one behind the text
for an item and is refused at the end all the same. Classes nest, and the fuel for them differs between the two
texts; it is enough for both if there is more of it than characters (`classItems_tracks`).
-/

namespace ObjectConstraints.Pattern

@[grind →]
theorem primitive_consumes : Consumes primitive := by
  intro i x o h
  grind [primitive, Input.rest_withRest]

theorem primitive_reader : Reader primitive := by
  refine .of_consumes primitive_consumes fun i c rest hrest => ?_
  simp only [primitive, Input.rest_enclosed, hrest, List.cons_append]
  split
  · exact escape_reader.follows .enclosed
  · repeat' split
    all_goals exact .read .enclosed

-- ---------------------------------------------------------------------------
-- Classes
-- ---------------------------------------------------------------------------

@[grind →]
theorem classPrimitive_consumes : Consumes classPrimitive := by
  intro i x o h
  grind [classPrimitive, Input.rest_withRest]

theorem classPrimitive_reader : Reader classPrimitive := by
  refine .of_consumes classPrimitive_consumes fun i c rest hrest => ?_
  simp only [classPrimitive, Input.rest_enclosed, hrest, List.cons_append]
  split
  · exact escape_reader.follows .enclosed
  · exact .read .enclosed

/-- Whether a character other than the parenthesis comes next does not depend on the parenthesis. -/
theorem Follows.at (h : Follows i i') (c : Char) (hc : c ≠ ')') :
    (∃ rest, i.rest = c :: rest ∧ i' = i.enclosed) ∨
      (∀ rest, i.rest ≠ c :: rest) ∧ ∀ rest, i'.rest ≠ c :: rest := by
  rcases h.head with ⟨d, rest, hrest, rfl⟩ | ⟨hrest, rfl | rfl⟩
  · by_cases hd : d = c
    · exact .inl ⟨rest, hd ▸ hrest, rfl⟩
    · exact .inr ⟨by simp [hrest, hd], by simp [hrest, hd]⟩
  · exact .inr ⟨by simp [hrest], by simp [hrest]⟩
  · exact .inr ⟨by simp [hrest], by simp [hrest, closing, Ne.symm hc]⟩

theorem Follows.head?_eq (h : Follows i i') (c : Char) (hc : c ≠ ')') :
    (i'.rest.head? == some c) = (i.rest.head? == some c) := by
  rcases h.head with ⟨d, rest, hrest, rfl⟩ | ⟨hrest, rfl | rfl⟩
  · simp [hrest]
  · rfl
  · simp [hrest, closing, Ne.symm hc]

theorem rangeFrom_trims (first : Primitive) : Trims (rangeFrom first) := by
  intro i x o h
  grind [rangeFrom, Input.suffix_next, Option.bind_eq_some_iff, Option.map_eq_some_iff]

theorem rangeFrom_reader (first : Primitive) : Reader (rangeFrom first) := by
  refine ⟨rangeFrom_trims first, fun i => ?_⟩
  rcases (Follows.enclosed (i := i)).at '-' (by decide) with ⟨rest, hrest, -⟩ | ⟨hother, hother'⟩
  · have hnext := Follows.next i rest
    simp only [rangeFrom, Input.rest_enclosed, hrest, List.cons_append, hnext.head?_eq ']' (by decide),
      hnext.head?_eq '-' (by decide)]
    split
    · exact .ofOption .enclosed
    · refine .bind (classPrimitive_reader.follows hnext) ?_ ?_
      · grind [Option.map_eq_some_iff]
      · exact fun _ _ _ _ h => .ofOption h
  · simp only [rangeFrom]
    exact .ofOption .enclosed

theorem classRange_consumes : Consumes classRange := by
  intro i x o h
  obtain ⟨⟨first, after⟩, hfirst, hrange⟩ := Option.bind_eq_some_iff.mp h
  obtain ⟨c, rest, hrest, hafter⟩ := classPrimitive_consumes i first after hfirst
  exact ⟨c, rest, hrest, (rangeFrom_trims first _ x o hrange).trans (after.suffix_skip.trans hafter)⟩

theorem classRange_reader : Reader classRange := by
  refine .of_consumes classRange_consumes fun i c rest hrest => ?_
  refine .bind (classPrimitive_reader.tracks i) ?_ fun first _ _ _ h => (rangeFrom_reader first).follows h.skip
  exact fun first o x p h => (rangeFrom_trims first _ _ _ h).trans o.suffix_skip

/-- A mark without characters of the closing is found where it is found without the closing. -/
theorem isPrefixOf_append_closing {mark : List Char} (hmark : ∀ c ∈ mark, c ∉ closing) (cs : List Char) :
    mark.isPrefixOf (cs ++ closing) = mark.isPrefixOf cs := by
  induction cs generalizing mark with
  | nil =>
    cases mark with
    | nil => rfl
    | cons m mark =>
      have : m ≠ ')' := by
        rintro rfl
        exact hmark _ List.mem_cons_self (by decide)
      simp [closing, List.isPrefixOf, this]
  | cons c cs ih =>
    cases mark with
    | nil => rfl
    | cons m mark =>
      have := ih fun c hc => hmark c (List.mem_cons_of_mem m hc)
      simp [List.isPrefixOf, this]

theorem splitAtMark_append_closing {mark : List Char} (hmark : ∀ c ∈ mark, c ∉ closing) (hne : mark ≠ [])
    (cs : List Char) : splitAtMark mark (cs ++ closing) =
      (splitAtMark mark cs).map fun (before, after) => (before, after ++ closing) := by
  induction cs with
  | nil =>
    obtain ⟨m, mark, rfl⟩ := List.exists_cons_of_ne_nil hne
    have hm : m ∉ closing := hmark m List.mem_cons_self
    simp only [closing, List.mem_cons, List.not_mem_nil, or_false, not_or] at hm
    simp [closing, splitAtMark, List.isPrefixOf, hm.1, hm.2]
  | cons c cs ih =>
    have hprefix := isPrefixOf_append_closing hmark (c :: cs)
    rw [List.cons_append] at hprefix
    simp only [splitAtMark, List.cons_append, hprefix, ih]
    split
    · next h =>
      have hlength := (List.isPrefixOf_iff_prefix.mp h).length_le
      rw [← List.cons_append, List.drop_append_of_le_length hlength]
      rfl
    · simp [Option.map_map, Function.comp_def]

theorem suffix_splitAtMark {mark : List Char} (h : splitAtMark mark cs = some (before, after)) :
    after <:+ cs := by
  induction cs generalizing before after with
  | nil => cases h
  | cons c cs ih =>
    simp only [splitAtMark] at h
    split at h
    · cases h
      exact List.drop_suffix _ _
    · obtain ⟨⟨before', after'⟩, hsplit, hafter⟩ := Option.map_eq_some_iff.mp h
      cases hafter
      exact (ih hsplit).trans (List.suffix_cons c cs)

theorem posixName_append_closing (negated : Bool) (cs : List Char) : posixName negated (cs ++ closing) =
    (posixName negated cs).map fun (item, after) => (item, after ++ closing) := by
  rw [posixName, splitAtMark_append_closing (by simp [closing]) (by simp), posixName]
  cases splitAtMark [':', ']'] cs with
  | none => rfl
  | some split =>
    obtain ⟨name, rest⟩ := split
    simp only [Option.map_some, Option.bind_eq_bind, Option.bind_some]
    split <;> rfl

theorem posixClass_append_closing (cs : List Char) : posixClass (cs ++ closing) =
    (posixClass cs).map fun (item, after) => (item, after ++ closing) := by
  cases cs with
  | nil => rfl
  | cons c rest =>
    by_cases hc : c = ':'
    · subst hc
      cases rest with
      | nil => exact posixName_append_closing false []
      | cons d more =>
        by_cases hd : d = '^'
        · subst hd
          exact posixName_append_closing true more
        · simpa [posixClass, hd] using posixName_append_closing false (d :: more)
    · simp [posixClass, hc]

theorem suffix_posixName (h : posixName negated cs = some (item, after)) : after <:+ cs := by
  obtain ⟨⟨name, rest⟩, hsplit, hname⟩ := Option.bind_eq_some_iff.mp h
  simp only at hname
  split at hname
  · cases hname
    exact suffix_splitAtMark hsplit
  · cases hname

theorem suffix_posixClass (h : posixClass cs = some (item, after)) : after <:+ cs := by
  unfold posixClass at h
  split at h
  · exact (suffix_posixName h).trans ((List.suffix_cons _ _).trans (List.suffix_cons _ _))
  · exact (suffix_posixName h).trans (List.suffix_cons _ _)
  · cases h

theorem suffix_leadingHyphens (i : Input) (n : Nat) (read : List ClassItem) :
    (leadingHyphens i n read).2.rest <:+ i.rest := by
  induction n generalizing i read with
  | zero => grind [leadingHyphens]
  | succ n ih => grind [leadingHyphens, Input.suffix_next]

theorem leadingHyphens_tracks (h : Follows i i') (hn : i.rest.length < n) (hm : i'.rest.length < m)
    (read : List ClassItem) : Tracks (some (leadingHyphens i n read)) (some (leadingHyphens i' m read)) := by
  induction n generalizing i i' m read with
  | zero => omega
  | succ n ih =>
    obtain ⟨m, rfl⟩ : ∃ k, m = k + 1 := ⟨m - 1, by omega⟩
    rcases h.at '-' (by decide) with ⟨rest, hrest, rfl⟩ | ⟨hother, hother'⟩
    · simp only [leadingHyphens, Input.rest_enclosed, hrest, List.cons_append]
      refine ih (.next i rest) ?_ ?_ _ <;> grind [Input.length_next_le, Input.rest_enclosed]
    · simp only [leadingHyphens]
      exact .read h

theorem suffix_negation (i : Input) : (negation i).2.rest <:+ i.rest := by
  grind [negation, Input.suffix_next]

theorem negation_tracks (h : Follows i i') : Tracks (some (negation i)) (some (negation i')) := by
  rcases h.at '^' (by decide) with ⟨rest, hrest, rfl⟩ | ⟨hother, hother'⟩
  · simp only [negation, Input.rest_enclosed, hrest, List.cons_append]
    exact .read (.next i rest)
  · simp only [negation]
    exact .read h

theorem suffix_classStart (i : Input) : (classStart i).2.rest <:+ i.rest := by
  grind [classStart, Input.suffix_next, Input.suffix_skip, suffix_negation, suffix_leadingHyphens]

theorem classStart_tracks (h : Follows i i') : Tracks (some (classStart i)) (some (classStart i')) := by
  have hnegation := negation_tracks h.skip
  unfold classStart
  generalize negation i.skip = read at hnegation ⊢
  generalize negation i'.skip = read' at hnegation ⊢
  cases hnegation with
  | @read negated o o' h =>
    have hhyphens := leadingHyphens_tracks h (Nat.lt_succ_self _) (Nat.lt_succ_self _) []
    simp only
    generalize leadingHyphens o _ [] = read at hhyphens ⊢
    generalize leadingHyphens o' _ [] = read' at hhyphens ⊢
    cases hhyphens with
    | @read items o o' h =>
      simp only
      rcases h.at ']' (by decide) with ⟨rest, hrest, rfl⟩ | ⟨hother, hother'⟩
      · simp only [Input.rest_enclosed, hrest, List.cons_append]
        split
        · exact .read (.next o rest)
        · exact .read h
      · split
        · next heq => exact absurd heq (hother _)
        · exact .read h

theorem setOperator?_append_closing (cs : List Char) : setOperator? (cs ++ closing) =
    (setOperator? cs).map fun (operator, rest) => (operator, rest ++ closing) := by
  match cs with
  | [] => rfl
  | [c] => simp [setOperator?, closing]
  | c :: d :: rest =>
    simp only [setOperator?, List.cons_append]
    split <;> simp_all

theorem suffix_setOperator? (h : setOperator? (c :: cs) = some (operator, rest)) : rest <:+ cs := by
  unfold setOperator? at h
  split at h
  · next heq => cases heq; cases h; exact List.suffix_cons _ _
  · next heq => cases heq; cases h; exact List.suffix_cons _ _
  · next heq => cases heq; cases h; exact List.suffix_cons _ _
  · cases h

theorem classItems_consumes {n : Nat} {waiting : Option (SetOperator × ClassItem)} {items : List ClassItem}
    (h : classItems n i waiting items = some (x, o)) :
    ∃ c rest, i.skip.rest = c :: rest ∧ o.rest <:+ rest := by
  induction n generalizing i waiting items x o with
  | zero => cases h
  | succ n ih =>
    have hless {i o : Input} {x : ClassItem} {waiting : Option (SetOperator × ClassItem)}
        {items : List ClassItem} (h : classItems n i waiting items = some (x, o)) : o.rest <:+ i.rest := by
      obtain ⟨c, rest, hrest, hsuffix⟩ := ih h
      exact hsuffix.trans (suffix_of_cons (hrest ▸ i.suffix_skip))
    simp only [classItems] at h
    split at h
    · cases h
    · next c rest hrest =>
      refine ⟨c, rest, hrest, ?_⟩
      split at h
      · split at h
        · next hnamed => exact (hless h).trans (suffix_posixClass hnamed)
        · obtain ⟨⟨item, o₁⟩, hinner, h⟩ := Option.bind_eq_some_iff.mp h
          exact (hless h).trans ((hless hinner).trans (suffix_classStart _))
      · split at h
        · cases h
          exact List.suffix_rfl
        · split at h
          · next hoperator => exact (hless h).trans (suffix_setOperator? hoperator)
          · obtain ⟨⟨item, o₁⟩, hitem, h⟩ := Option.bind_eq_some_iff.mp h
            obtain ⟨d, rest', hrest', hsuffix⟩ := classRange_consumes _ _ _ hitem
            cases hrest.symm.trans hrest'
            exact (hless h).trans hsuffix

theorem classItems_trims (n : Nat) (waiting : Option (SetOperator × ClassItem)) (items : List ClassItem) :
    Trims fun i => classItems n i waiting items := by
  intro i x o h
  obtain ⟨c, rest, hrest, hsuffix⟩ := classItems_consumes h
  exact hsuffix.trans (suffix_of_cons (hrest ▸ i.suffix_skip))

theorem classItems_tracks (h : Follows i i') (hn : i.rest.length < n) (hm : i'.rest.length < m)
    (waiting : Option (SetOperator × ClassItem)) (items : List ClassItem) :
    Tracks (classItems n i waiting items) (classItems m i' waiting items) := by
  induction n generalizing i i' m waiting items with
  | zero => omega
  | succ n ih =>
    obtain ⟨m, rfl⟩ : ∃ k, m = k + 1 := ⟨m - 1, by omega⟩
    refine .of_consumes (fun _ _ => classItems_consumes) (fun _ _ => classItems_consumes) h.skip
      fun c rest hrest hskip => ?_
    have hlength := i.length_skip_le
    have hlength' := i'.length_skip_le
    simp only [hskip, hrest, Input.rest_enclosed, List.length_append, List.length_cons, length_closing]
      at hlength hlength'
    -- What is read next leaves less than there was, so the fuel that is left is enough for it.
    have hmore {o o' : Input} (waiting : Option (SetOperator × ClassItem)) (items : List ClassItem)
        (h : Follows o o') (hless : o.rest.length ≤ rest.length) :
        Tracks (classItems n o waiting items) (classItems m o' waiting items) := by
      have := h.length_le
      exact ih h (by omega) (by omega) waiting items
    have hoperator := setOperator?_append_closing (c :: rest)
    rw [List.cons_append] at hoperator
    simp only [classItems, hskip, Input.rest_enclosed, hrest, List.cons_append, posixClass_append_closing,
      hoperator]
    split
    · cases hposix : posixClass rest with
      | some named => exact hmore _ _ .enclosed (suffix_posixClass hposix).length_le
      | none =>
        have hstart := classStart_tracks (.enclosed (i := i.skip.withRest rest))
        have hless := (suffix_classStart (i.skip.withRest rest)).length_le
        change Tracks (some (classStart _))
          (some (classStart (i.skip.enclosed.withRest (rest ++ closing)))) at hstart
        simp only [Option.map_none]
        generalize classStart (i.skip.withRest rest) = start at hstart hless ⊢
        generalize classStart (i.skip.enclosed.withRest (rest ++ closing)) = start' at hstart ⊢
        cases hstart with
        | @read inner o o' h =>
          refine .bind (hmore none inner.2 h hless) ?_ fun item p p' hread h => hmore _ _ h ?_
          · exact fun _ o x p h => classItems_trims m _ _ o x p h
          · exact Nat.le_trans (classItems_trims n _ _ _ _ _ hread).length_le hless
    · split
      · exact .read .enclosed
      · cases hfound : setOperator? (c :: rest) with
        | some found =>
          exact hmore _ _ .enclosed (suffix_setOperator? hfound).length_le
        | none =>
          refine .bind (classRange_reader.tracks i.skip) ?_ fun item o o' hread h => hmore _ _ h ?_
          · exact fun _ o x p h => classItems_trims m _ _ o x p h
          · obtain ⟨d, rest', hrest', hsuffix⟩ := classRange_consumes _ _ _ hread
            cases hrest.symm.trans hrest'
            exact hsuffix.length_le

@[grind →]
theorem bracketedClass_trims : Trims bracketedClass := by
  intro i x o h
  obtain ⟨⟨item, o⟩, hread, h⟩ := Option.bind_eq_some_iff.mp h
  cases h
  exact (classItems_trims _ _ _ _ _ _ hread).trans (suffix_classStart i)

theorem bracketedClass_reader : Reader bracketedClass := by
  refine ⟨bracketedClass_trims, fun i => ?_⟩
  have hstart := classStart_tracks (.enclosed (i := i))
  unfold bracketedClass
  generalize classStart i = start at hstart ⊢
  generalize classStart i.enclosed = start' at hstart ⊢
  cases hstart with
  | @read inner o o' h =>
    refine .bind (classItems_tracks h (Nat.lt_succ_self _) (Nat.lt_succ_self _) none inner.2) ?_
      fun item p p' _ h => .read h
    intro item p x q h
    cases h
    exact List.suffix_rfl

end ObjectConstraints.Pattern
