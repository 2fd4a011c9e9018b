import ObjectConstraints.Pattern.Parser

/-!
# Reading with a parenthesis behind the text

An expression that is made the body of a group has a closing parenthesis behind it. A function of the parser
reads from the text with the parenthesis what it reads from the text alone (`Reader`), with two exceptions. A
comment that lasts until the end of the text swallows the parenthesis (`Follows.swallowed`). And where the text
alone ends too early, the parenthesis may be taken for a part of it; then it is gone, and nothing can close the
group (`Tracks.refused`). Here this is shown for the escapes.
-/

namespace ObjectConstraints.Pattern

variable {α β : Type}

/-- What stands behind an expression that is read as a group between anchors. -/
def closing : List Char := [')', '$']

@[simp] theorem length_closing : closing.length = 2 := rfl

namespace Input

/-- The input with the closing parenthesis and the anchor behind it. -/
def enclosed (input : Input) : Input := input.withRest (input.rest ++ closing)

@[simp] theorem rest_withRest (i : Input) (rest : List Char) : (i.withRest rest).rest = rest := rfl

@[simp] theorem rest_enclosed (i : Input) : i.enclosed.rest = i.rest ++ closing := rfl

end Input

theorem suffix_dropSpacing (comment : Bool) (cs : List Char) : dropSpacing comment cs <:+ cs := by
  fun_induction dropSpacing comment cs with
  | case1 => exact List.suffix_rfl
  | case2 c cs ih => exact ih.trans (List.suffix_cons c cs)
  | case3 c cs _ ih => exact ih.trans (List.suffix_cons c cs)
  | case4 c cs _ _ ih => exact ih.trans (List.suffix_cons c cs)
  | case5 => exact List.suffix_rfl

theorem suffix_spaced (free : Bool) (cs : List Char) : spaced free cs <:+ cs := by
  unfold spaced
  split
  · exact suffix_dropSpacing false cs
  · exact List.suffix_rfl

namespace Input

theorem suffix_skip (i : Input) : i.skip.rest <:+ i.rest := suffix_spaced _ _

theorem suffix_next (i : Input) (rest : List Char) : (i.next rest).rest <:+ rest := suffix_spaced _ _

theorem length_skip_le (i : Input) : i.skip.rest.length ≤ i.rest.length := i.suffix_skip.length_le

theorem length_next_le (i : Input) (rest : List Char) : (i.next rest).rest.length ≤ rest.length :=
  (i.suffix_next rest).length_le

end Input

@[grind →]
theorem suffix_of_cons {cs l : List Char} (h : c :: cs <:+ l) : cs <:+ l :=
  (List.suffix_cons c cs).trans h

/-- Blanks and comments are dropped as without the parenthesis behind them, or a comment lasts until the end
and swallows it. -/
theorem dropSpacing_append_closing (comment : Bool) (cs : List Char) :
    dropSpacing comment (cs ++ closing) = dropSpacing comment cs ++ closing ∨
      dropSpacing comment cs = [] ∧ dropSpacing comment (cs ++ closing) = [] := by
  fun_induction dropSpacing comment cs with
  | case1 comment => cases comment <;> decide
  | case2 c cs ih => simpa [dropSpacing] using ih
  | case3 c cs hblank ih => simpa [dropSpacing, hblank] using ih
  | case4 c cs hblank hmark ih => simpa [dropSpacing, hblank, hmark] using ih
  | case5 c cs hblank hmark => exact .inl (by simp [dropSpacing, hblank, hmark])

-- ---------------------------------------------------------------------------
-- Readers
-- ---------------------------------------------------------------------------

/-- How what is left of a text relates to what is left of it with the parenthesis behind it. -/
inductive Follows (i : Input) : Input → Prop where
  | enclosed : Follows i i.enclosed
  /-- A comment has swallowed the parenthesis. -/
  | swallowed (h : i.rest = []) : Follows i i

theorem Follows.spaced (i : Input) (rest : List Char) :
    Follows (i.withRest (spaced i.freeSpacing rest)) (i.withRest (spaced i.freeSpacing (rest ++ closing))) := by
  cases hfree : i.freeSpacing with
  | false => exact .enclosed
  | true =>
    rcases dropSpacing_append_closing false rest with h | ⟨hleft, h⟩
    · simp only [Pattern.spaced, if_true, h]
      exact .enclosed
    · simp only [Pattern.spaced, if_true, h, hleft]
      exact .swallowed rfl

theorem Follows.next (i : Input) (rest : List Char) :
    Follows (i.next rest) (i.enclosed.next (rest ++ closing)) :=
  Follows.spaced i rest

theorem Follows.length_le (h : Follows i i') : i'.rest.length ≤ i.rest.length + 2 := by
  cases h with
  | enclosed => simp
  | swallowed => omega

/-- The next character is the same, or nothing is left. -/
theorem Follows.head (h : Follows i i') :
    (∃ c rest, i.rest = c :: rest ∧ i' = i.enclosed) ∨
      i.rest = [] ∧ (i' = i ∨ i' = i.enclosed) := by
  cases h with
  | swallowed hrest => exact .inr ⟨hrest, .inl rfl⟩
  | enclosed =>
    cases hrest : i.rest with
    | nil => exact .inr ⟨rfl, .inr rfl⟩
    | cons c rest => exact .inl ⟨c, rest, rfl, rfl⟩

theorem Follows.skip (h : Follows i i') : Follows i.skip i'.skip := by
  cases h with
  | enclosed => exact Follows.spaced i i.rest
  | swallowed hrest =>
    have : i.skip.rest = [] := by
      have := i.length_skip_le
      rw [hrest] at this
      exact List.length_eq_zero_iff.mp (by simpa using this)
    exact .swallowed this

/-- What is read from a text and from the text with the parenthesis behind it: the same, or the first is
refused and the second takes the parenthesis for a part of itself. -/
inductive Tracks : Option (α × Input) → Option (α × Input) → Prop where
  | read {x : α} {o o' : Input} (h : Follows o o') : Tracks (some (x, o)) (some (x, o'))
  | refused {r' : Option (α × Input)} (h : ∀ x o, r' = some (x, o) → o.rest <:+ ['$']) : Tracks none r'

/-- What is left after reading is an end of what was there. -/
abbrev Trims (f : Input → Option (α × Input)) : Prop :=
  ∀ i x o, f i = some (x, o) → o.rest <:+ i.rest

/-- At least one character is read. -/
abbrev Consumes (f : Input → Option (α × Input)) : Prop :=
  ∀ i x o, f i = some (x, o) → ∃ c rest, i.rest = c :: rest ∧ o.rest <:+ rest

theorem Consumes.trims {f : Input → Option (α × Input)} (h : Consumes f) : Trims f := by
  intro i x o hread
  obtain ⟨c, rest, hrest, hsuffix⟩ := h i x o hread
  rw [hrest]
  exact hsuffix.trans (List.suffix_cons c rest)

/-- A function that reads from a text what it reads with the parenthesis behind it. -/
structure Reader (f : Input → Option (α × Input)) : Prop where
  trims : Trims f
  tracks : ∀ i, Tracks (f i) (f i.enclosed)

namespace Tracks

theorem none : Tracks (α := α) none none := .refused (by simp)

/-- Where nothing is left, nothing can be left after reading. -/
theorem of_end {f : Input → Option (α × Input)} (hf : Trims f) (hrest : i.rest = []) :
    Tracks (f i) (f i) := by
  cases hread : f i with
  | none => exact .none
  | some read =>
    obtain ⟨x, o⟩ := read
    have := hf i x o hread
    rw [hrest] at this
    exact .read (.swallowed (List.suffix_nil.mp this))

theorem bind {r r' : Option (α × Input)} {g g' : α × Input → Option (β × Input)} (h : Tracks r r')
    (htrims : ∀ x, Trims fun o => g' (x, o))
    (hg : ∀ x o o', r = some (x, o) → Follows o o' → Tracks (g (x, o)) (g' (x, o'))) :
    Tracks (r.bind g) (r'.bind g') := by
  cases h with
  | read hfollows => exact hg _ _ _ rfl hfollows
  | refused hbeyond =>
    refine .refused fun y p hp => ?_
    obtain ⟨⟨x, o⟩, ho, hp⟩ := Option.bind_eq_some_iff.mp hp
    exact (htrims x o y p hp).trans (hbeyond x o ho)

theorem map {r r' : Option (α × Input)} {g : α → β} (h : Tracks r r') :
    Tracks (r.map fun (x, o) => (g x, o)) (r'.map fun (x, o) => (g x, o)) := by
  cases h with
  | read hfollows => exact .read hfollows
  | refused hbeyond =>
    refine .refused fun y p hp => ?_
    obtain ⟨⟨x, o⟩, ho, hp⟩ := Option.map_eq_some_iff.mp hp
    cases hp
    exact hbeyond x _ ho

/-- A value that does not depend on the input. -/
theorem ofOption {value? : Option β} {g : β → α} (h : Follows o o') :
    Tracks (value?.map fun y => (g y, o)) (value?.map fun y => (g y, o')) := by
  cases value? with
  | none => exact .none
  | some y => exact .read h

/-- Reading that takes at least one character has to be compared only where there is one. -/
theorem of_consumes {r r' : Option (α × Input)}
    (hr : ∀ x o, r = some (x, o) → ∃ c rest, i.rest = c :: rest ∧ o.rest <:+ rest)
    (hr' : ∀ x o, r' = some (x, o) → ∃ c rest, i'.rest = c :: rest ∧ o.rest <:+ rest) (h : Follows i i')
    (hcons : ∀ c rest, i.rest = c :: rest → i' = i.enclosed → Tracks r r') : Tracks r r' := by
  have hbefore (hrest : i.rest = []) : r = Option.none := by
    refine Option.eq_none_iff_forall_not_mem.mpr fun ⟨x, o⟩ hread => ?_
    obtain ⟨c, rest, hcons, -⟩ := hr x o hread
    simp [hrest] at hcons
  cases h with
  | swallowed hrest =>
    rw [hbefore hrest]
    refine .refused fun x o hread => ?_
    obtain ⟨c, rest, hcons, -⟩ := hr' x o hread
    simp [hrest] at hcons
  | enclosed =>
    cases hrest : i.rest with
    | cons c rest => exact hcons c rest hrest rfl
    | nil =>
      rw [hbefore hrest]
      refine .refused fun x o hread => ?_
      obtain ⟨c, rest, hclosing, hsuffix⟩ := hr' x o hread
      rw [Input.rest_enclosed, hrest] at hclosing
      cases hclosing
      exact hsuffix

end Tracks

theorem Reader.follows {f : Input → Option (α × Input)} (hf : Reader f) (h : Follows i i') :
    Tracks (f i) (f i') := by
  cases h with
  | enclosed => exact hf.tracks i
  | swallowed hrest => exact .of_end hf.trims hrest

theorem Reader.of_consumes {f : Input → Option (α × Input)} (hf : Consumes f)
    (hcons : ∀ i c rest, i.rest = c :: rest → Tracks (f i) (f i.enclosed)) : Reader f :=
  ⟨hf.trims, fun i =>
    .of_consumes (hf i) (hf i.enclosed) .enclosed fun c rest hrest _ => hcons i c rest hrest⟩

-- ---------------------------------------------------------------------------
-- Escapes
-- ---------------------------------------------------------------------------

@[grind →]
theorem hexDigits_trims (n : Nat) (read : List Char) : Trims (hexDigits · n read) := by
  intro i x o h
  induction n generalizing i read with
  | zero => grind [hexDigits]
  | succ n ih => grind [hexDigits, Input.suffix_next]

@[grind →]
theorem hexDigits_consumes (n : Nat) (read : List Char) : Consumes (hexDigits · (n + 1) read) := by
  intro i x o h
  grind [hexDigits, Input.suffix_next]

theorem hexDigits_reader (n : Nat) (read : List Char) : Reader (hexDigits · n read) := by
  induction n generalizing read with
  | zero => exact ⟨hexDigits_trims 0 read, fun i => .read .enclosed⟩
  | succ n ih =>
    refine .of_consumes (hexDigits_consumes n read) fun i c rest hrest => ?_
    simp only [hexDigits, Input.rest_enclosed, hrest, List.cons_append]
    split
    · exact (ih _).follows (.next i rest)
    · exact .none

@[grind →]
theorem bracedHex_consumes (n : Nat) (read : List Char) : Consumes (bracedHex · n read) := by
  intro i x o h
  induction n generalizing i read with
  | zero => grind [bracedHex]
  | succ n ih => grind [bracedHex, Input.suffix_next]

/-- With fuel for all that is left, a loop does not depend on how much it has. -/
theorem bracedHex_tracks (h : Follows i i') (hn : i.rest.length < n) (hm : i'.rest.length < m)
    (read : List Char) : Tracks (bracedHex i n read) (bracedHex i' m read) := by
  induction n generalizing i i' m read with
  | zero => omega
  | succ n ih =>
    refine .of_consumes (bracedHex_consumes _ _ i) (bracedHex_consumes _ _ i') h fun c rest hrest hi' => ?_
    subst hi'
    obtain ⟨m, rfl⟩ : ∃ k, m = k + 1 := ⟨m - 1, by omega⟩
    simp only [bracedHex, Input.rest_enclosed, hrest, List.cons_append]
    split
    · exact .read (.next i rest)
    · split
      · refine ih (.next i rest) ?_ ?_ _ <;> grind [Input.length_next_le, Input.rest_enclosed]
      · exact .none

@[grind →]
theorem hexLiteral_consumes (kind : Char) : Consumes (hexLiteral kind) := by
  intro i x o h
  grind [hexLiteral, Input.suffix_next, Option.bind_eq_some_iff, Option.map_eq_some_iff]

theorem hexLiteral_reader (kind : Char) : Reader (hexLiteral kind) := by
  refine .of_consumes (hexLiteral_consumes kind) fun i c rest hrest => ?_
  simp only [hexLiteral, Input.rest_enclosed, hrest, List.cons_append]
  split
  · refine .bind (bracedHex_tracks (.next i rest) ?_ ?_ []) ?_ ?_
    · grind [Input.length_next_le]
    · grind [Input.length_next_le]
    · grind [Option.map_eq_some_iff]
    · intro digits o o' _ h
      split
      · exact .none
      · exact .ofOption h
  · refine .bind ((hexDigits_reader _ []).tracks i) ?_ ?_
    · grind [Option.map_eq_some_iff]
    · exact fun _ _ _ _ h => .ofOption h

@[grind →]
theorem bracedName_consumes (n : Nat) (read : List Char) : Consumes (bracedName · n read) := by
  intro i x o h
  induction n generalizing i read with
  | zero => grind [bracedName]
  | succ n ih => grind [bracedName, Input.suffix_next, Input.rest_withRest]

theorem bracedName_tracks (h : Follows i i') (hn : i.rest.length < n) (hm : i'.rest.length < m)
    (read : List Char) : Tracks (bracedName i n read) (bracedName i' m read) := by
  induction n generalizing i i' m read with
  | zero => omega
  | succ n ih =>
    refine .of_consumes (bracedName_consumes _ _ i) (bracedName_consumes _ _ i') h fun c rest hrest hi' => ?_
    subst hi'
    obtain ⟨m, rfl⟩ : ∃ k, m = k + 1 := ⟨m - 1, by omega⟩
    simp only [bracedName, Input.rest_enclosed, hrest, List.cons_append]
    split
    · exact .read .enclosed
    · refine ih (.next i rest) ?_ ?_ _ <;> grind [Input.length_next_le, Input.rest_enclosed]

@[grind →]
theorem property_consumes : Consumes property := by
  intro i x o h
  grind [property, Input.suffix_next, Input.rest_withRest, Option.map_eq_some_iff]

theorem property_reader : Reader property := by
  refine .of_consumes property_consumes fun i c rest hrest => ?_
  simp only [property, Input.rest_enclosed, hrest, List.cons_append]
  split
  · refine .map (bracedName_tracks (.next i rest) ?_ ?_ [])
    · grind [Input.length_next_le]
    · grind [Input.length_next_le]
  · split
    · exact .none
    · exact .read .enclosed

theorem suffix_boundaryName (i : Input) (n : Nat) (read : List Char) :
    (boundaryName i n read).2.rest <:+ i.rest := by
  induction n generalizing i read with
  | zero => grind [boundaryName]
  | succ n ih => grind [boundaryName, Input.suffix_next]

theorem boundaryName_tracks (h : Follows i i') (hn : i.rest.length < n) (hm : i'.rest.length < m)
    (read : List Char) : Tracks (some (boundaryName i n read)) (some (boundaryName i' m read)) := by
  induction n generalizing i i' m read with
  | zero => omega
  | succ n ih =>
    obtain ⟨m, rfl⟩ : ∃ k, m = k + 1 := ⟨m - 1, by omega⟩
    rcases h.head with ⟨c, rest, hrest, rfl⟩ | ⟨hrest, rfl | rfl⟩
    · simp only [boundaryName, Input.rest_enclosed, hrest, List.cons_append]
      split
      · refine ih (.next i rest) ?_ ?_ _ <;> grind [Input.length_next_le, Input.rest_enclosed]
      · exact .read .enclosed
    · simp only [boundaryName, hrest]
      exact .read (.swallowed hrest)
    · simp only [boundaryName, Input.rest_enclosed, hrest]
      exact .read .enclosed

@[grind →]
theorem boundaryKind_trims : Trims boundaryKind := by
  intro i x o h
  grind [boundaryKind, Input.suffix_next, Input.rest_withRest, suffix_boundaryName, Option.map_eq_some_iff]

theorem boundaryKind_reader : Reader boundaryKind := by
  refine ⟨boundaryKind_trims, fun i => ?_⟩
  cases hrest : i.rest with
  | nil =>
    simp only [boundaryKind, Input.rest_enclosed, hrest]
    exact .read .enclosed
  | cons c rest =>
    simp only [boundaryKind, Input.rest_enclosed, hrest, List.cons_append]
    split
    · exact .read .enclosed
    · have htracks := boundaryName_tracks (n := (i.next rest).rest.length + 1)
        (m := (i.enclosed.next (rest ++ closing)).rest.length + 1) (.next i rest) (by omega) (by omega) []
      generalize boundaryName (i.next rest) _ [] = read at htracks ⊢
      generalize boundaryName (i.enclosed.next (rest ++ closing)) _ [] = read' at htracks ⊢
      cases htracks with
      | @read name after after' h =>
        simp only
        split
        · exact .read .enclosed
        · rcases h.head with ⟨d, rest, hrest, rfl⟩ | ⟨hrest, rfl | rfl⟩
          · simp only [Input.rest_enclosed, hrest, List.cons_append]
            split
            · next heq =>
              cases heq
              exact .ofOption .enclosed
            · next hother =>
              split
              · next heq =>
                cases heq
                exact absurd rfl (hother rest)
              · exact .none
          · simp only [hrest]
            exact .none
          · simp only [Input.rest_enclosed, hrest]
            exact .none

@[grind →]
theorem escape_consumes : Consumes escape := by
  intro i x o h
  grind [escape, Input.suffix_next, Input.rest_withRest, Option.map_eq_some_iff]

theorem escape_reader : Reader escape := by
  refine .of_consumes escape_consumes fun i c rest hrest => ?_
  simp only [escape, Input.rest_enclosed, hrest, List.cons_append]
  split
  · exact .none
  · split
    · exact .map ((hexLiteral_reader c).follows (.next i rest))
    · split
      · exact .map (property_reader.follows (.next i rest))
      · split
        · exact .read .enclosed
        · split
          all_goals first
            | exact .read .enclosed
            | exact .none
            | exact .map (boundaryKind_reader.follows .enclosed)

end ObjectConstraints.Pattern
