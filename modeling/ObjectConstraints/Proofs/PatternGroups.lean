import ObjectConstraints.Proofs.PatternClasses

/-!
# Reading groups with a parenthesis behind the text

Flags, repetitions and the pieces of a branch, and from them the branches of a whole text
(`readText_tracks`). The parser goes on after a piece by functions it is given; what those have to satisfy is
asked of them only for texts shorter than the one before, which carries the induction on the fuel.
-/

namespace ObjectConstraints.Pattern

-- ---------------------------------------------------------------------------
-- Flags and names of groups
-- ---------------------------------------------------------------------------

theorem suffix_flagSettings {read : FlagSettings}
    (h : flagSettings cs negating dangling read = some (settings, rest)) : rest <:+ cs := by
  induction cs generalizing negating dangling read with
  | nil => cases h
  | cons c cs ih => grind [flagSettings]

/-- Flags end where they end without the closing, or at the parenthesis of the closing. -/
theorem flagSettings_append_closing (cs : List Char) (negating dangling : Bool) (read : FlagSettings) :
    (∃ settings rest, flagSettings cs negating dangling read = some (settings, rest) ∧
        flagSettings (cs ++ closing) negating dangling read = some (settings, rest ++ closing)) ∨
      flagSettings cs negating dangling read = none ∧
        ∀ settings rest, flagSettings (cs ++ closing) negating dangling read = some (settings, rest) →
          rest = closing := by
  induction cs generalizing negating dangling read with
  | nil =>
    refine .inr ⟨rfl, fun settings rest h => ?_⟩
    cases dangling <;> simp_all [flagSettings, closing]
  | cons c cs ih =>
    simp only [flagSettings, List.cons_append]
    split
    · cases dangling with
      | true => exact .inr ⟨rfl, by simp⟩
      | false => exact .inl ⟨_, _, rfl, rfl⟩
    · split
      · cases negating with
        | true => exact .inr ⟨rfl, by simp⟩
        | false => exact ih true true read
      · cases flagOf c with
        | none => exact .inr ⟨rfl, by simp⟩
        | some flag =>
          simp only
          split
          · exact .inr ⟨rfl, by simp⟩
          · exact ih negating false _

theorem suffix_flagGroup (h : flagGroup i cs = some (x, o)) : o.rest <:+ cs := by
  obtain ⟨⟨settings, rest⟩, hflags, h⟩ := Option.bind_eq_some_iff.mp h
  have := suffix_flagSettings hflags
  grind [Input.rest_withRest]

theorem flagGroup_tracks (i : Input) (cs : List Char) :
    Tracks (flagGroup i cs) (flagGroup i.enclosed (cs ++ closing)) := by
  rcases flagSettings_append_closing cs false false [] with ⟨settings, rest, hread, hread'⟩ | ⟨hread, hbeyond⟩
  · simp only [flagGroup, hread, hread', Option.bind_eq_bind, Option.bind_some]
    cases rest with
    | nil =>
      refine .refused fun x o h => ?_
      grind [closing, Input.rest_withRest]
    | cons c rest =>
      by_cases hc : c = ')'
      · subst hc
        simp only [List.cons_append]
        split
        · exact .none
        · exact .read .enclosed
      · simp only [List.cons_append]
        exact .read .enclosed
  · have hnone : flagGroup i cs = none := by simp [flagGroup, hread]
    rw [hnone]
    refine .refused fun x o h => ?_
    obtain ⟨⟨settings, rest⟩, hflags, h⟩ := Option.bind_eq_some_iff.mp h
    obtain rfl := hbeyond settings rest hflags
    grind [closing, Input.rest_withRest]

theorem suffix_namedGroup (h : namedGroup i cs = some (x, o)) : o.rest <:+ cs := by
  obtain ⟨⟨name, rest⟩, hsplit, h⟩ := Option.bind_eq_some_iff.mp h
  simp only at h
  split at h
  · cases h
  · cases h
    exact suffix_splitAtMark hsplit

theorem namedGroup_tracks (i : Input) (cs : List Char) :
    Tracks (namedGroup i cs) (namedGroup i.enclosed (cs ++ closing)) := by
  rw [namedGroup, namedGroup, splitAtMark_append_closing (by simp [closing]) (by simp)]
  cases splitAtMark ['>'] cs with
  | none => exact .none
  | some split =>
    obtain ⟨name, rest⟩ := split
    simp only [Option.map_some, Option.bind_eq_bind, Option.bind_some]
    by_cases hname : (!isGroupName name || i.names.contains name) = true
    · rw [if_pos hname, if_pos (by exact hname)]
      exact .none
    · rw [if_neg hname, if_neg (by exact hname)]
      exact .read .enclosed

theorem afterNameMark?_append_closing (cs : List Char) :
    afterNameMark? (cs ++ closing) = (afterNameMark? cs).map (· ++ closing) := by
  match cs with
  | [] => rfl
  | [c] =>
    by_cases hc : c = '<'
    · subst hc
      rfl
    · simp [afterNameMark?, closing, hc]
  | c :: d :: rest =>
    simp only [afterNameMark?, List.cons_append]
    split <;> simp_all

theorem suffix_afterNameMark? (h : afterNameMark? cs = some rest) : rest <:+ cs := by
  unfold afterNameMark? at h
  split at h
  · cases h
    exact (List.suffix_cons _ _).trans (List.suffix_cons _ _)
  · cases h
    exact List.suffix_cons _ _
  · cases h

@[grind →]
theorem opening_trims : Trims opening := by
  intro i x o h
  simp only [opening] at h
  split at h
  · next rest hrest =>
    have hless : rest <:+ i.rest := suffix_of_cons (hrest ▸ i.suffix_skip)
    split at h
    · next hmark => exact (suffix_namedGroup h).trans ((suffix_afterNameMark? hmark).trans hless)
    · exact (suffix_flagGroup h).trans hless
  · cases h
    exact i.suffix_skip

theorem opening_reader : Reader opening := by
  refine ⟨opening_trims, fun i => ?_⟩
  have h := (Follows.enclosed (i := i)).skip
  rcases h.at '?' (by decide) with ⟨rest, hrest, hskip⟩ | ⟨hother, hother'⟩
  · simp only [opening, hskip, hrest, Input.rest_enclosed, List.cons_append, afterNameMark?_append_closing]
    cases afterNameMark? rest with
    | none => exact flagGroup_tracks i.skip rest
    | some name => exact namedGroup_tracks i.skip name
  · simp only [opening]
    exact .read h

-- ---------------------------------------------------------------------------
-- Repetitions
-- ---------------------------------------------------------------------------

theorem Follows.dropBlanks (h : Follows i i') : Follows i.dropBlanks i'.dropBlanks := by
  cases h with
  | swallowed hrest => exact .swallowed (by simp [Input.dropBlanks, Unicode.trimFront, hrest])
  | enclosed =>
    have hblanks : Unicode.trimFront (i.rest ++ closing) = Unicode.trimFront i.rest ++ closing := by
      simp only [Unicode.trimFront, List.dropWhile_append]
      split
      · next hnone =>
        rw [List.isEmpty_iff.mp hnone]
        decide
      · rfl
    simp only [Input.dropBlanks, Input.rest_enclosed, hblanks]
    exact .enclosed

theorem suffix_dropBlanks (i : Input) : i.dropBlanks.rest <:+ i.rest := List.dropWhile_suffix _

theorem suffix_countDigits (i : Input) (n : Nat) (read : List Char) :
    (countDigits i n read).2.rest <:+ i.rest := by
  induction n generalizing i read with
  | zero => grind [countDigits]
  | succ n ih => grind [countDigits, Input.suffix_next]

theorem countDigits_tracks (h : Follows i i') (hn : i.rest.length < n) (hm : i'.rest.length < m)
    (read : List Char) : Tracks (some (countDigits i n read)) (some (countDigits i' m read)) := by
  induction n generalizing i i' m read with
  | zero => omega
  | succ n ih =>
    obtain ⟨m, rfl⟩ : ∃ k, m = k + 1 := ⟨m - 1, by omega⟩
    rcases h.head with ⟨c, rest, hrest, rfl⟩ | ⟨hrest, rfl | rfl⟩
    · simp only [countDigits, Input.rest_enclosed, hrest, List.cons_append]
      split
      · refine ih (.next i rest) ?_ ?_ _ <;> grind [Input.length_next_le, Input.rest_enclosed]
      · exact .read .enclosed
    · simp only [countDigits, hrest]
      exact .read (.swallowed hrest)
    · simp only [countDigits, Input.rest_enclosed, hrest]
      exact .read .enclosed

theorem suffix_skipAround (i : Input) (n : Nat) : (i.skipAround n).rest <:+ i.rest := by
  induction n generalizing i with
  | zero => grind [Input.skipAround]
  | succ n ih => grind [Input.skipAround, Input.suffix_next]

theorem Follows.skipAround (h : Follows i i') (hn : i.rest.length < n) (hm : i'.rest.length < m) :
    Follows (i.skipAround n) (i'.skipAround m) := by
  induction n generalizing i i' m with
  | zero => omega
  | succ n ih =>
    obtain ⟨m, rfl⟩ : ∃ k, m = k + 1 := ⟨m - 1, by omega⟩
    rcases h.head with ⟨c, rest, hrest, rfl⟩ | ⟨hrest, rfl | rfl⟩
    · simp only [Input.skipAround, Input.rest_enclosed, hrest, List.cons_append]
      split
      · refine ih (.next i rest) ?_ ?_ <;> grind [Input.length_next_le, Input.rest_enclosed]
      · exact .enclosed
    · simp only [Input.skipAround, hrest]
      exact .swallowed hrest
    · simp only [Input.skipAround, Input.rest_enclosed, hrest]
      exact .enclosed

@[grind →]
theorem count_trims : Trims count := by
  intro i x o h
  grind [count, suffix_dropBlanks, suffix_countDigits, suffix_skipAround]

theorem count_reader : Reader count := by
  refine ⟨count_trims, fun i => ?_⟩
  have hdigits := countDigits_tracks (Follows.enclosed (i := i)).dropBlanks
    (Nat.lt_succ_self _) (Nat.lt_succ_self _) []
  unfold count
  simp only
  generalize countDigits i.dropBlanks _ [] = read at hdigits ⊢
  generalize countDigits i.enclosed.dropBlanks _ [] = read' at hdigits ⊢
  cases hdigits with
  | @read digits o o' h =>
    simp only
    split
    · exact .none
    · exact .read (h.skipAround (Nat.lt_succ_self _) (Nat.lt_succ_self _))

theorem suffix_skipLazy (cs : List Char) : skipLazy cs <:+ cs := by
  unfold skipLazy
  split <;> simp

theorem skipLazy_append_closing (cs : List Char) : skipLazy (cs ++ closing) = skipLazy cs ++ closing := by
  cases cs with
  | nil => rfl
  | cons c cs =>
    by_cases hc : c = '?'
    · subst hc
      rfl
    · simp [skipLazy, hc]

theorem Follows.skipLazy (h : Follows i i') :
    Follows (i.withRest (skipLazy i.rest)) (i'.withRest (Pattern.skipLazy i'.rest)) := by
  cases h with
  | swallowed hrest => exact .swallowed (by simp [Pattern.skipLazy, hrest])
  | enclosed =>
    rw [Input.rest_enclosed, skipLazy_append_closing]
    exact .enclosed

@[grind →]
theorem closeRounds_trims (least : Nat) (most : Option Nat) : Trims (closeRounds least most) := by
  intro i x o h
  grind [closeRounds, Input.suffix_next, suffix_skipLazy, Input.rest_withRest]

theorem closeRounds_reader (least : Nat) (most : Option Nat) : Reader (closeRounds least most) := by
  refine ⟨closeRounds_trims least most, fun i => ?_⟩
  rcases (Follows.enclosed (i := i)).at '\x7d' (by decide) with ⟨rest, hrest, -⟩ | ⟨hother, hother'⟩
  · simp only [closeRounds, Input.rest_enclosed, hrest, List.cons_append]
    split
    · exact .none
    · exact .read (Follows.next i rest).skipLazy
  · simp only [closeRounds]
    exact .none

theorem roundsFrom_trims (least : Nat) : Trims (roundsFrom least) := by
  intro i x o h
  grind [roundsFrom, Input.suffix_next, Option.bind_eq_some_iff]

theorem roundsFrom_reader (least : Nat) : Reader (roundsFrom least) := by
  refine ⟨roundsFrom_trims least, fun i => ?_⟩
  rcases (Follows.enclosed (i := i)).at ',' (by decide) with ⟨rest, hrest, -⟩ | ⟨hother, hother'⟩
  · have hnext := Follows.next i rest
    simp only [roundsFrom, hrest, Input.rest_enclosed, List.cons_append, hnext.head?_eq '\x7d' (by decide)]
    split
    · exact (closeRounds_reader least none).follows hnext
    · refine .bind (count_reader.follows hnext) ?_ fun most o o' _ h => (closeRounds_reader _ _).follows h
      exact fun most o x p h => closeRounds_trims _ _ o x p h
  · simp only [roundsFrom]
    exact (closeRounds_reader _ _).tracks i

@[grind →]
theorem countedRounds_trims : Trims countedRounds := by
  intro i x o h
  obtain ⟨⟨least, after⟩, hcount, h⟩ := Option.bind_eq_some_iff.mp h
  exact (roundsFrom_trims least after x o h).trans ((count_trims _ _ _ hcount).trans i.suffix_skip)

theorem countedRounds_reader : Reader countedRounds := by
  refine ⟨countedRounds_trims, fun i => ?_⟩
  exact .bind (count_reader.follows (Follows.enclosed (i := i)).skip) (fun least => roundsFrom_trims least)
    fun least o o' _ h => (roundsFrom_reader least).follows h

-- ---------------------------------------------------------------------------
-- Branches
-- ---------------------------------------------------------------------------

theorem Follows.freeSpacing_eq (h : Follows i i') : i'.freeSpacing = i.freeSpacing := by
  cases h <;> rfl

theorem Follows.inSpacing (h : Follows i i') (free : Bool) :
    Follows (i.inSpacing free) (i'.inSpacing free) := by
  cases h with
  | swallowed hrest => exact .swallowed hrest
  | enclosed => exact .enclosed

theorem piece_trims : Trims piece := by
  intro i x o h
  have := i.suffix_skip
  grind [piece, Input.rest_withRest, suffix_skipLazy, Option.map_eq_some_iff]

/-- Where a branch goes on, the next piece of it takes at least one character. -/
theorem length_piece_lt (h : piece i = some (x, o)) (hx : x ≠ .stop) : o.rest.length < i.rest.length := by
  have := i.length_skip_le
  grind [piece, Input.rest_withRest, suffix_skipLazy, Option.map_eq_some_iff]

theorem piece_reader : Reader piece := by
  refine ⟨piece_trims, fun i => ?_⟩
  have h := (Follows.enclosed (i := i)).skip
  rcases h.head with ⟨c, rest, hrest, hskip⟩ | ⟨hrest, hskip | hskip⟩
  · simp only [piece, hskip, hrest, Input.rest_enclosed, List.cons_append]
    split
    · exact .read .enclosed
    · split
      · exact .map (opening_reader.follows .enclosed)
      · split
        · exact .map (bracketedClass_reader.follows .enclosed)
        · cases operatorRounds? c with
          | some bounds => exact .read (Follows.enclosed (i := i.skip.withRest rest)).skipLazy
          | none =>
            simp only
            split
            · exact .map (g := fun bounds => Piece.rounds bounds.1 bounds.2)
                (countedRounds_reader.follows .enclosed)
            · exact .map (g := fun primitive => Piece.single primitive.expression)
                (primitive_reader.follows .enclosed)
  · simp only [piece, hskip, hrest]
    exact .read (.swallowed hrest)
  · simp only [piece, hskip, hrest, Input.rest_enclosed]
    exact .read .enclosed

section Onward

variable {inner inner' : Input → Option (List Expression × Input)}
  {onward onward' : Input → List Expression → Option (List Expression × Input)} {read : List Expression}

theorem afterBranch_trims (hinner : Trims inner) (read : List Expression) :
    Trims (afterBranch inner read) := by
  intro i x o h
  unfold afterBranch at h
  split at h
  · next rest hrest =>
    obtain ⟨⟨more, o⟩, hmore, h⟩ := Option.map_eq_some_iff.mp h
    cases h
    rw [hrest]
    exact (hinner _ more o hmore).trans (List.suffix_cons _ rest)
  · cases h
    exact List.suffix_rfl

theorem closeGroup_trims (honward : ∀ read, Trims fun i => onward i read) (settings : Option FlagSettings)
    (free : Bool) (body : List Expression) : Trims (closeGroup onward read settings free body) := by
  intro i x o h
  unfold closeGroup at h
  split at h
  · next rest hrest =>
    rw [hrest]
    exact (honward _ _ x o h).trans (List.suffix_cons _ rest)
  · cases h

theorem afterPiece_trims (hinner : Trims inner) (honward : ∀ read, Trims fun i => onward i read)
    (piece : Piece) : Trims (afterPiece inner onward read piece) := by
  intro i x o h
  cases piece with
  | stop =>
    cases h
    exact List.suffix_rfl
  | single expression => exact honward _ i x o h
  | rounds least most =>
    obtain ⟨read, -, h⟩ := Option.bind_eq_some_iff.mp h
    exact honward _ i x o h
  | opened opening =>
    cases opening with
    | flags settings =>
      have := honward _ _ x o h
      exact this
    | group settings =>
      obtain ⟨⟨body, after⟩, hbody, h⟩ := Option.bind_eq_some_iff.mp h
      have hless := hinner _ body after hbody
      exact (closeGroup_trims honward _ _ _ _ _ _ h).trans hless

theorem afterBranch_tracks (h : Follows i i')
    (hinner : ∀ {o o'}, Follows o o' → o.rest.length < i.rest.length → Tracks (inner o) (inner' o')) :
    Tracks (afterBranch inner read i) (afterBranch inner' read i') := by
  rcases h.at '|' (by decide) with ⟨rest, hrest, rfl⟩ | ⟨hother, hother'⟩
  · simp only [afterBranch, hrest, Input.rest_enclosed, List.cons_append]
    exact .map (hinner .enclosed (by simp [hrest]))
  · simp only [afterBranch]
    exact .read h

theorem closeGroup_unclosed {settings : Option FlagSettings} {free : Bool} {body : List Expression}
    (h : ∀ rest, i.rest ≠ ')' :: rest) : closeGroup onward read settings free body i = none := by
  unfold closeGroup
  split
  · next heq => exact absurd heq (h _)
  · rfl

theorem closeGroup_tracks (htrims : ∀ read, Trims fun i => onward' i read) (h : Follows i i')
    (honward : ∀ {o o'} read, Follows o o' → o.rest.length < i.rest.length →
      Tracks (onward o read) (onward' o' read))
    (settings : Option FlagSettings) (free : Bool) (body : List Expression) :
    Tracks (closeGroup onward read settings free body i) (closeGroup onward' read settings free body i') := by
  rcases h.head with ⟨c, rest, hrest, rfl⟩ | ⟨hrest, rfl | rfl⟩
  · by_cases hc : c = ')'
    · subst hc
      simp only [closeGroup, hrest, Input.rest_enclosed, List.cons_append]
      exact honward _ .enclosed (by simp [hrest, Input.inSpacing])
    · rw [closeGroup_unclosed (by simp [hrest, hc]), closeGroup_unclosed (by simp [hrest, hc])]
      exact .none
  · simp only [closeGroup, hrest]
    exact .none
  · simp only [closeGroup, hrest]
    refine .refused fun x o h => ?_
    simp only [Input.rest_enclosed, hrest, closing, List.nil_append] at h
    exact htrims _ _ x o h

theorem afterPiece_tracks (hbranches : Trims inner) (htrims : ∀ read, Trims fun i => onward' i read)
    (h : Follows i i')
    (hinner : ∀ {o o'}, Follows o o' → o.rest.length ≤ i.rest.length → Tracks (inner o) (inner' o'))
    (honward : ∀ {o o'} read, Follows o o' → o.rest.length ≤ i.rest.length →
      Tracks (onward o read) (onward' o' read))
    (piece : Piece) :
    Tracks (afterPiece inner onward read piece i) (afterPiece inner' onward' read piece i') := by
  cases piece with
  | stop => exact .read h
  | single expression => exact honward _ h (Nat.le_refl _)
  | rounds least most =>
    simp only [afterPiece]
    cases repeatLast least most read with
    | none => exact .none
    | some read => exact honward read h (Nat.le_refl _)
  | opened opening =>
    cases opening with
    | flags settings =>
      simp only [afterPiece, h.freeSpacing_eq]
      exact honward _ (h.inSpacing _) (Nat.le_refl _)
    | group settings =>
      simp only [afterPiece, h.freeSpacing_eq]
      refine .bind (hinner (h.inSpacing _) (Nat.le_refl _)) ?_ fun body o o' hbody h => ?_
      · exact fun body => closeGroup_trims htrims settings _ body
      · have hless := (hbranches _ body o hbody).length_le
        exact closeGroup_tracks htrims h
          (fun read h hmore => honward read h (Nat.le_trans (Nat.le_of_lt hmore) hless)) settings _ body

theorem afterBranch_congr (h : ∀ o, o.rest.length < i.rest.length → inner o = inner' o) :
    afterBranch inner read i = afterBranch inner' read i := by
  unfold afterBranch
  split
  · next rest hrest => rw [h (i.withRest rest) (by simp [hrest])]
  · rfl

theorem closeGroup_congr (h : ∀ o read, o.rest.length < i.rest.length → onward o read = onward' o read)
    (settings : Option FlagSettings) (free : Bool) (body : List Expression) :
    closeGroup onward read settings free body i = closeGroup onward' read settings free body i := by
  unfold closeGroup
  split
  · next rest hrest => exact h _ _ (by simp [hrest, Input.inSpacing])
  · rfl

theorem afterPiece_congr (htrims : Trims inner')
    (hinner : ∀ o, o.rest.length ≤ i.rest.length → inner o = inner' o)
    (honward : ∀ o read, o.rest.length ≤ i.rest.length → onward o read = onward' o read) (piece : Piece) :
    afterPiece inner onward read piece i = afterPiece inner' onward' read piece i := by
  cases piece with
  | stop => rfl
  | single expression => exact honward _ _ (Nat.le_refl _)
  | rounds least most => exact Option.bind_congr fun read _ => honward i read (Nat.le_refl _)
  | opened opening =>
    cases opening with
    | flags settings => exact honward _ _ (Nat.le_refl _)
    | group settings =>
      have hbranches := hinner (i.inSpacing ((settings.getD []).spacing i.freeSpacing)) (Nat.le_refl _)
      simp only [afterPiece, hbranches]
      refine Option.bind_congr fun ⟨body, after⟩ hbody => ?_
      have hless := (htrims _ body after hbody).length_le
      exact closeGroup_congr
        (fun o read hshorter => honward o read (Nat.le_trans (Nat.le_of_lt hshorter) hless)) _ _ _

end Onward

theorem branches_parts_trims (n : Nat) :
    Trims (branches n) ∧ ∀ read, Trims fun i => parts n i read := by
  induction n with
  | zero => exact ⟨fun _ _ _ h => (nomatch h), fun _ _ _ _ h => (nomatch h)⟩
  | succ n ih =>
    obtain ⟨ihbranches, ihparts⟩ := ih
    constructor
    · intro i x o h
      obtain ⟨⟨read, after⟩, hread, h⟩ := Option.bind_eq_some_iff.mp h
      exact (afterBranch_trims ihbranches read after x o h).trans (ihparts [] i read after hread)
    · intro read i x o h
      obtain ⟨⟨piece, after⟩, hpiece, h⟩ := Option.bind_eq_some_iff.mp h
      exact (afterPiece_trims ihbranches ihparts piece after x o h).trans (piece_trims _ _ _ hpiece)

theorem branches_trims (n : Nat) : Trims (branches n) := (branches_parts_trims n).1

theorem parts_trims (n : Nat) (read : List Expression) : Trims fun i => parts n i read :=
  (branches_parts_trims n).2 read

theorem Follows.length_eq (h : Follows i i') (hi : 0 < i.rest.length) : i'.rest.length = i.rest.length + 2 := by
  cases h with
  | enclosed => simp
  | swallowed hrest => simp [hrest] at hi

/-- Two rounds of fuel for each character are enough: a parenthesis takes one for its branches and one for
their parts. -/
theorem branches_parts_enough (n : Nat) :
    (∀ {i m}, 2 * i.rest.length + 1 < n → 2 * i.rest.length + 1 < m → branches n i = branches m i) ∧
    ∀ {i m} read, 2 * i.rest.length < n → 2 * i.rest.length < m → parts n i read = parts m i read := by
  induction n with
  | zero => exact ⟨fun h => by omega, fun _ h => by omega⟩
  | succ n ih =>
    obtain ⟨ihbranches, ihparts⟩ := ih
    constructor
    · intro i m hn hm
      obtain ⟨m, rfl⟩ : ∃ k, m = k + 1 := ⟨m - 1, by omega⟩
      have hparts : parts n i [] = parts m i [] := ihparts [] (by omega) (by omega)
      simp only [branches, hparts]
      refine Option.bind_congr fun ⟨read, o⟩ hread => ?_
      have hless := (parts_trims m [] i read o hread).length_le
      exact afterBranch_congr fun p (hshorter : _ < o.rest.length) => ihbranches (by omega) (by omega)
    · intro i m read hn hm
      obtain ⟨m, rfl⟩ : ∃ k, m = k + 1 := ⟨m - 1, by omega⟩
      simp only [parts]
      refine Option.bind_congr fun ⟨piece, o⟩ hpiece => ?_
      by_cases hstop : piece = .stop
      · subst hstop
        rfl
      · have hless := length_piece_lt hpiece hstop
        exact afterPiece_congr (branches_trims m)
          (fun p (hshorter : _ ≤ o.rest.length) => ihbranches (by omega) (by omega))
          (fun p read (hshorter : _ ≤ o.rest.length) => ihparts read (by omega) (by omega)) piece

/-- With enough fuel for both texts, branches are read as they are read with the parenthesis behind them. -/
theorem branches_parts_tracks (n : Nat) :
    (∀ {i i' m}, Follows i i' → 2 * i.rest.length + 1 < n → 2 * i'.rest.length + 1 < m →
      Tracks (branches n i) (branches m i')) ∧
    ∀ {i i' m} read, Follows i i' → 2 * i.rest.length < n → 2 * i'.rest.length < m →
      Tracks (parts n i read) (parts m i' read) := by
  induction n with
  | zero => exact ⟨fun _ h => by omega, fun _ _ h => by omega⟩
  | succ n ih =>
    obtain ⟨ihbranches, ihparts⟩ := ih
    constructor
    · intro i i' m h hn hm
      obtain ⟨m, rfl⟩ : ∃ k, m = k + 1 := ⟨m - 1, by omega⟩
      -- parts are read from the same text, the next branch from a shorter one
      refine .bind (ihparts [] h (by omega) (by omega)) ?_ fun read o o' hread ho => ?_
      · exact fun read => afterBranch_trims (branches_trims m) read
      · have hless := (parts_trims n [] i read o hread).length_le
        refine afterBranch_tracks ho fun hp hshorter => ihbranches hp (by omega) ?_
        have := h.length_eq (by omega)
        have := hp.length_le
        omega
    · intro i i' m read h hn hm
      obtain ⟨m, rfl⟩ : ∃ k, m = k + 1 := ⟨m - 1, by omega⟩
      -- a piece takes a character and so makes up for two rounds, whatever is read after it
      refine .bind (piece_reader.follows h) ?_ fun piece o o' hpiece ho => ?_
      · exact fun piece => afterPiece_trims (branches_trims m) (parts_trims m) piece
      · by_cases hstop : piece = .stop
        · subst hstop
          exact .read ho
        · have hless := length_piece_lt hpiece hstop
          have := h.length_eq (by omega)
          refine afterPiece_tracks (branches_trims n) (parts_trims m) ho (fun hp hshorter => ?_)
            (fun read hp hshorter => ?_) piece
          · have := hp.length_le
            exact ihbranches hp (by omega) (by omega)
          · have := hp.length_le
            exact ihparts read hp (by omega) (by omega)

/-- What is read of a text as an expression. -/
def readText (text : List Char) : Option (List Expression × Input) :=
  branches (2 * text.length + 2) ⟨text, false, []⟩

theorem branches_eq_readText (text : List Char) (hn : 2 * text.length + 1 < n) :
    branches n ⟨text, false, []⟩ = readText text :=
  (branches_parts_enough n).1 hn (Nat.lt_succ_self _)

theorem readText_tracks (text : List Char) : Tracks (readText text) (readText (text ++ closing)) :=
  (branches_parts_tracks _).1 .enclosed (Nat.lt_succ_self _) (Nat.lt_succ_self _)

end ObjectConstraints.Pattern
