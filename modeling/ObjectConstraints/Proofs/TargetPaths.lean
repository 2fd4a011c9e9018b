import ObjectConstraints.TargetPath

/-!
# Composition of target paths

A path leads along its segments from value to value (`Leads`). It ends at a value, is given up where
null has segments left, or stops at a segment that leads on from nothing (`navigate_found`,
`navigate_skipped`, `navigate_stopped`). Following a path that is joined from two is following the
first one and then the second one, in all of these cases, and empty segments do not count
(`navigate_join`).
-/

namespace ObjectConstraints

namespace Unicode

variable {p : Char → Bool}

theorem splitChars_ne_nil (chars : List Char) : splitChars p chars ≠ [] := by
  cases chars with
  | nil => simp [splitChars]
  | cons c rest =>
    simp only [splitChars]
    split
    · simp
    · split <;> simp

theorem splitChars_append {c : Char} (hc : p c = true) (front back : List Char) :
    splitChars p (front ++ c :: back) = splitChars p front ++ splitChars p back := by
  induction front with
  | nil => simp [splitChars, hc]
  | cons first rest ih =>
    simp only [List.cons_append, splitChars, ih]
    split
    · rfl
    · cases hrest : splitChars p rest with
      | nil => exact absurd hrest (splitChars_ne_nil rest)
      | cons piece pieces => rfl

end Unicode

/-- An error as it is if another target path is followed. -/
def ValidationError.quoting (path : String) : ValidationError → ValidationError
  | .configuration (.unresolvedTarget segment _ typeName) =>
    .configuration (.unresolvedTarget segment path typeName)
  | error => error

namespace TargetPath

-- ---------------------------------------------------------------------------
-- Segments
-- ---------------------------------------------------------------------------

theorem segments_empty : segments "" = [] := rfl

theorem segments_join (p q : String) : segments (p ++ "." ++ q) = segments p ++ segments q := by
  have hchars : (p ++ "." ++ q).toList = p.toList ++ '.' :: q.toList := by simp
  rw [segments, hchars, Unicode.splitChars_append (by rfl), List.filterMap_append]
  rfl

theorem segments_intercalate (pieces : List String) :
    segments (".".intercalate pieces) = pieces.flatMap segments := by
  induction pieces with
  | nil => rfl
  | cons piece rest ih =>
    rw [List.flatMap_cons, ← ih]
    cases rest with
    | nil => simp [segments_empty]
    | cons next others => rw [String.intercalate_cons_cons, segments_join]

/-- Pieces of a path that are empty contribute no segments. -/
theorem segments_intercalate_filter (pieces : List String) :
    segments (".".intercalate (pieces.filter (!·.isEmpty))) = segments (".".intercalate pieces) := by
  rw [segments_intercalate, segments_intercalate]
  induction pieces with
  | nil => rfl
  | cons piece rest ih =>
    by_cases hpiece : piece = ""
    · simp [hpiece, segments_empty, ih]
    · simp [hpiece, ih]

-- ---------------------------------------------------------------------------
-- Where segments lead
-- ---------------------------------------------------------------------------

/-- Whether segments lead from a value to a value: every one of them is a field of the object or is
looked up in the map that those before it lead to. -/
inductive Leads (store : Store) : Value → List String → Value → Prop
  | here {value} : Leads store value [] value
  | field {o segment next rest found} : o.get segment store = .ok next →
      Leads store next rest found → Leads store (.object o) (segment :: rest) found
  | key {entries segment rest found} : Leads store (lookUp segment entries) rest found →
      Leads store (.map entries) (segment :: rest) found

/-- Whether some of the segments, in front, lead to a value that is of a kind in view of the segment
that is next. -/
def Encounters (kind : String → Value → Prop) (store : Store) (value : Value) (segments : List String)
    (front : List String) : Prop :=
  ∃ segment back found, segments = front ++ segment :: back ∧ Leads store value front found ∧
    kind segment found

/-- Values that nothing is looked for in. -/
def IsNull (_ : String) (value : Value) : Prop := value = .null

/-- Values that a segment does not lead on from, for a reason that may quote the path. -/
inductive Refuses (path : String) (store : Store) : ValidationError → String → Value → Prop
  | field {o segment e} : o.get segment store = .error e →
      Refuses path store (.access e) segment (.object o)
  | kind {value segment} : value ≠ .null → (∀ o, value ≠ .object o) → (∀ entries, value ≠ .map entries) →
      Refuses path store (.configuration (.unresolvedTarget segment path value.typeName)) segment value

section

variable {path : String} {store : Store} {value found : Value} {first second front : List String}
  {kind : String → Value → Prop}

theorem leads_append : Leads store value (first ++ second) found ↔
    ∃ reached, Leads store value first reached ∧ Leads store reached second found := by
  constructor
  · intro h
    induction first generalizing value with
    | nil => exact ⟨value, .here, h⟩
    | cons segment rest ih =>
      cases h with
      | field hget h =>
        obtain ⟨reached, hfirst, hsecond⟩ := ih h
        exact ⟨reached, .field hget hfirst, hsecond⟩
      | key h =>
        obtain ⟨reached, hfirst, hsecond⟩ := ih h
        exact ⟨reached, .key hfirst, hsecond⟩
  · rintro ⟨reached, hfirst, hsecond⟩
    induction hfirst with
    | here => exact hsecond
    | field hget _ ih => exact .field hget (ih hsecond)
    | key _ ih => exact .key (ih hsecond)

/-- What is encountered along two lists of segments is encountered along the first one, or along the
second one from where the first one leads. -/
theorem encounters_append : Encounters kind store value (first ++ second) front ↔
    Encounters kind store value first front ∨
      ∃ reached rest, Leads store value first reached ∧ Encounters kind store reached second rest ∧
        front = first ++ rest := by
  constructor
  · rintro ⟨segment, back, found, hsplit, hleads, hkind⟩
    rcases List.append_eq_append_iff.mp hsplit with ⟨rest, rfl, hsecond⟩ | ⟨rest, rfl, hback⟩
    · obtain ⟨reached, hfirst, hrest⟩ := leads_append.mp hleads
      exact .inr ⟨reached, rest, hfirst, ⟨segment, back, found, hsecond, hrest, hkind⟩, rfl⟩
    · cases rest with
      | nil =>
        rw [List.append_nil]
        exact .inr ⟨found, [], hleads, ⟨segment, back, found, hback.symm, .here, hkind⟩, by simp⟩
      | cons next others =>
        obtain ⟨rfl, rfl⟩ := List.cons.inj hback
        exact .inl ⟨segment, others, found, rfl, hleads, hkind⟩
  · rintro (⟨segment, back, found, rfl, hleads, hkind⟩ |
      ⟨reached, rest, hfirst, ⟨segment, back, found, rfl, hrest, hkind⟩, rfl⟩)
    · exact ⟨segment, back ++ second, found, by simp, hleads, hkind⟩
    · exact ⟨segment, back, found, by simp, leads_append.mpr ⟨reached, hfirst, hrest⟩, hkind⟩

theorem Encounters.behind (h : Encounters kind store found second front)
    (hleads : Leads store value first found) :
    Encounters kind store value (first ++ second) (first ++ front) :=
  encounters_append.mpr (.inr ⟨found, front, hleads, h, rfl⟩)

theorem Encounters.start {segment : String} (h : kind segment value) (rest : List String) :
    Encounters kind store value (segment :: rest) [] :=
  ⟨segment, rest, value, rfl, .here, h⟩

-- ---------------------------------------------------------------------------
-- What following segments comes to
-- ---------------------------------------------------------------------------

/-- Segments lead to a value, unless null is encountered along them or one that leads on from
nothing. -/
theorem follow_cases (path : String) (store : Store) (value : Value) (segments : List String) :
    (∃ found, Leads store value segments found) ∨
      (∃ front, Encounters IsNull store value segments front) ∨
      ∃ e front, Encounters (Refuses path store e) store value segments front := by
  induction segments generalizing value with
  | nil => exact .inl ⟨value, .here⟩
  | cons segment rest ih =>
    have hon {next : Value} (hleads : Leads store value [segment] next) :
        (∃ found, Leads store value (segment :: rest) found) ∨
          (∃ front, Encounters IsNull store value (segment :: rest) front) ∨
          ∃ e front, Encounters (Refuses path store e) store value (segment :: rest) front := by
      rcases ih next with ⟨found, hfound⟩ | ⟨front, hnull⟩ | ⟨e, front, hrefuses⟩
      · exact .inl ⟨found, leads_append.mpr ⟨next, hleads, hfound⟩⟩
      · exact .inr (.inl ⟨_, hnull.behind hleads⟩)
      · exact .inr (.inr ⟨e, _, hrefuses.behind hleads⟩)
    cases value with
    | null => exact .inr (.inl ⟨[], .start rfl rest⟩)
    | map entries => exact hon (.key .here)
    | object o =>
      cases hget : o.get segment store with
      | ok next => exact hon (.field hget .here)
      | error e => exact .inr (.inr ⟨_, [], .start (.field hget) rest⟩)
    | _ => exact .inr (.inr ⟨_, [], .start (.kind nofun nofun nofun) rest⟩)

theorem Leads.follow (h : Leads store value first found) :
    follow path store value first = .ok (some found) := by
  induction h with
  | here => rfl
  | field hget _ ih => simpa only [TargetPath.follow, hget] using ih
  | key _ ih => exact ih

theorem Encounters.skipped (h : Encounters IsNull store value first front) :
    follow path store value first = .ok none := by
  obtain ⟨segment, back, _, rfl, hleads, rfl⟩ := h
  rw [follow_append, hleads.follow]
  rfl

theorem Encounters.stopped (h : Encounters (Refuses path store e) store value first front) :
    follow path store value first = .error e := by
  obtain ⟨segment, back, found, rfl, hleads, hrefuses⟩ := h
  rw [follow_append, hleads.follow]
  cases hrefuses with
  | field hget => simp only [Except.bind, follow, hget]
  | kind hnull hobject hmap =>
    cases found with
    | null => exact absurd rfl hnull
    | object o => exact absurd rfl (hobject o)
    | map entries => exact absurd rfl (hmap entries)
    | _ => rfl

end

variable {path : String} {store : Store} {value found : Value}

theorem navigate_found : navigate path store value = .ok (some found) ↔
    Leads store value (segments path) found := by
  refine ⟨fun h => ?_, Leads.follow⟩
  rcases follow_cases path store value (segments path) with ⟨other, hleads⟩ | ⟨_, hnull⟩ | ⟨e, _, hrefuses⟩
  · rw [navigate, hleads.follow] at h
    cases h
    exact hleads
  · rw [navigate, hnull.skipped] at h
    cases h
  · rw [navigate, hrefuses.stopped] at h
    cases h

theorem navigate_skipped : navigate path store value = .ok none ↔
    ∃ front, Encounters IsNull store value (segments path) front := by
  refine ⟨fun h => ?_, fun ⟨front, hnull⟩ => hnull.skipped⟩
  rcases follow_cases path store value (segments path) with ⟨other, hleads⟩ | hnull | ⟨e, _, hrefuses⟩
  · rw [navigate, hleads.follow] at h
    cases h
  · exact hnull
  · rw [navigate, hrefuses.stopped] at h
    cases h

theorem navigate_stopped : navigate path store value = .error e ↔
    ∃ front, Encounters (Refuses path store e) store value (segments path) front := by
  refine ⟨fun h => ?_, fun ⟨front, hrefuses⟩ => hrefuses.stopped⟩
  rcases follow_cases path store value (segments path) with
    ⟨other, hleads⟩ | ⟨_, hnull⟩ | ⟨e', front, hrefuses⟩
  · rw [navigate, hleads.follow] at h
    cases h
  · rw [navigate, hnull.skipped] at h
    cases h
  · rw [navigate, hrefuses.stopped] at h
    cases h
    exact ⟨front, hrefuses⟩

-- ---------------------------------------------------------------------------
-- Joined paths
-- ---------------------------------------------------------------------------

/-- What a path is called is all that an error tells of it. -/
theorem follow_quoting (path other : String) (store : Store) (value : Value) (segments : List String) :
    follow path store value segments =
      (follow other store value segments).mapError (.quoting path) := by
  induction segments generalizing value with
  | nil => rfl
  | cons segment rest ih =>
    cases value with
    | object o =>
      simp only [follow]
      cases o.get segment store with
      | ok next => exact ih next
      | error e => rfl
    | map entries => exact ih _
    | _ => rfl

theorem refuses_quoting {segment : String} (path other : String) : Refuses path store e segment value ↔
    ∃ e', e = e'.quoting path ∧ Refuses other store e' segment value := by
  constructor
  · intro h
    cases h with
    | field hget => exact ⟨_, rfl, .field hget⟩
    | kind hnull hobject hmap => exact ⟨_, rfl, .kind hnull hobject hmap⟩
  · rintro ⟨e', rfl, h⟩
    cases h with
    | field hget => exact .field hget
    | kind hnull hobject hmap => exact .kind hnull hobject hmap

theorem encounters_quoting {segments front : List String} (path other : String) :
    Encounters (Refuses path store e) store value segments front ↔
      ∃ e', e = e'.quoting path ∧ Encounters (Refuses other store e') store value segments front := by
  constructor
  · rintro ⟨segment, back, found, hsplit, hleads, hrefuses⟩
    obtain ⟨e', he, hrefuses⟩ := (refuses_quoting path other).mp hrefuses
    exact ⟨e', he, segment, back, found, hsplit, hleads, hrefuses⟩
  · rintro ⟨e', he, segment, back, found, hsplit, hleads, hrefuses⟩
    exact ⟨segment, back, found, hsplit, hleads, (refuses_quoting path other).mpr ⟨e', he, hrefuses⟩⟩

/-- Along two lists of segments one goes on with the second where the first has led to a value. -/
theorem follow_both (path p q : String) (store : Store) (value : Value) (first second : List String) :
    follow path store value (first ++ second) =
      ((follow p store value first).bind fun
        | some reached => follow q store reached second
        | none => .ok none).mapError (.quoting path) := by
  rw [follow_append, follow_quoting path p store value first]
  cases follow p store value first with
  | error e => rfl
  | ok reached =>
    cases reached with
    | none => rfl
    | some reached => exact follow_quoting path q store reached second

/-- Navigating along a path that is joined from two comes to what navigating along the first and,
from the value that is found there, along the second comes to, but for the path that an error quotes:
to the same value; to nothing, which is so if null is met with segments left; or to an error at the
same segment. The empty path leads nowhere else, and empty pieces of a path do not count. -/
theorem navigate_join (p q : String) (store : Store) (value : Value) :
    navigate (p ++ "." ++ q) store value =
        ((navigate p store value).bind fun
          | some reached => navigate q store reached
          | none => .ok none).mapError (.quoting (p ++ "." ++ q)) ∧
      (navigate (p ++ "." ++ q) store value = .ok none ↔ ∃ front segment back,
        segments p ++ segments q = front ++ segment :: back ∧ Leads store value front .null) ∧
      (∀ e, navigate (p ++ "." ++ q) store value = .error e ↔
        ∃ front, Encounters (Refuses (p ++ "." ++ q) store e) store value (segments (p ++ "." ++ q)) front) ∧
      (∀ e front,
        Encounters (Refuses (p ++ "." ++ q) store e) store value (segments (p ++ "." ++ q)) front ↔
          ∃ e', e = e'.quoting (p ++ "." ++ q) ∧
            (Encounters (Refuses p store e') store value (segments p) front ∨
              ∃ reached rest, navigate p store value = .ok (some reached) ∧
                Encounters (Refuses q store e') store reached (segments q) rest ∧
                front = segments p ++ rest)) ∧
      navigate "" store value = .ok (some value) ∧
      ∀ pieces : List String, navigate (".".intercalate pieces) store value =
        (navigate (".".intercalate (pieces.filter (!·.isEmpty))) store value).mapError
          (.quoting (".".intercalate pieces)) := by
  refine ⟨?_, ?_, fun e => navigate_stopped, fun e front => ?_, rfl, fun pieces => ?_⟩
  · rw [navigate, segments_join]
    exact follow_both _ p q store value _ _
  · rw [navigate_skipped, segments_join]
    constructor
    · rintro ⟨front, segment, back, _, hsplit, hleads, rfl⟩
      exact ⟨front, segment, back, hsplit, hleads⟩
    · rintro ⟨front, segment, back, hsplit, hleads⟩
      exact ⟨front, segment, back, .null, hsplit, hleads, rfl⟩
  · rw [segments_join, encounters_append, encounters_quoting _ p]
    constructor
    · rintro (⟨e', he, hfirst⟩ | ⟨reached, rest, hleads, hsecond, hfront⟩)
      · exact ⟨e', he, .inl hfirst⟩
      · obtain ⟨e', he, hsecond⟩ := (encounters_quoting _ q).mp hsecond
        exact ⟨e', he, .inr ⟨reached, rest, navigate_found.mpr hleads, hsecond, hfront⟩⟩
    · rintro ⟨e', he, hfirst | ⟨reached, rest, hfound, hsecond, hfront⟩⟩
      · exact .inl ⟨e', he, hfirst⟩
      · exact .inr ⟨reached, rest, navigate_found.mp hfound,
          (encounters_quoting _ q).mpr ⟨e', he, hsecond⟩, hfront⟩
  · rw [navigate, navigate, segments_intercalate_filter]
    exact follow_quoting ..

example : segments ".a..b." = ["a", "b"] := by decide

-- Null at the end of a path is found, but nothing is looked for in it.
example (store : Store) : navigate "a" store (.map [(.string "a", .null)]) = .ok (some .null) ∧
    navigate "a.b" store (.map [(.string "a", .null)]) = .ok none := ⟨rfl, rfl⟩

end TargetPath

end ObjectConstraints
