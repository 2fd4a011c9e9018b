import ObjectConstraints.Validation.Run

/-!
# Tables of a run

What looking up checks and sets leaves behind: whatever was found for a name is found for it from
then on. So the tables of a run only grow (`RunState.Before`), and the set that a name stands for
never changes (`ConstraintSets.found_resolve`).
-/

namespace ObjectConstraints

-- ---------------------------------------------------------------------------
-- Compiled checks
-- ---------------------------------------------------------------------------

namespace CompiledChecks

variable {compiled : CompiledChecks} {c : Class} {configurers : List Configurer}

theorem resolve_of_get? (h : compiled.get? c.name = some (some checks)) :
    compiled.resolve c configurers = (.ok checks, compiled) := by
  simp only [resolve, h]

theorem resolve_of_ne (h : ∀ checks, compiled.get? c.name ≠ some (some checks)) :
    compiled.resolve c configurers = (ClassChecks.compile c configurers,
      compiled.insert c.name (ClassChecks.compile c configurers).toOption) := by
  unfold resolve
  split
  · next checks hchecks => exact absurd hchecks (h checks)
  · rfl

theorem get?_cases (compiled : CompiledChecks) (name : String) :
    (∃ checks, compiled.get? name = some (some checks)) ∨
      ∀ checks, compiled.get? name ≠ some (some checks) := by
  rcases h : compiled.get? name with _ | _ | checks <;> simp

theorem get?_resolve (h : compiled.get? name = some (some checks)) :
    (compiled.resolve c configurers).2.get? name = some (some checks) := by
  rcases compiled.get?_cases c.name with ⟨found, hfound⟩ | hno
  · rwa [resolve_of_get? hfound]
  · have hne : name ≠ c.name := fun he => hno checks (he ▸ h)
    rw [resolve_of_ne hno, Table.get?_insert_of_ne _ _ hne, h]

/-- What the checks of a class were resolved to is what its name stands for from then on. -/
theorem get?_resolve_self (h : (compiled.resolve c configurers).1 = .ok checks) :
    (compiled.resolve c configurers).2.get? c.name = some (some checks) := by
  rcases compiled.get?_cases c.name with ⟨found, hfound⟩ | hno
  · rw [resolve_of_get? hfound] at h ⊢
    cases h
    exact hfound
  · rw [resolve_of_ne hno] at h ⊢
    have hcompile : ClassChecks.compile c configurers = .ok checks := h
    rw [hcompile, Table.get?_insert_self]
    rfl

/-- A class without checks for its name is compiled, and keeps its place where that fails. -/
theorem resolve_error (h : (compiled.resolve c configurers).1 = .error e) :
    ClassChecks.compile c configurers = .error e ∧
      (compiled.resolve c configurers).2.get? c.name = some none := by
  rcases compiled.get?_cases c.name with ⟨found, hfound⟩ | hno
  · rw [resolve_of_get? hfound] at h
    cases h
  · rw [resolve_of_ne hno] at h ⊢
    have hcompile : ClassChecks.compile c configurers = .error e := h
    rw [hcompile, Table.get?_insert_self]
    exact ⟨rfl, rfl⟩

theorem resolve_other {other : Class} (h : other.name ≠ c.name) :
    ((compiled.resolve c configurers).2.resolve other configurers).1 =
      (compiled.resolve other configurers).1 := by
  rcases compiled.get?_cases c.name with ⟨found, hfound⟩ | hno
  · rw [resolve_of_get? hfound]
  · rw [resolve_of_ne hno]
    simp only [resolve, Table.get?_insert_of_ne _ _ h]
    split <;> rfl

/-- Classes of one name have the same checks from when they have been looked up. -/
theorem resolve_namesake {other : Class} (hname : other.name = c.name)
    (h : (compiled.resolve c configurers).1 = .ok checks) :
    ((compiled.resolve c configurers).2.resolve other configurers).1 = .ok checks := by
  rw [resolve_of_get?]
  rw [hname, get?_resolve_self h]

theorem resolve_retry {other : Class} (h : (compiled.resolve c configurers).1 = .error e) :
    ((compiled.resolve c configurers).2.resolve other configurers).1 =
      (compiled.resolve other configurers).1 := by
  by_cases hname : other.name = c.name
  · have hno : ∀ checks, compiled.get? c.name ≠ some (some checks) := by
      intro checks hchecks
      rw [resolve_of_get? hchecks] at h
      cases h
    have hno' : ∀ checks, (compiled.resolve c configurers).2.get? other.name ≠ some (some checks) := by
      rw [hname, (resolve_error h).2]
      simp
    rw [resolve_of_ne hno', resolve_of_ne (c := other) (hname ▸ hno)]
  · exact resolve_other hname

end CompiledChecks

-- ---------------------------------------------------------------------------
-- Constraint sets
-- ---------------------------------------------------------------------------

/-- The set that a name stands for. -/
def ConstraintSets.found (sets : ConstraintSets) (configurers : List Configurer) (id : String) :
    Except ValidationError ConstraintSet :=
  (sets.resolve id configurers).map (·.1)

theorem ConstraintSets.found_ok {sets : ConstraintSets} {configurers : List Configurer} {id : String} :
    sets.found configurers id = .ok resolved ↔
      ∃ after, sets.resolve id configurers = .ok (resolved, after) := by
  unfold found
  rcases sets.resolve id configurers with e | ⟨other, after⟩ <;> simp [Except.map]

theorem ConstraintSets.found_error {sets : ConstraintSets} {configurers : List Configurer}
    {id : String} :
    sets.found configurers id = .error e ↔ sets.resolve id configurers = .error e := by
  unfold found
  cases sets.resolve id configurers <;> simp [Except.map]

theorem ConstraintSets.found_eq (sets : ConstraintSets) (configurers : List Configurer) (id : String) :
    sets.found configurers id =
      match sets.get? id with
      | some found => .ok found
      | none => ConstraintSet.ofConfigurers id configurers := by
  unfold found resolve
  cases sets.get? id with
  | some found => rfl
  | none => cases ConstraintSet.ofConfigurers id configurers <;> rfl

theorem ConstraintSets.get?_resolve {sets : ConstraintSets} {configurers : List Configurer} {id : String}
    (h : sets.resolve id configurers = .ok (resolved, after)) :
    after.get? id = some resolved ∧ ∀ other set, sets.get? other = some set → after.get? other = some set := by
  unfold resolve at h
  split at h
  · next set hset =>
    cases h
    exact ⟨hset, fun _ _ h => h⟩
  · next hno =>
    cases hc : ConstraintSet.ofConfigurers id configurers with
    | error e => simp [hc, Except.map] at h
    | ok set =>
      simp only [hc, Except.map, Except.ok.injEq, Prod.mk.injEq] at h
      obtain ⟨rfl, rfl⟩ := h
      refine ⟨Table.get?_insert_self .., fun other other' ho => ?_⟩
      have hne : other ≠ id := fun he => by simp [he, hno] at ho
      rw [Table.get?_insert_of_ne _ _ hne]
      exact ho

theorem ConstraintSets.found_resolve {sets : ConstraintSets} {configurers : List Configurer}
    {id : String} (h : sets.resolve id configurers = .ok (resolved, after)) (other : String) :
    after.found configurers other = sets.found configurers other := by
  unfold resolve at h
  split at h
  · cases h; rfl
  · next hnone =>
    cases hc : ConstraintSet.ofConfigurers id configurers with
    | error e => simp [hc, Except.map] at h
    | ok made =>
      simp only [hc, Except.map, Except.ok.injEq, Prod.mk.injEq] at h
      obtain ⟨rfl, rfl⟩ := h
      rw [found_eq, found_eq]
      by_cases ho : other = id
      · subst ho
        rw [Table.get?_insert_self, hnone, hc]
      · rw [Table.get?_insert_of_ne _ _ ho]

-- ---------------------------------------------------------------------------
-- Both in a run
-- ---------------------------------------------------------------------------

/-- A state that a run can lead to from another one, as far as its tables go: compiled checks, sets
and entered objects are still there. -/
structure RunState.Before (s s' : RunState) : Prop where
  compiled : ∀ name checks, s.compiled.get? name = some (some checks) →
    s'.compiled.get? name = some (some checks)
  sets : ∀ id found, s.sets.get? id = some found → s'.sets.get? id = some found
  entered : ∀ o, s.entered.contains o = true → s'.entered.contains o = true

namespace RunState.Before

theorem refl (s : RunState) : s.Before s := ⟨fun _ _ h => h, fun _ _ h => h, fun _ h => h⟩

theorem trans (h : RunState.Before s s') (h' : RunState.Before s' s'') : s.Before s'' :=
  ⟨fun _ _ hc => h'.compiled _ _ (h.compiled _ _ hc), fun _ _ hs => h'.sets _ _ (h.sets _ _ hs),
    fun _ he => h'.entered _ (h.entered _ he)⟩

theorem withStore (s : RunState) (store : Store) : s.Before { s with store } :=
  ⟨fun _ _ h => h, fun _ _ h => h, fun _ h => h⟩

theorem enter (s : RunState) (o : Object) :
    s.Before { s with entered := (s.entered.enter o).2 } :=
  ⟨fun _ _ h => h, fun _ _ h => h, fun _ h => by simp [Entered.contains_enter, h]⟩

theorem resolve (s : RunState) (c : Class) (configurers : List Configurer) :
    s.Before { s with compiled := (s.compiled.resolve c configurers).2 } :=
  ⟨fun _ _ h => CompiledChecks.get?_resolve h, fun _ _ h => h, fun _ h => h⟩

theorem resolveSet {s : RunState} {configurers : List Configurer} {id : String}
    (h : s.sets.resolve id configurers = .ok (found, after)) : s.Before { s with sets := after } :=
  ⟨fun _ _ h => h, (ConstraintSets.get?_resolve h).2, fun _ h => h⟩

end RunState.Before

end ObjectConstraints
