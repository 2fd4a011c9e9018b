import ObjectConstraints.Validator

/-!
# Steps of a run

What each step of a run answers and what it leaves behind, as equations of `Run.exec`. A check that
is applied at a site is a pass over the sites it looks at (`applyCheck_eq`).
-/

namespace ObjectConstraints

namespace Run

variable {α β : Type}

/-- A run from a state: how it ends, and the state afterwards. -/
def exec (run : Run α) (state : RunState) : Except Stop α × RunState :=
  (ExceptT.run run).run state

theorem ext {m m' : Run α} (h : ∀ s, m.exec s = m'.exec s) : m = m' := funext h

-- ---------------------------------------------------------------------------
-- Sequencing
-- ---------------------------------------------------------------------------

@[simp] theorem exec_pure (a : α) (s : RunState) : (pure a : Run α).exec s = (.ok a, s) := rfl

theorem exec_bind (m : Run α) (f : α → Run β) (s : RunState) :
    (m >>= f).exec s = match m.exec s with
      | (.ok a, s') => (f a).exec s'
      | (.error e, s') => (.error e, s') := by
  simp only [exec, ExceptT.run_bind, StateT.run_bind]
  rcases (ExceptT.run m).run s with ⟨_ | _, _⟩ <;> rfl

theorem exec_bind_of_ok {m : Run α} (f : α → Run β) (h : m.exec s = (.ok a, s')) :
    (m >>= f).exec s = (f a).exec s' := by
  rw [exec_bind, h]

theorem exec_bind_of_error {m : Run α} (f : α → Run β) (h : m.exec s = (.error e, s')) :
    (m >>= f).exec s = (.error e, s') := by
  rw [exec_bind, h]

theorem exec_bind_ok {m : Run α} {f : α → Run β} :
    (m >>= f).exec s = (.ok b, s'') ↔ ∃ a s', m.exec s = (.ok a, s') ∧ (f a).exec s' = (.ok b, s'') := by
  rw [exec_bind]
  rcases h : m.exec s with ⟨_ | a, s'⟩
  · simp
  · constructor
    · intro hf
      exact ⟨a, s', rfl, hf⟩
    · rintro ⟨_, _, ⟨⟩, hf⟩
      exact hf

-- ---------------------------------------------------------------------------
-- Single steps
-- ---------------------------------------------------------------------------

@[simp] theorem exec_get (s : RunState) : (get : Run RunState).exec s = (.ok s, s) := rfl

@[simp] theorem exec_enter (o : Object) (s : RunState) :
    (enter o).exec s = (.ok (), { s with entered := (s.entered.enter o).2 }) := rfl

@[simp] theorem exec_isEntered (o : Object) (s : RunState) :
    (isEntered o).exec s = (.ok (s.entered.contains o), s) := rfl

theorem exec_lift (r : Except ValidationError α) (s : RunState) :
    (lift r).exec s = (r.mapError .failed, s) := by
  cases r <;> rfl

theorem exec_lift_store (r : Store → Except ValidationError α) (s : RunState) :
    (do lift (r (← get).store) : Run α).exec s = ((r s.store).mapError .failed, s) := by
  rw [exec_bind_of_ok _ (exec_get s), exec_lift]

theorem exec_read (access : Store → Except AccessError α) (s : RunState) :
    (read access).exec s = (((access s.store).mapError .access).mapError .failed, s) :=
  exec_lift_store (fun store => (access store).mapError .access) s

theorem exec_access (action : Store → Except AccessError α × Store) (s : RunState) :
    (access action).exec s = (((action s.store).1.mapError .access).mapError .failed,
      { s with store := (action s.store).2 }) :=
  exec_lift ..

theorem exec_checksOf (env : Environment) (c : Class) (s : RunState) :
    (checksOf env c).exec s = ((s.compiled.resolve c env.configurers).1.mapError .failed,
      { s with compiled := (s.compiled.resolve c env.configurers).2 }) :=
  exec_lift ..

theorem exec_setOf (env : Environment) (id : String) (s : RunState) :
    (setOf env id).exec s = match s.sets.resolve id env.configurers with
      | .ok (found, sets) => (.ok found, { s with sets })
      | .error e => (.error (.failed e), s) := by
  simp only [setOf, exec_bind, exec_get]
  cases s.sets.resolve id env.configurers <;> rfl

theorem mapError_ok {ε ε' : Type} {f : ε → ε'} {r : Except ε α} : r.mapError f = .ok a ↔ r = .ok a := by
  cases r with
  | error reason => constructor <;> intro h <;> cases h
  | ok b => constructor <;> intro h <;> cases h <;> rfl

theorem mapError_error {ε ε' : Type} {f : ε → ε'} {r : Except ε α} {e : ε'} :
    r.mapError f = .error e ↔ ∃ reason, r = .error reason ∧ f reason = e := by
  cases r with
  | error reason =>
    constructor
    · intro h
      cases h
      exact ⟨reason, rfl, rfl⟩
    · rintro ⟨_, ⟨⟩, rfl⟩
      rfl
  | ok b =>
    constructor
    · intro h
      cases h
    · rintro ⟨_, h, _⟩
      cases h

theorem toOption_map_eq_some {ε : Type} {r : Except ε α} {f : α → β} :
    r.toOption.map f = some b ↔ ∃ a, r = .ok a ∧ f a = b := by
  cases r <;> simp [Except.toOption]

theorem exec_lift_ok {r : Except ValidationError α} :
    (lift r).exec s = (.ok a, s') ↔ r = .ok a ∧ s = s' := by
  simp [exec_lift, mapError_ok]

theorem exec_read_ok {access : Store → Except AccessError α} :
    (read access).exec s = (.ok a, s') ↔ access s.store = .ok a ∧ s = s' := by
  simp [exec_read, mapError_ok]

theorem exec_access_ok {action : Store → Except AccessError α × Store} :
    (access action).exec s = (.ok a, s') ↔
      (action s.store).1 = .ok a ∧ { s with store := (action s.store).2 } = s' := by
  simp [exec_access, mapError_ok]

theorem exec_checksOf_ok {env : Environment} :
    (checksOf env c).exec s = (.ok checks, s') ↔
      (s.compiled.resolve c env.configurers).1 = .ok checks ∧
        { s with compiled := (s.compiled.resolve c env.configurers).2 } = s' := by
  simp [exec_checksOf, mapError_ok]

theorem exec_checksOf_error {env : Environment} :
    (checksOf env c).exec s = (.error e, s') ↔
      (∃ reason, (s.compiled.resolve c env.configurers).1 = .error reason ∧ .failed reason = e) ∧
        { s with compiled := (s.compiled.resolve c env.configurers).2 } = s' := by
  simp [exec_checksOf, mapError_error]

theorem exec_setOf_ok {env : Environment} {id : String} :
    (setOf env id).exec s = (.ok found, s') ↔
      ∃ sets, s.sets.resolve id env.configurers = .ok (found, sets) ∧ { s with sets } = s' := by
  rw [exec_setOf]
  rcases s.sets.resolve id env.configurers with e | ⟨other, sets⟩
  · simp
  · simp only [Prod.mk.injEq, Except.ok.injEq]
    constructor
    · rintro ⟨rfl, rfl⟩
      exact ⟨sets, ⟨rfl, rfl⟩, rfl⟩
    · rintro ⟨_, ⟨rfl, rfl⟩, rfl⟩
      exact ⟨rfl, rfl⟩

theorem exec_setOf_error {env : Environment} {id : String} :
    (setOf env id).exec s = (.error e, s') ↔
      (∃ reason, s.sets.resolve id env.configurers = .error reason ∧ .failed reason = e) ∧ s = s' := by
  rw [exec_setOf]
  rcases s.sets.resolve id env.configurers with reason | found <;> simp

theorem gather_singleton (step : α → Run (List β)) (a : α) : gather step [a] = step a := by
  simp only [gather, pure_bind, List.append_nil, bind_pure]

/-- A gathering is of a kind if its steps are, and doing nothing is, and one run after another. -/
theorem gather_induction {Q : Run (List β) → Prop} {step : α → Run (List β)} {l : List α}
    (nil : Q (pure []))
    (append : ∀ m m', Q m → Q m' → Q (do
      let front ← m
      let back ← m'
      pure (front ++ back)))
    (h : ∀ a ∈ l, Q (step a)) : Q (gather step l) := by
  induction l with
  | nil => exact nil
  | cons a rest ih =>
    exact append _ _ (h a List.mem_cons_self) (ih fun b hb => h b (List.mem_cons_of_mem _ hb))

theorem gather_append (step : α → Run (List β)) (first second : List α) :
    gather step (first ++ second) = (do
      let front ← gather step first
      let back ← gather step second
      pure (front ++ back)) := by
  induction first with
  | nil => simp only [List.nil_append, gather, pure_bind, bind_pure]
  | cons a rest ih =>
    simp only [List.cons_append, gather, ih, bind_assoc, pure_bind, List.append_assoc]

theorem exec_append_ok {m m' : Run (List β)} {all : List β}
    (h : Run.exec (do
      let front ← m
      let back ← m'
      pure (front ++ back)) s = (.ok all, s'')) :
    ∃ front s' back, m.exec s = (.ok front, s') ∧ m'.exec s' = (.ok back, s'') ∧
      all = front ++ back := by
  obtain ⟨front, s', hfront, h⟩ := exec_bind_ok.mp h
  obtain ⟨back, _, hback, h⟩ := exec_bind_ok.mp h
  cases h
  exact ⟨front, s', back, hfront, hback, rfl⟩

theorem exec_gather_middle {step : α → Run (List β)} {a : α} {front back : List α} {all : List β}
    (h : (gather step (front ++ a :: back)).exec s = (.ok all, s')) :
    ∃ before s₁ own s₂ after, (gather step front).exec s = (.ok before, s₁) ∧
      (step a).exec s₁ = (.ok own, s₂) ∧ (gather step back).exec s₂ = (.ok after, s') ∧
      all = before ++ (own ++ after) := by
  rw [gather_append] at h
  obtain ⟨before, s₁, _, hbefore, hrest, rfl⟩ := exec_append_ok h
  obtain ⟨own, s₂, after, hown, hafter, rfl⟩ := exec_append_ok hrest
  exact ⟨before, s₁, own, s₂, after, hbefore, hown, hafter, rfl⟩

end Run

namespace Traversal

variable (env : Environment)

-- ---------------------------------------------------------------------------
-- What a check looks at
-- ---------------------------------------------------------------------------

/-- The sites at which a check of a site is evaluated: none unless one of its profiles is active and
its condition holds, else its positions at the site or at the one its target path leads to. -/
def outlook (store : Store) (check : Check) (site : Site) : Except ValidationError (List Site) :=
  if !env.profiles.isAnyEnabled check.profiles env.requested then .ok []
  else do
    if !(← check.isActive env.languages site.owner site.value store) then return []
    match check.target with
    | none => return site.positions check.targets
    | some path =>
      match ← TargetPath.navigate path store site.value with
      | none => return []
      | some value => return { site with value, declared := .any }.positions check.targets

theorem positions_onlyContainer (site : Site) : site.positions .onlyContainer = [site] := by
  obtain ⟨owner, value, declared, context⟩ := site
  cases value <;> simp [Site.positions, Site.reached, Site.own, Targets.onlyContainer]

theorem applyCheck_eq (nested : Nested) (site : Site) (check : Check) :
    applyCheck env nested site check = (do
      let sites ← Run.lift (outlook env (← get).store check site)
      Run.gather (evaluate env nested check) sites) := by
  apply Run.ext
  intro s
  unfold applyCheck outlook
  by_cases hp : env.profiles.isAnyEnabled check.profiles env.requested
  · simp only [hp, Bool.not_true, Bool.false_eq_true, ↓reduceIte]
    rw [Run.exec_bind_of_ok _ (Run.exec_get s), Run.exec_bind_of_ok _ (Run.exec_get s)]
    rcases check.isActive env.languages site.owner site.value s.store with e | _ | _
    · rfl
    · rfl
    · cases check.target with
      | none => rfl
      | some path =>
        simp only [Run.exec_bind, Run.exec_lift]
        rcases TargetPath.navigate path s.store site.value with e | _ | value <;> rfl
  · simp only [hp]
    rfl

/-- A check of containers without profiles, condition and target path is evaluated where it is applied. -/
theorem applyCheck_plain (nested : Nested) (site : Site) {check : Check} (hprofiles : check.profiles = [])
    (hcondition : check.condition = none) (htarget : check.target = none)
    (htargets : check.targets = .onlyContainer)
    (hactive : env.profiles.isAnyEnabled [] env.requested = true) :
    applyCheck env nested site check = evaluate env nested check site := by
  have houtlook (store : Store) : outlook env store check site = .ok [site] := by
    unfold outlook
    rw [hprofiles, hactive, htarget, htargets, positions_onlyContainer, Check.isActive, hcondition]
    rfl
  apply Run.ext
  intro s
  rw [applyCheck_eq, Run.exec_bind_of_ok _ (Run.exec_get s), houtlook]
  simp only [Run.lift, pure_bind, Run.gather_singleton]

/-- Tests a check on the value of a site. -/
def test (check : Check) (site : Site) : Run (List Violation) := do
  let satisfied ← Run.lift (check.isSatisfied env.languages env.now site.owner site.value
    site.context (← get).store)
  pure (if satisfied then [] else [violation env check site []])

theorem exec_test (check : Check) (site : Site) (s : RunState) :
    (test env check site).exec s = (((check.isSatisfied env.languages env.now site.owner site.value
      site.context s.store).map fun satisfied =>
        if satisfied then [] else [violation env check site []]).mapError .failed, s) := by
  rw [test, Run.exec_bind_of_ok _ (Run.exec_get s), Run.exec_bind, Run.exec_lift]
  cases check.isSatisfied env.languages env.now site.owner site.value site.context s.store <;> rfl

theorem evaluate_eq_test (nested : Nested) {check : Check} (h : check.isComposite = false)
    (site : Site) : evaluate env nested check site = test env check site := by
  unfold evaluate
  split
  · simp_all [Check.isComposite, CheckKind.isComposite]
  · simp_all [Check.isComposite, CheckKind.isComposite]
  · simp_all [Check.isComposite, CheckKind.isComposite]
  · rfl

-- ---------------------------------------------------------------------------
-- Levels
-- ---------------------------------------------------------------------------

/-- The interfaces whose invariants are evaluated at a level. -/
def inspected (checks : ClassChecks) (c : Class) : List Class :=
  if checks.flags.inspectInterfaces then c.allInterfaces else []

theorem visitLevel_eq (nested : Nested) (o : Object) (c : Class) :
    visitLevel env nested o c = (do
      let checks ← Run.checksOf env c
      let fields ← visitFields env nested o c checks
      let invariants ← visitInvariants env nested o checks
      let inherited ← Run.gather (visitInterface env nested o) (inspected checks c)
      let own ← applyAll env nested (checks.of .object)
        ⟨some o, .object o, .object c.name, .object c.name⟩
      pure (fields ++ invariants ++ inherited ++ own)) := by
  unfold visitLevel
  refine bind_congr fun checks => bind_congr fun fields => bind_congr fun invariants => ?_
  unfold inspected
  split <;> rfl

end Traversal

end ObjectConstraints
