import ObjectConstraints.Proofs.Depth

/-!
# Sets in place of references to them

A check that refers to a constraint set, and says nothing else, stands for the checks of that set.
Validators of which one has references and the other the checks that they stand for answer alike
(`answer_inlined`), at any depth of sets inside of sets.
-/

namespace ObjectConstraints

open Traversal

-- ---------------------------------------------------------------------------
-- Lists with references and lists without them
-- ---------------------------------------------------------------------------

/-- A check that refers to a set and has no profiles, no condition, no target path and no targets of
its own. -/
structure Check.IsPlainReference (check : Check) (id : String) : Prop where
  kind : check.kind = .assertConstraintSet id
  profiles : check.profiles = []
  condition : check.condition = none
  target : check.target = none
  explicitTargets : check.explicitTargets = none

/-- A list of checks, and what becomes of it when references are replaced by what they stand for.
What stands in for a reference may have had references replaced itself. -/
inductive Inlines (found : String → Except ValidationError ConstraintSet) :
    List Check → List Check → Prop
  | nil : Inlines found [] []
  | keep {check check' : Check} {rest rest'} : check.unstamped = check'.unstamped →
      Inlines found rest rest' → Inlines found (check :: rest) (check' :: rest')
  | inline {check : Check} {id set front rest rest'} : check.IsPlainReference id →
      found id = .ok set → Inlines found set.checks front → Inlines found rest rest' →
      Inlines found (check :: rest) (front ++ rest')

/-- Results that correspond, or the same failure. -/
inductive Agree {α β : Type} (Q : α → β → Prop) :
    Except ValidationError α → Except ValidationError β → Prop
  | ok {a b} : Q a b → Agree Q (.ok a) (.ok b)
  | error (e) : Agree Q (.error e) (.error e)

/-- A validator, and one that has some references replaced in the checks of its classes and sets.
The same members stay constrained. -/
structure Validator.Inlines (v v' : Validator) : Prop where
  languages : v.languages = v'.languages
  messages : v.messages = v'.messages
  profiles : v.profiles = v'.profiles
  checks : ∀ c, Agree (ClassChecks.Corresponds (ObjectConstraints.Inlines v.found))
    (v.checksOf c).1 (v'.checksOf c).1
  sets : ∀ id, Agree (fun a b => ObjectConstraints.Inlines v.found a.checks b.checks)
    (v.found id) (v'.found id)

theorem Inlines.refl (found : String → Except ValidationError ConstraintSet) (checks : List Check) :
    Inlines found checks checks := by
  induction checks with
  | nil => exact .nil
  | cons check rest ih => exact .keep rfl ih

mutual

/-- A violation without the contexts that checks were registered for. -/
def Violation.unstamped : Violation → Violation
  | ⟨check, template, message, object, value, context, causes⟩ =>
    ⟨check.unstamped, template, message, object, value, context, Violation.unstampedAll causes⟩

/-- Violations without the contexts that checks were registered for. -/
def Violation.unstampedAll : List Violation → List Violation
  | [] => []
  | violation :: rest => violation.unstamped :: Violation.unstampedAll rest

end

/-- Violations that differ at most in the contexts that checks were registered for. -/
def Violation.Alike (a b : Violation) : Prop := a.unstamped = b.unstamped

theorem unstampedAll_eq (h : List.Forall₂ Violation.Alike violations violations') :
    Violation.unstampedAll violations = Violation.unstampedAll violations' := by
  induction h with
  | nil => rfl
  | cons h _ ih =>
    simp only [Violation.unstampedAll, ih]
    exact congrArg (· :: _) h

theorem violation_alike {env env' : Environment} (hm : env.messages = env'.messages)
    (h : check.unstamped = check'.unstamped) :
    Check.Corresponds env env' Violation.Alike check check' := by
  refine ⟨h, fun site causes causes' hcauses => ?_⟩
  have hcheck : check = { check' with context := check.context } := by
    cases check
    cases check'
    simpa [Check.unstamped] using h
  rw [hcheck]
  simp only [Violation.Alike, Traversal.violation, Violation.unstamped, unstampedAll_eq hcauses, hm]
  rfl

-- ---------------------------------------------------------------------------
-- Runs side by side
-- ---------------------------------------------------------------------------

/-- States in which classes and sets have corresponding checks. -/
structure Replaced (found : String → Except ValidationError ConstraintSet) (env env' : Environment)
    (s s' : RunState) : Prop where
  store : s.store = s'.store
  entered : s.entered = s'.entered
  checks : ∀ c, Agree (ClassChecks.Corresponds (Inlines found))
    (s.compiled.resolve c env.configurers).1 (s'.compiled.resolve c env'.configurers).1
  originals : ∀ id, s.sets.found env.configurers id = found id
  sets : ∀ id, Agree (fun a b => Inlines found a.checks b.checks)
    (found id) (s'.sets.found env'.configurers id)

/-- Steps that end alike from states with corresponding checks, in such states. -/
def Lockstep {α β : Type} (found : String → Except ValidationError ConstraintSet)
    (env env' : Environment) (Q : α → β → Prop) (m : Run α) (m' : Run β) : Prop :=
  ∀ s s', Replaced found env env' s s' →
    Ends Q (Replaced found env env') (m.exec s) (m'.exec s')

namespace Lockstep

variable {found : String → Except ValidationError ConstraintSet} {env env' : Environment}

theorem access {α : Type} (action : Store → Except AccessError α × Store) :
    Lockstep found env env' Eq (Run.access action) (Run.access action) := by
  intro s s' hr
  rw [Run.exec_access, Run.exec_access, hr.store]
  have hr' : Replaced found env env' { s with store := (action s'.store).2 }
      { s' with store := (action s'.store).2 } :=
    ⟨rfl, hr.entered, hr.checks, hr.originals, hr.sets⟩
  cases (action s'.store).1 with
  | ok a => exact .ok rfl hr'
  | error e => exact .error _ hr'

theorem enter (o : Object) : Lockstep found env env' Eq (Run.enter o) (Run.enter o) := by
  intro s s' hr
  rw [Run.exec_enter, Run.exec_enter, hr.entered]
  exact .ok rfl ⟨hr.store, rfl, hr.checks, hr.originals, hr.sets⟩

theorem checksOf (c : Class) :
    Lockstep found env env' (ClassChecks.Corresponds (Inlines found)) (Run.checksOf env c)
      (Run.checksOf env' c) := by
  intro s s' hr
  rw [Run.exec_checksOf, Run.exec_checksOf]
  have hc := hr.checks c
  generalize hx : (s.compiled.resolve c env.configurers).1 = x at hc
  generalize hy : (s'.compiled.resolve c env'.configurers).1 = y at hc
  cases hc with
  | @ok checks checks' hq =>
    refine .ok hq ⟨hr.store, hr.entered, fun other => ?_, hr.originals, hr.sets⟩
    by_cases hname : other.name = c.name
    · rw [CompiledChecks.resolve_namesake hname hx, CompiledChecks.resolve_namesake hname hy]
      exact .ok hq
    · rw [CompiledChecks.resolve_other hname, CompiledChecks.resolve_other hname]
      exact hr.checks other
  | error e =>
    refine .error _ ⟨hr.store, hr.entered, fun other => ?_, hr.originals, hr.sets⟩
    rw [CompiledChecks.resolve_retry hx, CompiledChecks.resolve_retry hy]
    exact hr.checks other

theorem setOf (id : String) :
    Lockstep found env env' (fun a b => Inlines found a.checks b.checks) (Run.setOf env id)
      (Run.setOf env' id) := by
  intro s s' hr
  have hs := hr.sets id
  rw [← hr.originals id] at hs
  generalize hx : s.sets.found env.configurers id = x at hs
  generalize hy : s'.sets.found env'.configurers id = y at hs
  cases hs with
  | @ok set set' hq =>
    obtain ⟨sets, hsets⟩ := ConstraintSets.found_ok.mp hx
    obtain ⟨sets', hsets'⟩ := ConstraintSets.found_ok.mp hy
    rw [Run.exec_setOf, Run.exec_setOf, hsets, hsets']
    refine .ok hq ⟨hr.store, hr.entered, hr.checks, fun other => ?_, fun other => ?_⟩
    · rw [ConstraintSets.found_resolve hsets, hr.originals other]
    · rw [ConstraintSets.found_resolve hsets']
      exact hr.sets other
  | error e =>
    rw [Run.exec_setOf, Run.exec_setOf, ConstraintSets.found_error.mp hx,
      ConstraintSets.found_error.mp hy]
    exact .error _ hr

end Lockstep

/-- What the first run finishes, the second one finishes alike. -/
def inlining (found : String → Except ValidationError ConstraintSet) (env env' : Environment) :
    Simulation Unit Unit env env' (Inlines found) Violation.Alike where
  Rel Q m m' := ∀ s s', Replaced found env env' s s' → Finished ((m ()).exec s).1 →
    Ends Q (Replaced found env env') ((m ()).exec s) ((m' ()).exec s')
  pure_rel h _ _ hr _ := .ok h hr
  bind_rel {α β γ δ Q R m m' f f'} hm hf s s' hr hfin := by
    rw [Run.exec_bind] at hfin ⊢
    rw [Run.exec_bind]
    have hend := hm s s' hr
    generalize (m ()).exec s = x at hend hfin
    generalize (m' ()).exec s' = y at hend
    rcases x with ⟨e | a, t⟩
    · cases hend (finished_error.mpr (finished_error.mp hfin)) with
      | error e ht => exact .error e ht
    · cases hend finished_ok with
      | ok hq ht => exact hf _ _ hq _ _ ht hfin
  fail_rel e _ _ hr _ := .error _ hr
  get_rel _ _ hr _ := .ok ⟨hr.store, hr.entered⟩ hr
  access_rel action _ _ hr _ := Lockstep.access action _ _ hr
  enter_rel o _ _ hr _ := Lockstep.enter o _ _ hr
  checksOf_rel c _ _ hr _ := Lockstep.checksOf c _ _ hr
  setOf_rel id _ _ hr _ := Lockstep.setOf id _ _ hr

/-- What the second run finishes, the first one finishes alike if it may nest deep enough. -/
def unfolding (found : String → Except ValidationError ConstraintSet) (env env' : Environment) :
    Simulation Nat Unit env env' (Inlines found) Violation.Alike where
  Rel Q m m' := ∀ s s', Replaced found env env' s s' → Finished ((m' ()).exec s').1 →
    ∃ x, Settles m s x ∧ Ends Q (Replaced found env env') x ((m' ()).exec s')
  pure_rel h _ _ hr _ := ⟨_, .const _ _, .ok h hr⟩
  bind_rel {α β γ δ Q R m m' f f'} hm hf s s' hr hfin := by
    rw [Run.exec_bind] at hfin ⊢
    have hend := hm s s' hr
    generalize (m' ()).exec s' = y at hend hfin
    rcases y with ⟨e | b, t'⟩
    · obtain ⟨x, hx, hxy⟩ := hend (finished_error.mpr (finished_error.mp hfin))
      cases hxy with
      | error e ht => exact ⟨_, hx.bind_error f, .error e ht⟩
    · obtain ⟨x, hx, hxy⟩ := hend finished_ok
      cases hxy with
      | ok hq ht =>
        obtain ⟨z, hz, hzw⟩ := hf _ _ hq _ _ ht hfin
        exact ⟨z, hx.bind_ok f hz, hzw⟩
  fail_rel e _ _ hr _ := ⟨_, .const _ _, .error _ hr⟩
  get_rel _ _ hr _ := ⟨_, .const _ _, .ok ⟨hr.store, hr.entered⟩ hr⟩
  access_rel action _ _ hr _ := ⟨_, .const _ _, Lockstep.access action _ _ hr⟩
  enter_rel o _ _ hr _ := ⟨_, .const _ _, Lockstep.enter o _ _ hr⟩
  checksOf_rel c _ _ hr _ := ⟨_, .const _ _, Lockstep.checksOf c _ _ hr⟩
  setOf_rel id _ _ hr _ := ⟨_, .const _ _, Lockstep.setOf id _ _ hr⟩

-- ---------------------------------------------------------------------------
-- References
-- ---------------------------------------------------------------------------

/-- A plain reference does nothing but apply the checks of its set where it stands. -/
theorem applyCheck_reference {env : Environment} {id : String} (h : check.IsPlainReference id)
    (hactive : env.profiles.isAnyEnabled [] env.requested = true) (nested : Nested) (site : Site) :
    applyCheck env nested site check = (do
      let set ← Run.setOf env id
      nested.apply set.checks site) := by
  have htargets : check.targets = .onlyContainer := by
    simp [Check.targets, h.explicitTargets, h.kind, CheckKind.defaultTargets]
  rw [applyCheck_plain env nested site h.profiles h.condition h.target htargets hactive]
  simp only [evaluate, h.kind]

section

variable {found : String → Except ValidationError ConstraintSet} {env env' : Environment}
  {id : String} {set : ConstraintSet}

/-- Looking up a set of the first run leaves the second one where it is. -/
theorem Replaced.setOf (hr : Replaced found env env' s s') (h : found id = .ok set) :
    ∃ t, (Run.setOf env id).exec s = (.ok set, t) ∧ Replaced found env env' t s' := by
  have hset := hr.originals id
  rw [h] at hset
  obtain ⟨sets, hsets⟩ := ConstraintSets.found_ok.mp hset
  refine ⟨{ s with sets }, Run.exec_setOf_ok.mpr ⟨sets, hsets, rfl⟩, ?_⟩
  refine ⟨hr.store, hr.entered, hr.checks, fun other => ?_, hr.sets⟩
  rw [ConstraintSets.found_resolve hsets, hr.originals other]

/-- Environments of runs on behalf of a validator and one with references replaced, in which the
default profile is active. -/
structure Environment.Inlines (env env' : Environment) : Prop where
  world : env.SameWorld env'
  messages : env.messages = env'.messages
  profiles : env.profiles = env'.profiles
  requested : env.requested = env'.requested
  active : env.profiles.isAnyEnabled [] env.requested = true

variable {ι κ : Type} {S : Simulation ι κ env env' (Inlines found) Violation.Alike}
  {nested : ι → Nested} {nested' : κ → Nested}

/-- Lists keep what single references keep. -/
theorem inlines_lists (he : env.Inlines env') (hn : S.RelNested nested nested')
    (href : ∀ check id set front site, check.IsPlainReference id → found id = .ok set →
      Inlines found set.checks front →
      S.Rel (List.Forall₂ Violation.Alike) (fun i => applyAll env (nested i) set.checks site)
        (fun j => applyAll env' (nested' j) front site) →
      S.Rel (List.Forall₂ Violation.Alike) (fun i => applyCheck env (nested i) site check)
        (fun j => applyAll env' (nested' j) front site)) :
    S.RelLists nested nested' := by
  intro checks checks' site h
  induction h with
  | nil => exact S.pure_rel .nil
  | @keep check check' _ _ hcheck _ ih =>
    have hgate : env.profiles.isAnyEnabled check.profiles env.requested =
        env'.profiles.isAnyEnabled check'.profiles env'.requested := by
      rw [he.profiles, he.requested, Check.profiles_eq hcheck]
    refine S.bind_rel (Simulation.applyCheck_rel he.world hn (violation_alike he.messages hcheck)
      hgate site) fun front front' hfront => ?_
    exact S.bind_rel ih fun back back' hback => S.pure_rel (List.rel_append hfront hback)
  | inline hplain hset hfront _ ihfront ih =>
    simp only [applyAll, Run.gather_append]
    refine S.bind_rel (href _ _ _ _ site hplain hset hfront ihfront) fun front front' hfront => ?_
    exact S.bind_rel ih fun back back' hback => S.pure_rel (List.rel_append hfront hback)

theorem inlining_ofDepth (he : env.Inlines env') (h : d ≤ e) :
    (inlining found env env').RelLists (fun _ => Nested.ofDepth env d)
      (fun _ => Nested.ofDepth env' e) := by
  induction d generalizing e with
  | zero =>
    refine inlines_lists he ⟨fun o s s' _ hfin => absurd rfl hfin,
      fun checks checks' site _ s s' _ hfin => absurd rfl hfin⟩ ?_
    intro check id set front site hplain hset _ _ s s' hr hfin
    obtain ⟨t, ht, -⟩ := hr.setOf hset
    rw [applyCheck_reference hplain he.active, Run.exec_bind_of_ok _ ht] at hfin
    exact absurd rfl hfin
  | succ d ih =>
    cases e with
    | zero => omega
    | succ e =>
      have hlists := ih (Nat.le_of_succ_le_succ h)
      refine inlines_lists he ⟨fun o => Simulation.visit_rel he.world hlists o, hlists⟩ ?_
      intro check id set front site hplain hset hfront _ s s' hr hfin
      obtain ⟨t, ht, hr'⟩ := hr.setOf hset
      rw [applyCheck_reference hplain he.active, Run.exec_bind_of_ok _ ht] at hfin ⊢
      exact ih (Nat.le_of_succ_le h) _ _ site hfront t s' hr' hfin

theorem unfolding_succ {α β : Type} {Q : α → β → Prop} {m m₁ : Nat → Run α} {m' : Unit → Run β}
    (h : (unfolding found env env').Rel Q m m') (hm : ∀ d, m₁ (d + 1) = m d) :
    (unfolding found env env').Rel Q m₁ m' := by
  intro s s' hr hfin
  obtain ⟨x, hx, hxy⟩ := h s s' hr hfin
  exact ⟨x, hx.succ hm, hxy⟩

theorem unfolding_ofDepth (he : env.Inlines env') (d : Nat) :
    (unfolding found env env').RelLists (fun e => Nested.ofDepth env e)
      (fun _ => Nested.ofDepth env' d) := by
  have href (nested' : Nested) : ∀ check id set front site, check.IsPlainReference id →
      found id = .ok set → Inlines found set.checks front →
      (unfolding found env env').Rel (List.Forall₂ Violation.Alike)
        (fun e => applyAll env (Nested.ofDepth env e) set.checks site)
        (fun _ => applyAll env' nested' front site) →
      (unfolding found env env').Rel (List.Forall₂ Violation.Alike)
        (fun e => applyCheck env (Nested.ofDepth env e) site check)
        (fun _ => applyAll env' nested' front site) := by
    intro check id set front site hplain hset _ h s s' hr hfin
    obtain ⟨t, ht, hr'⟩ := hr.setOf hset
    have happly : (unfolding found env env').Rel (List.Forall₂ Violation.Alike)
        (fun e => (Nested.ofDepth env e).apply set.checks site)
        (fun _ => applyAll env' nested' front site) := unfolding_succ h fun _ => rfl
    obtain ⟨x, ⟨bound, hx⟩, hxy⟩ := happly t s' hr' hfin
    refine ⟨x, ⟨bound, fun d hd => ?_⟩, hxy⟩
    show (applyCheck env (Nested.ofDepth env d) site check).exec s = x
    rw [applyCheck_reference hplain he.active, Run.exec_bind_of_ok _ ht]
    exact hx d hd
  induction d with
  | zero =>
    exact inlines_lists he ⟨fun o s s' _ hfin => absurd rfl hfin,
      fun checks checks' site _ s s' _ hfin => absurd rfl hfin⟩ (href _)
  | succ d ih =>
    refine inlines_lists he ⟨fun o => ?_, fun checks checks' site h => ?_⟩ (href _)
    · exact unfolding_succ (Simulation.visit_rel he.world ih o) fun _ => rfl
    · exact unfolding_succ (ih checks checks' site h) fun _ => rfl

end

-- ---------------------------------------------------------------------------
-- Answers
-- ---------------------------------------------------------------------------

/-- The profiles that a request asks for. -/
def Request.asked : Request → Option (List String)
  | .object requested _ => requested
  | _ => none

theorem plan_requested {request : Request} (h : request.plan = .ok plan) :
    plan.requested = request.asked := by
  cases request with
  | object | static => cases h; rfl
  | field | result | arguments =>
    simp only [Request.plan] at h
    split at h <;> cases h
    rfl
  | construction =>
    simp only [Request.plan] at h
    split at h
    · cases h
    · split at h <;> cases h
      rfl

/-- Outcomes with the same error or with violations that differ at most in the contexts that checks
were registered for, and with the same store. -/
def SameOutcome (x y : Validator.Outcome) : Prop :=
  x.1.map Violation.unstampedAll = y.1.map Violation.unstampedAll ∧ x.2.2 = y.2.2

theorem conclude_alike {found : String → Except ValidationError ConstraintSet}
    (h : Ends (List.Forall₂ Violation.Alike) (Replaced found env env') x y) (v v' : Validator)
    (target : String) : SameOutcome (v.conclude target x) (v'.conclude target y) := by
  cases h with
  | ok hq ht => exact ⟨congrArg Except.ok (unstampedAll_eq hq), ht.store⟩
  | error e ht => exact ⟨rfl, ht.store⟩

namespace Validator.Inlines

variable {v v' : Validator} (h : v.Inlines v')
include h

theorem start (world : World) (requested : Option (List String)) (scope : Option Class)
    (owner : Option Object) (store : Store) :
    Replaced v.found (v.environment world requested scope) (v'.environment world requested scope)
      (v.start owner store) (v'.start owner store) :=
  ⟨rfl, rfl, h.checks, fun _ => rfl, h.sets⟩

theorem environment (world : World) (scope : Option Class)
    (hactive : v.profiles.isAnyEnabled [] requested = true) :
    (v.environment world requested scope).Inlines (v'.environment world requested scope) :=
  ⟨⟨h.languages, rfl, rfl, rfl⟩, h.messages, h.profiles, rfl, hactive⟩

end Validator.Inlines

/-- Where the default profile is active, a validator with references to sets and one with what they
stand for give the same answers: if one finishes, so does the other one. The one without the
references need not nest deeper. -/
theorem answer_inlined (h : Validator.Inlines v v') (world : World) (store : Store)
    (request : Request) (hactive : v.profiles.isAnyEnabled [] request.asked = true) (d : Nat) :
    (Finished (v.answer world d store request).1 → ∀ e, d ≤ e →
        SameOutcome (v.answer world d store request) (v'.answer world e store request)) ∧
      (Finished (v'.answer world d store request).1 → ∃ bound, ∀ e, bound ≤ e →
        SameOutcome (v.answer world e store request) (v'.answer world d store request)) := by
  simp only [answer_eq]
  cases hp : request.plan with
  | error e => exact ⟨fun _ _ _ => ⟨rfl, rfl⟩, fun _ => ⟨0, fun _ _ => ⟨rfl, rfl⟩⟩⟩
  | ok plan =>
    rw [← plan_requested hp] at hactive
    have he := h.environment world plan.scope hactive
    have hstart := h.start world plan.requested plan.scope plan.owner store
    constructor
    · intro hfin e hde
      have hend := Plan.steps_rel he.world (inlining_ofDepth he hde) hp _ _ hstart
        (finished_wrap.mp hfin)
      exact conclude_alike hend v v' plan.target
    · intro hfin
      obtain ⟨x, ⟨bound, hx⟩, hend⟩ := Plan.steps_rel he.world (unfolding_ofDepth he d) hp _ _ hstart
        (finished_wrap.mp hfin)
      refine ⟨bound, fun e hbe => ?_⟩
      have hsame := conclude_alike hend v v' plan.target
      rw [← hx e hbe] at hsame
      exact hsame

/-- A class with a field. -/
def signUp : Class where
  id := 0
  name := "SignUp"
  superclass := none
  interfaces := []
  isInterface := false
  fields := [⟨"nick", .string, false⟩]
  methods := []
  constructors := []

/-- Given checks for the field. -/
def signUpChecks (checks : List Check) : ClassChecks where
  cls := signUp
  lists := ⟨[(.field "nick", Registered.untracked checks)]⟩
  constrainedFields := ["nick"]

/-- A validator with given checks for the field and a set that refers to another one. -/
def signUpValidator (checks : List Check) : Validator where
  compiled := ⟨[("SignUp", some (signUpChecks checks))]⟩
  sets := ⟨[("nick", ⟨"nick", [{ kind := .notNull }, { kind := .assertConstraintSet "size" }]⟩),
    ("size", ⟨"size", [{ kind := .minLength 3 }]⟩)]⟩

theorem of_signUpChecks (checks : List Check) (member : Member) :
    (signUpChecks checks).of member = if .field "nick" = member then checks else [] := by
  simp only [ClassChecks.of, ClassChecks.registered, signUpChecks, Table.get?, Table.getEntry]
  split
  · simp [Registered.untracked, Function.comp_def]
  · rfl

theorem checksOf_signUpValidator (checks : List Check) (c : Class) :
    ((signUpValidator checks).checksOf c).1 =
      if "SignUp" = c.name then .ok (signUpChecks checks) else ClassChecks.compile c [] := by
  by_cases h : "SignUp" = c.name <;>
    simp [Validator.checksOf, CompiledChecks.resolve, signUpValidator, Table.get?, Table.getEntry, h]

theorem signUpValidator_inlines (h : Inlines (signUpValidator checks).found checks checks') :
    (signUpValidator checks).Inlines (signUpValidator checks') := by
  refine ⟨rfl, rfl, rfl, fun c => ?_, fun id => ?_⟩
  · rw [checksOf_signUpValidator, checksOf_signUpValidator]
    split
    · refine .ok ⟨rfl, rfl, rfl, rfl, rfl, rfl, fun member => ?_⟩
      rw [of_signUpChecks, of_signUpChecks]
      split
      · exact h
      · exact .nil
    · cases ClassChecks.compile c [] with
      | ok compiled => exact .ok ⟨rfl, rfl, rfl, rfl, rfl, rfl, fun member => .refl _ _⟩
      | error e => exact .error e
  · show Agree _ ((signUpValidator checks).found id) ((signUpValidator checks).found id)
    cases (signUpValidator checks).found id with
    | ok found => exact .ok (.refl _ _)
    | error e => exact .error e

theorem answer_inlined_signUp :
    let v := signUpValidator [{ kind := .assertConstraintSet "nick" }]
    let v' := signUpValidator [{ kind := .notNull }, { kind := .minLength 3 }]
    let world : World := ⟨fun c m _ _ store => (.error (.notInvocable c.name m.name), store), ⟨0, 0⟩⟩
    let request := Request.field ⟨0, signUp⟩ "nick" (.string "ab")
    v.Inlines v' ∧ v.profiles.isAnyEnabled [] request.asked = true ∧
      (v.answer world 2 {} request).1.map (·.map (·.check.name)) = .ok ["MinLength"] ∧
      SameOutcome (v.answer world 2 {} request) (v'.answer world 2 {} request) := by
  intro v v' world request
  have hsize : Inlines v.found [{ kind := .assertConstraintSet "size" }]
      ([{ kind := .minLength 3 }] ++ []) := by
    have hfound : v.found "size" = .ok ⟨"size", [{ kind := .minLength 3 }]⟩ := rfl
    exact .inline ⟨rfl, rfl, rfl, rfl, rfl⟩ hfound (.keep rfl .nil) .nil
  have hnick : Inlines v.found [{ kind := .assertConstraintSet "nick" }]
      ([{ kind := .notNull }, { kind := .minLength 3 }] ++ []) := by
    have hfound : v.found "nick" =
      .ok ⟨"nick", [{ kind := .notNull }, { kind := .assertConstraintSet "size" }]⟩ := rfl
    exact .inline ⟨rfl, rfl, rfl, rfl, rfl⟩ hfound (.keep rfl hsize) .nil
  have h : v.Inlines v' := signUpValidator_inlines hnick
  refine ⟨h, rfl, rfl, (answer_inlined h world {} request rfl 2).1 ?_ 2 (Nat.le_refl 2)⟩
  exact finished_ok

end ObjectConstraints
