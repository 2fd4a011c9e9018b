import ObjectConstraints.Proofs.References
import ObjectConstraints.Proofs.Tables

/-!
# What is evaluated on an object

The evaluations that the checks of an object amount to, told without running them: every check of
every level of its class looks at its sites, and what refers to other checks stands for these
(`Evaluations`). What is evaluated is determined by the fields, the getters and the checks
(`Evaluations.unique`).
-/

namespace ObjectConstraints

open Traversal

/-- A check at one of the sites it looks at. -/
structure Evaluation where
  check : Check
  site : Site

namespace Evaluation

/-- An evaluation that validates an object. -/
def CascadesInto (evaluation : Evaluation) (o : Object) : Prop :=
  evaluation.check.kind = .assertValid ∧ evaluation.site.value = .object o

/-- Whether the check is one that is tested on the value, and the value fails it. -/
def fails (env : Environment) (store : Store) (evaluation : Evaluation) : Bool :=
  let site := evaluation.site
  !evaluation.check.isComposite &&
    match evaluation.check.isSatisfied env.languages env.now site.owner site.value site.context store with
    | .ok satisfied => !satisfied
    | .error _ => false

/-- The violation of an evaluation that fails. -/
def report (env : Environment) (store : Store) (evaluation : Evaluation) : List Violation :=
  if evaluation.fails env store then [violation env evaluation.check evaluation.site []] else []

end Evaluation

/-- What there is to do on an object. -/
inductive Task where
  | level (o : Object) (c : Class)
  | field (o : Object) (c : Class) (checks : ClassChecks) (name : String)
  | invariant (o : Object) (checks : ClassChecks) (method : String)
  | interface (o : Object) (c : Class)
  | apply (check : Check) (site : Site)
  | evaluate (check : Check) (site : Site)

/-- All of a list of checks at a site. -/
def applications (checks : List Check) (site : Site) : List Task := checks.map (.apply · site)

/-- The invariants of a class or an interface. -/
def invariantTasks (o : Object) (checks : ClassChecks) : List Task :=
  checks.invariants.map (.invariant o checks)

/-- All that the checks of a level ask for: fields, invariants, those of interfaces on request, and
the object itself. -/
def levelTasks (o : Object) (c : Class) (checks : ClassChecks) : List Task :=
  checks.constrainedFields.map (.field o c checks) ++ invariantTasks o checks ++
    (inspected checks c).map (.interface o) ++
    applications (checks.of .object) ⟨some o, .object o, .object c.name, .object c.name⟩

/-- All that there is to do on an object. -/
def ownTasks (o : Object) : List Task := o.cls.hierarchy.map (.level o)

/-- What a task consists of, given the store and the checks and sets that have been looked up. -/
inductive Expands (env : Environment) (s : RunState) : Task → List Task → Prop
  | level {o c checks} : s.compiled.get? c.name = some (some checks) →
      Expands env s (.level o c) (levelTasks o c checks)
  | interface {o c checks} : s.compiled.get? c.name = some (some checks) →
      Expands env s (.interface o c) (invariantTasks o checks)
  | field {o c checks name value} : o.get name s.store = .ok value →
      Expands env s (.field o c checks name) (applications (checks.of (.field name))
        ⟨some o, value, fieldKind c name, .field c.name name⟩)
  | invariant {o checks method value} : (o.invoke env.implementation method [] s.store).1 = .ok value →
      Expands env s (.invariant o checks method) (applications (checks.of (.result method 0))
        ⟨some o, value, resultKind checks.cls method 0, .result checks.cls.name method⟩)
  | apply {check site sites} : outlook env s.store check site = .ok sites →
      Expands env s (.apply check site) (sites.map (.evaluate check))
  | set {check site id found} : check.kind = .assertConstraintSet id → s.sets.get? id = some found →
      Expands env s (.evaluate check site) (applications found.checks site)
  | reference {check site field declaringClass declaring name checks} :
      check.kind = .assertFieldConstraints field declaringClass →
      (site.scope env).declared? field declaringClass = some (declaring, name) →
      s.compiled.get? declaring.name = some (some checks) →
      Expands env s (.evaluate check site) (applications (checks.of (.field name)) site)

/-- The evaluations that tasks amount to, in order. -/
inductive Evaluations (env : Environment) (s : RunState) : List Task → List Evaluation → Prop
  | nil : Evaluations env s [] []
  | evaluate {check site tasks evaluations} : check.isReference = false →
      Evaluations env s tasks evaluations →
      Evaluations env s (.evaluate check site :: tasks) (⟨check, site⟩ :: evaluations)
  | expand {task parts tasks evaluations} : Expands env s task parts →
      Evaluations env s (parts ++ tasks) evaluations → Evaluations env s (task :: tasks) evaluations

/-- The objects that a validation of an object is about: the object itself, and every one that the
evaluations of such an object cascade into. -/
inductive Reached (env : Environment) (s : RunState) (root : Object) : Object → Prop
  | root : Reached env s root root
  | cascade {o target evaluations evaluation} : Reached env s root o →
      Evaluations env s (ownTasks o) evaluations → evaluation ∈ evaluations →
      evaluation.CascadesInto target → Reached env s root target

section

variable {env : Environment}

theorem Expands.unique (h : Expands env s task parts) (h' : Expands env s task parts') :
    parts = parts' := by
  cases h <;> cases h' <;> simp_all

theorem Expands.not_evaluate (h : Expands env s (.evaluate check site) parts) :
    check.isReference = true := by
  cases h with
  | set hkind | reference hkind => simp [Check.isReference, hkind]

theorem Evaluations.unique (h : Evaluations env s tasks evaluations)
    (h' : Evaluations env s tasks evaluations') : evaluations = evaluations' := by
  induction h generalizing evaluations' with
  | nil => cases h'; rfl
  | evaluate hcheck _ ih =>
    cases h' with
    | evaluate _ h' => rw [ih h']
    | expand hexpands => simp [hexpands.not_evaluate] at hcheck
  | expand hexpands _ ih =>
    cases h' with
    | evaluate hcheck => simp [hexpands.not_evaluate] at hcheck
    | expand hexpands' h' => exact ih (hexpands.unique hexpands' ▸ h')

theorem Evaluations.append (h : Evaluations env s first evaluations)
    (h' : Evaluations env s second evaluations') :
    Evaluations env s (first ++ second) (evaluations ++ evaluations') := by
  induction h with
  | nil => exact h'
  | evaluate hcheck _ ih => exact .evaluate hcheck ih
  | expand hexpands _ ih =>
    rw [List.append_assoc] at ih
    exact .expand hexpands ih

theorem Evaluations.single (hexpands : Expands env s task parts)
    (h : Evaluations env s parts evaluations) : Evaluations env s [task] evaluations :=
  .expand hexpands (by rwa [List.append_nil])

theorem Expands.later (hs : s.Before s') (hstore : s'.store = s.store)
    (h : Expands env s task parts) : Expands env s' task parts := by
  cases h with
  | level hc => exact .level (hs.compiled _ _ hc)
  | interface hc => exact .interface (hs.compiled _ _ hc)
  | field hget => exact .field (hstore ▸ hget)
  | invariant hinvoke => exact .invariant (hstore ▸ hinvoke)
  | apply hsites => exact .apply (hstore ▸ hsites)
  | set hkind hset => exact .set hkind (hs.sets _ _ hset)
  | reference hkind hdeclared hc => exact .reference hkind hdeclared (hs.compiled _ _ hc)

theorem Evaluations.later (hs : s.Before s') (hstore : s'.store = s.store)
    (h : Evaluations env s tasks evaluations) : Evaluations env s' tasks evaluations := by
  induction h with
  | nil => exact .nil
  | evaluate hcheck _ ih => exact .evaluate hcheck ih
  | expand hexpands _ ih => exact .expand (hexpands.later hs hstore) ih

theorem Evaluations.withEntered (entered : Entered) (h : Evaluations env s tasks evaluations) :
    Evaluations env { s with entered } tasks evaluations := by
  induction h with
  | nil => exact .nil
  | evaluate hcheck _ ih => exact .evaluate hcheck ih
  | expand hexpands _ ih =>
    refine .expand ?_ ih
    cases hexpands with
    | level hc => exact .level hc
    | interface hc => exact .interface hc
    | field hget => exact .field hget
    | invariant hinvoke => exact .invariant hinvoke
    | apply hsites => exact .apply hsites
    | set hkind hset => exact .set hkind hset
    | reference hkind hdeclared hc => exact .reference hkind hdeclared hc

end

end ObjectConstraints
