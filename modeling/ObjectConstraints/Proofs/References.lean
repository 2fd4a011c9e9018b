import ObjectConstraints.Proofs.Steps

/-!
# References to check lists

A check that leads on to a list of checks names a constraint set or a field. Which one that is
depends on the owner of the site, the class in scope and the member the site belongs to, and on
nothing else of the site.
-/

namespace ObjectConstraints

open Traversal

/-- What lists of checks are known by: constraint sets by their names, those of fields by the name of
the class and the name of the field. -/
inductive CheckSource where
  | set (id : String)
  | field (className field : String)

/-- Where references to fields are looked for: a class, and the field that the member stands for. -/
structure Scope where
  cls : Option Class
  inferred : Option String

/-- The scope of a site. -/
def Site.scope (env : Environment) (site : Site) : Scope where
  cls := (site.owner.map (·.cls)).or env.scope
  inferred := site.context.inferredField

theorem Site.scope_eq {env : Environment} {site p : Site} (howner : p.owner = site.owner)
    (hroot : p.context.root = site.context.root) : p.scope env = site.scope env := by
  simp only [scope, Context.inferredField, howner, hroot]

/-- The field that a reference is about, with the class that declares it. -/
def Scope.declared? (scope : Scope) (field declaringClass : Option String) : Option (Class × String) :=
  (field.or scope.inferred).bind fun name => scope.cls.bind fun c =>
    ((c.hierarchy.filter fun level => declaringClass.all (level.name == ·)).find?
      fun level => (level.field? name).isSome).map (·, name)

theorem Scope.declared_level {scope : Scope} {field declaringClass : Option String}
    (h : scope.declared? field declaringClass = some (declaring, name)) :
    ∃ c, scope.cls = some c ∧ declaring ∈ c.hierarchy := by
  simp only [declared?, Option.bind_eq_some_iff, Option.map_eq_some_iff, Prod.mk.injEq] at h
  obtain ⟨_, _, c, hc, _, hfound, rfl, _⟩ := h
  exact ⟨c, hc, (List.mem_filter.mp (List.mem_of_find?_eq_some hfound)).1⟩

/-- The list of checks that a check leads on to. -/
def Check.leadsTo? (check : Check) (scope : Scope) : Option CheckSource :=
  match check.kind with
  | .assertConstraintSet id => some (.set id)
  | .assertFieldConstraints field declaringClass =>
    (scope.declared? field declaringClass).map fun (c, name) => .field c.name name
  | _ => none

/-- Whether a check refers to other checks instead of looking at the value. -/
def Check.isReference (check : Check) : Bool :=
  match check.kind with
  | .assertConstraintSet _ | .assertFieldConstraints .. => true
  | _ => false

variable {env : Environment} {site : Site} {field declaringClass : Option String}

theorem referencedChecks_some
    (h : (site.scope env).declared? field declaringClass = some (declaring, name)) :
    referencedChecks env site field declaringClass = (do
      return (← Run.checksOf env declaring).of (.field name)) := by
  unfold referencedChecks
  simp only [Scope.declared?, Site.scope, Option.bind_eq_some_iff, Option.map_eq_some_iff,
    Prod.mk.injEq] at h
  obtain ⟨_, hname, c, hc, _, hfound, rfl, rfl⟩ := h
  simp only [hname, hc, hfound]

theorem referencedChecks_none (h : (site.scope env).declared? field declaringClass = none) :
    ∃ name, referencedChecks env site field declaringClass =
      Run.fail (.fieldNotResolved name site.context.text) := by
  unfold referencedChecks
  unfold Scope.declared? Site.scope at h
  split
  · exact ⟨_, rfl⟩
  · next name hname =>
    split
    · exact ⟨_, rfl⟩
    · next c hc =>
      simp only [hname, hc, Option.bind_some, Option.map_eq_none_iff] at h
      simp only [h]
      exact ⟨_, rfl⟩

end ObjectConstraints
