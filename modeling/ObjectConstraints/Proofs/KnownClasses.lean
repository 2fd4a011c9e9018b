import ObjectConstraints.Proofs.ObjectGraph
import ObjectConstraints.Proofs.References
import ObjectConstraints.Proofs.Requests

/-!
# Known classes

A validation among known objects looks up the checks of known classes only: of the classes of these
objects, their superclasses and their interfaces. The checks it finds are those that the validator
has for a class of that name, and the sets are those of the validator (`Known`).
-/

namespace ObjectConstraints

/-- Classes with all their superclasses and interfaces, those of the given objects among them. -/
structure ClassesOf (objects : List Object) (classes : List Class) : Prop where
  objects : ∀ o ∈ objects, o.cls ∈ classes
  levels : ∀ c ∈ classes, ∀ d ∈ c.hierarchy, d ∈ classes
  interfaces : ∀ c ∈ classes, ∀ d ∈ c.allInterfaces, d ∈ classes

/-- The getters of objects that a validator calls, those of the invariants of known classes. -/
def Validator.Calls (v : Validator) (classes : List Class) (method : String) : Prop :=
  ∃ c ∈ classes, ∃ checks, (v.checksOf c).1 = .ok checks ∧ method ∈ checks.invariants

/-- A state in which nothing but what the validator has for the known classes and for sets can be
looked up. -/
structure Known (v : Validator) (classes : List Class) (s : RunState) : Prop where
  checks : ∀ c ∈ classes, ∀ checks, (s.compiled.resolve c v.configurers).1 = .ok checks →
    ∃ d ∈ classes, d.name = c.name ∧ (v.checksOf d).1 = .ok checks
  sets : ∀ id, s.sets.found v.configurers id = v.found id

/-- A site at a value over known objects, with a known class in scope. -/
structure Site.Within (env : Environment) (objects : List Object) (classes : List Class)
    (site : Site) : Prop where
  value : site.value.Over objects
  scope : ∀ c, (site.scope env).cls = some c → c ∈ classes

theorem Site.Within.follows {site p : Site} (h : site.Within env objects classes)
    (hp : site.Follows objects p) : p.Within env objects classes :=
  ⟨hp.value, by rw [Site.scope_eq hp.owner hp.root]; exact h.scope⟩

theorem Site.Within.of_owner (hclasses : ClassesOf objects classes) (ho : o ∈ objects)
    {value : Value} (hvalue : value.Over objects) (declared : Kind) (context : Context) :
    Site.Within env objects classes ⟨some o, value, declared, context⟩ where
  value := hvalue
  scope c hc := by
    cases hc
    exact hclasses.objects o ho

theorem Scope.declared_mem {scope : Scope} {field declaringClass : Option String}
    (hclasses : ClassesOf objects classes) (hscope : ∀ c, scope.cls = some c → c ∈ classes)
    (h : scope.declared? field declaringClass = some (declaring, name)) : declaring ∈ classes := by
  obtain ⟨c, hc, hlevel⟩ := Scope.declared_level h
  exact hclasses.levels c (hscope c hc) _ hlevel

namespace Known

variable {v : Validator} {classes : List Class}

theorem start (v : Validator) (classes : List Class) (owner : Option Object) (store : Store) :
    Known v classes (v.start owner store) :=
  ⟨fun c hc _ h => ⟨c, hc, rfl, h⟩, fun _ => rfl⟩

theorem withStore (h : Known v classes s) (store : Store) : Known v classes { s with store } :=
  ⟨h.checks, h.sets⟩

theorem checksOf (h : Known v classes s) (hc : c ∈ classes) :
    Known v classes { s with compiled := (s.compiled.resolve c v.configurers).2 } := by
  refine ⟨fun other hother checks hchecks => ?_, h.sets⟩
  cases hresult : (s.compiled.resolve c v.configurers).1 with
  | ok found =>
    by_cases hname : other.name = c.name
    · have hsame := CompiledChecks.resolve_namesake hname hresult
      obtain ⟨d, hd, hdname, hdchecks⟩ := h.checks c hc found hresult
      refine ⟨d, hd, hdname.trans hname.symm, ?_⟩
      rw [hdchecks, ← hsame]
      exact hchecks
    · exact h.checks other hother checks ((CompiledChecks.resolve_other hname) ▸ hchecks)
  | error e => exact h.checks other hother checks ((CompiledChecks.resolve_retry hresult) ▸ hchecks)

theorem setOf (h : Known v classes s) {id : String} {after : ConstraintSets}
    (hset : s.sets.resolve id v.configurers = .ok (resolved, after)) :
    Known v classes { s with sets := after } ∧ v.found id = .ok resolved := by
  refine ⟨⟨h.checks, fun other => ?_⟩, ?_⟩
  · rw [ConstraintSets.found_resolve hset, h.sets other]
  · rw [← h.sets id]
    exact ConstraintSets.found_ok.mpr ⟨after, hset⟩

end Known

-- ---------------------------------------------------------------------------
-- A ring
-- ---------------------------------------------------------------------------

/-- A class whose objects refer to one another. -/
def node : Class where
  id := 0
  name := "Node"
  superclass := none
  interfaces := []
  isInterface := false
  fields := [⟨"next", .object "Node", false⟩, ⟨"label", .string, false⟩]
  methods := []
  constructors := []

/-- Two objects without labels that refer to each other. -/
def ring : Store where
  objects := ⟨[(0, ⟨[("next", .object ⟨1, node⟩), ("label", .null)]⟩),
    (1, ⟨[("next", .object ⟨0, node⟩), ("label", .null)]⟩)]⟩
  made := 2

def ringObjects : List Object := [⟨0, node⟩, ⟨1, node⟩]

/-- Nodes cascade along their references, and have labels as a set says. -/
def nodeChecks : ClassChecks where
  cls := node
  lists := ⟨[(.field "next", [⟨none, { kind := .assertValid }⟩]),
    (.field "label", [⟨none, { kind := .assertConstraintSet "text" }⟩])]⟩
  constrainedFields := ["next", "label"]

def ringValidator : Validator where
  compiled := ⟨[("Node", some nodeChecks)]⟩
  sets := ⟨[("text", ⟨"text", [{ kind := .notNull }]⟩)]⟩

/-- A world without methods. -/
def stillWorld : World where
  implementation c m _ _ store := (.error (.notInvocable c.name m.name), store)
  now := ⟨0, 0⟩

theorem ring_classesOf : ClassesOf ringObjects [node] where
  objects o ho := by simp [ringObjects] at ho; rcases ho with rfl | rfl <;> exact List.mem_cons_self
  levels c hc d hd := by cases List.mem_singleton.mp hc; exact hd
  interfaces c hc d hd := by
    cases List.mem_singleton.mp hc
    simp [Class.allInterfaces, node, Class.walkInterfaces] at hd

theorem ring_get (h : Object.get ⟨n, node⟩ field ring = .ok value) (hn : n < 2) :
    value = .object ⟨1 - n, node⟩ ∨ value = .null := by
  have hcases : n = 0 ∨ n = 1 := by omega
  rcases hcases with rfl | rfl <;> by_cases hnext : "next" = field <;>
    by_cases hlabel : "label" = field <;>
    simp_all [Object.get, ring, Table.get?, Table.getEntry]

theorem ring_closed : ring.ClosedOver ringObjects := by
  intro o ho field value hget
  have hover : (Value.object ⟨0, node⟩).Over ringObjects ∧ (Value.object ⟨1, node⟩).Over ringObjects := by
    simp [Value.over_object, ringObjects]
  simp only [ringObjects, List.mem_cons, List.not_mem_nil, or_false] at ho
  rcases ho with rfl | rfl
  · rcases ring_get hget (by omega) with rfl | rfl
    · exact hover.2
    · exact Value.over_null
  · rcases ring_get hget (by omega) with rfl | rfl
    · exact hover.1
    · exact Value.over_null

theorem ring_calls (method : String) : ¬ ringValidator.Calls [node] method := by
  rintro ⟨c, hc, checks, hchecks, hmethod⟩
  cases List.mem_singleton.mp hc
  cases hchecks
  cases hmethod

end ObjectConstraints
