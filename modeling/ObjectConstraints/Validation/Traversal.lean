import ObjectConstraints.Model.Interfaces
import ObjectConstraints.TargetPath
import ObjectConstraints.Validation.Position
import ObjectConstraints.Validation.Run

/-!
# Traversal

How checks are evaluated. Most are tested on the values they look at. Three kinds lead on: into
another object, to the checks of a constraint set, and to the checks of a field. Where they lead is
given to the definitions as a parameter, so that only `Nested.ofDepth` is recursive. An object is
entered once in a run.
-/

namespace ObjectConstraints

/-- What the checks that lead on lead to. -/
structure Nested where
  visit : Object → Run (List Violation)
  apply : List Check → Site → Run (List Violation)

namespace Traversal

variable (env : Environment)

def violation (check : Check) (site : Site) (causes : List Violation) : Violation :=
  let template := env.messages.resolve check.message check.code
  let values :=
    ("context", site.context.text) :: ("invalidValue", site.value.text) :: check.kind.placeholders
  { check, template
    message := Message.render template values
    object := site.owner
    value := site.value
    context := site.context
    causes }

/-- The checks of the field that a check at a site refers to. The field is the one that is named, or
the one that the context stands for. It is looked for in the hierarchy of the owner's class, or of
the class in scope, at the level that is named, if one is. -/
def referencedChecks (site : Site) (field declaringClass : Option String) : Run (List Check) := do
  let unresolved (name : String) : ValidationError := .fieldNotResolved name site.context.text
  match field.or site.context.inferredField with
  | none => Run.fail (unresolved "?")
  | some field =>
    match (site.owner.map (·.cls)).or env.scope with
    | none => Run.fail (unresolved field)
    | some scope =>
      let levels := scope.hierarchy.filter fun c => declaringClass.all (c.name == ·)
      match levels.find? fun c => (c.field? field).isSome with
      | none => Run.fail (unresolved field)
      | some declaring => return (← Run.checksOf env declaring).of (.field field)

/-- Validates the object at a site unless it has been entered. -/
def cascade (nested : Nested) (check : Check) (site : Site) : Run (List Violation) := do
  match site.value with
  | .object target =>
    if ← Run.isEntered target then pure []
    else
      let causes ← nested.visit target
      pure (if causes.isEmpty then [] else [violation env check site causes])
  | _ => pure []

def evaluate (nested : Nested) (check : Check) (site : Site) : Run (List Violation) := do
  match check.kind with
  | .assertValid => cascade env nested check site
  | .assertConstraintSet id => do
    let constraintSet ← Run.setOf env id
    nested.apply constraintSet.checks site
  | .assertFieldConstraints field declaringClass => do
    let checks ← referencedChecks env site field declaringClass
    nested.apply checks site
  | _ =>
    let satisfied ← Run.lift (check.isSatisfied env.languages env.now site.owner site.value
      site.context (← get).store)
    pure (if satisfied then [] else [violation env check site []])

def dispatch (nested : Nested) (check : Check) (site : Site) : Run (List Violation) :=
  Run.gather (evaluate env nested check) (site.positions check.targets)

/-- Applies a check to a site, if one of its profiles is active and its condition holds. A target
path leads on to the site that is looked at. -/
def applyCheck (nested : Nested) (site : Site) (check : Check) : Run (List Violation) := do
  if !env.profiles.isAnyEnabled check.profiles env.requested then return []
  let store := (← get).store
  let isActive ← Run.lift (check.isActive env.languages site.owner site.value store)
  if !isActive then return []
  match check.target with
  | none => dispatch env nested check site
  | some path =>
    match ← Run.lift (TargetPath.navigate path store site.value) with
    | none => return []
    | some value => dispatch env nested check { site with value, declared := .any }

def applyAll (nested : Nested) (checks : List Check) (site : Site) : Run (List Violation) :=
  Run.gather (applyCheck env nested site) checks

/-- The kind that a class declares for a field. -/
def fieldKind (c : Class) (field : String) : Kind := ((c.field? field).map (·.kind)).getD .any

/-- The kind that a class declares for a method's result. -/
def resultKind (c : Class) (method : String) (arity : Nat) : Kind :=
  ((c.method? method arity).bind (·.returns)).getD .any

def visitFields (nested : Nested) (o : Object) (c : Class) (checks : ClassChecks) :
    Run (List Violation) :=
  Run.gather (fun field => do
    let value ← Run.read (o.get field)
    applyAll env nested (checks.of (.field field))
      ⟨some o, value, fieldKind c field, .field c.name field⟩) checks.constrainedFields

def visitInvariants (nested : Nested) (o : Object) (checks : ClassChecks) : Run (List Violation) :=
  Run.gather (fun method => do
    let value ← Run.access (o.invoke env.implementation method [])
    applyAll env nested (checks.of (.result method 0))
      ⟨some o, value, resultKind checks.cls method 0, .result checks.cls.name method⟩)
    checks.invariants

def visitInterface (nested : Nested) (o : Object) (interface : Class) : Run (List Violation) := do
  visitInvariants env nested o (← Run.checksOf env interface)

/-- Checks one level of an object's class: fields, invariants, those of interfaces on request, and
the object itself. -/
def visitLevel (nested : Nested) (o : Object) (c : Class) : Run (List Violation) := do
  let checks ← Run.checksOf env c
  let fields ← visitFields env nested o c checks
  let invariants ← visitInvariants env nested o checks
  let inherited ←
    if checks.flags.inspectInterfaces then
      Run.gather (visitInterface env nested o) c.allInterfaces
    else pure []
  let own ← applyAll env nested (checks.of .object)
    ⟨some o, .object o, .object c.name, .object c.name⟩
  pure (fields ++ invariants ++ inherited ++ own)

/-- Enters an object and checks all levels of its class. -/
def visit (nested : Nested) (o : Object) : Run (List Violation) := do
  Run.enter o
  Run.gather (visitLevel env nested o) o.cls.hierarchy

/-- Checks the static members that a class itself declares. -/
def visitStatic (nested : Nested) (c : Class) : Run (List Violation) := do
  let checks ← Run.checksOf env c
  let fields ← Run.gather (fun field => do
    let value ← Run.read (c.getStatic field)
    applyAll env nested (checks.of (.field field))
      ⟨none, value, fieldKind c field, .field c.name field⟩) checks.constrainedStatics
  let results ← Run.gather (fun method => do
    let value ← Run.access (c.invokeStatic env.implementation method [])
    applyAll env nested (checks.of (.result method 0))
      ⟨none, value, resultKind c method 0, .result c.name method⟩) checks.staticInvariants
  pure (fields ++ results)

end Traversal

/-- What checks lead to when they may lead on so many times in a row. -/
def Nested.ofDepth (env : Environment) : Nat → Nested
  | 0 => ⟨fun _ => throw .tooDeep, fun _ _ => throw .tooDeep⟩
  | depth + 1 =>
    ⟨fun o => Traversal.visit env (Nested.ofDepth env depth) o,
      fun checks site => Traversal.applyAll env (Nested.ofDepth env depth) checks site⟩

end ObjectConstraints
