import ObjectConstraints.Proofs.Requests

/-!
# Fallbacks

Validations in which something else is done where a constrained field cannot be read (`visitOr`,
`visitStaticOr`, `Validator.answerOr`). With an error as what is done instead they are the validations
as they are (`answerOr_raise`).
-/

namespace ObjectConstraints

open Traversal

/-- What is done where a field cannot be read. -/
abbrev Fallback := AccessError → Run Value

/-- Fails with the reason for which the field cannot be read. -/
def Fallback.raise : Fallback := fun e => Run.fail (.access e)

namespace Run

/-- Reads a field, or does something else. -/
def readOr (fallback : Fallback) (access : Store → Except AccessError Value) : Run Value := do
  match access (← get).store with
  | .ok value => pure value
  | .error e => fallback e

theorem exec_readOr_ok (fallback : Fallback) {access : Store → Except AccessError Value}
    (h : access s.store = .ok value) : (readOr fallback access).exec s = (.ok value, s) := by
  rw [readOr, exec_bind_of_ok _ (exec_get s), h]
  rfl

theorem readOr_raise (access : Store → Except AccessError Value) :
    readOr .raise access = read access := by
  apply Run.ext
  intro s
  rw [readOr, exec_bind_of_ok _ (exec_get s), exec_read]
  cases access s.store <;> rfl

end Run

namespace Traversal

variable (env : Environment) (fallback : Fallback) (nested : Nested)

def visitFieldsOr (o : Object) (c : Class) (checks : ClassChecks) : Run (List Violation) :=
  Run.gather (fun field => do
    let value ← Run.readOr fallback (o.get field)
    applyAll env nested (checks.of (.field field))
      ⟨some o, value, fieldKind c field, .field c.name field⟩) checks.constrainedFields

def visitLevelOr (o : Object) (c : Class) : Run (List Violation) := do
  let checks ← Run.checksOf env c
  let fields ← visitFieldsOr env fallback nested o c checks
  let invariants ← visitInvariants env nested o checks
  let inherited ← Run.gather (visitInterface env nested o) (inspected checks c)
  let own ← applyAll env nested (checks.of .object)
    ⟨some o, .object o, .object c.name, .object c.name⟩
  pure (fields ++ invariants ++ inherited ++ own)

def visitOr (o : Object) : Run (List Violation) := do
  Run.enter o
  Run.gather (visitLevelOr env fallback nested o) o.cls.hierarchy

def visitStaticOr (c : Class) : Run (List Violation) := do
  let checks ← Run.checksOf env c
  let fields ← Run.gather (fun field => do
    let value ← Run.readOr fallback (c.getStatic field)
    applyAll env nested (checks.of (.field field))
      ⟨none, value, fieldKind c field, .field c.name field⟩) checks.constrainedStatics
  let results ← Run.gather (fun method => do
    let value ← Run.access (c.invokeStatic env.implementation method [])
    applyAll env nested (checks.of (.result method 0))
      ⟨none, value, resultKind c method 0, .result c.name method⟩) checks.staticInvariants
  pure (fields ++ results)

theorem visitOr_raise (o : Object) : visitOr env .raise nested o = visit env nested o := by
  unfold visitOr visit
  refine bind_congr fun _ => congrArg (Run.gather · _) (funext fun c => ?_)
  rw [visitLevel_eq, visitLevelOr]
  refine bind_congr fun checks => ?_
  simp only [visitFieldsOr, visitFields, Run.readOr_raise]

theorem visitStaticOr_raise (c : Class) : visitStaticOr env .raise nested c = visitStatic env nested c := by
  simp only [visitStaticOr, visitStatic, Run.readOr_raise]

end Traversal

def Nested.ofDepthOr (fallback : Fallback) (env : Environment) : Nat → Nested
  | 0 => ⟨fun _ => throw .tooDeep, fun _ _ => throw .tooDeep⟩
  | depth + 1 =>
    ⟨fun o => visitOr env fallback (ofDepthOr fallback env depth) o,
      fun checks site => applyAll env (ofDepthOr fallback env depth) checks site⟩

theorem Nested.ofDepthOr_raise (env : Environment) (depth : Nat) :
    ofDepthOr .raise env depth = ofDepth env depth := by
  induction depth with
  | zero => rfl
  | succ depth ih =>
    rw [ofDepthOr, ofDepth, ih]
    exact congrArg (Nested.mk · _) (funext fun o => visitOr_raise env _ o)

/-- The plan of a request in which something else is done where a field cannot be read. -/
def Request.planOr (fallback : Fallback) : Request → Except ArgumentError Plan
  | .object requested o => .ok {
      target := o.text
      requested
      steps := fun env nested => visitOr env fallback nested o }
  | .static c => .ok {
      target := c.name
      scope := some c
      steps := fun env nested => visitStaticOr env fallback nested c }
  | request => request.plan

/-- What a validator answers if something else is done where a field cannot be read. -/
def Validator.answerOr (fallback : Fallback) (v : Validator) (world : World) (depth : Nat) (store : Store)
    (request : Request) : Validator.Outcome :=
  match request.planOr fallback with
  | .error e => v.refuse e store
  | .ok plan => plan.perform v world (Nested.ofDepthOr fallback · depth) store

theorem answerOr_raise (v : Validator) (world : World) (depth : Nat) (store : Store) (request : Request) :
    v.answerOr .raise world depth store request = v.answer world depth store request := by
  rw [answer_eq, Validator.answerOr]
  simp only [Nested.ofDepthOr_raise]
  cases request with
  | object requested o =>
    simp only [Request.planOr, Request.plan, visitOr_raise]
  | static c =>
    simp only [Request.planOr, Request.plan, visitStaticOr_raise]
  | _ => rfl

end ObjectConstraints
