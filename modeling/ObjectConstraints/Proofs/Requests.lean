import ObjectConstraints.Proofs.Simulation
import ObjectConstraints.Proofs.Tables

/-!
# Requests

All that a validator can be asked to validate, as one type. A request that is not refused is a run
on behalf of the validator (`answer_eq`), whatever checks lead to; so what every visit and every
check list keeps holds of all requests (`Plan.steps_rel`).
-/

namespace ObjectConstraints

open Traversal

/-- What can be validated: an object, with the profiles that are asked for, the static members of a
class, a value for a field, the result of a method, or the arguments of a method or a
constructor. -/
inductive Request where
  | object (requested : Option (List String)) (o : Object)
  | static (c : Class)
  | field (o : Object) (field : String) (value : Value)
  | result (o : Object) (method : String) (arity : Nat) (value : Value)
  | arguments (o : Object) (method : String) (args : List Value)
  | construction (c : Class) (constructor : Nat) (args : List Value)

/-- What a validator answers to a request. -/
def Validator.answer (v : Validator) (world : World) (depth : Nat) (store : Store) :
    Request → Validator.Outcome
  | .object requested o => v.validate world depth requested o store
  | .static c => v.validateStatic world depth c store
  | .field o field value => v.validateField world depth o field value store
  | .result o method arity value => v.validateResult world depth o method arity value store
  | .arguments o method args => v.validateArguments world depth o method args store
  | .construction c constructor args => v.validateConstruction world depth c constructor args store

/-- How a request is carried out: the object entered beforehand, what an error is wrapped with, the
class in scope, the profiles asked for, and the run. -/
structure Plan where
  owner : Option Object := none
  target : String
  scope : Option Class := none
  requested : Option (List String) := none
  steps : Environment → Nested → Run (List Violation)

/-- The checks of members of one class applied to a site each, in order. -/
def memberSteps (c : Class) (members : List (Member × Site)) (env : Environment) (nested : Nested) :
    Run (List Violation) := do
  let checks ← Run.checksOf env c
  Run.gather (fun (member, site) => applyAll env nested (checks.of member) site) members

/-- The sites of arguments, each with the parameter it is for. -/
def argumentSites (member : Nat → Member) (site : Nat → Parameter → Value → Site)
    (parameters : List Parameter) (args : List Value) : List (Member × Site) :=
  (parameters.zip args).zipIdx.map fun ((p, arg), index) => (member index, site index p arg)

/-- The plan of a request, or why it is refused. -/
def Request.plan : Request → Except ArgumentError Plan
  | .object requested o => .ok {
      target := o.text
      requested
      steps := fun env nested => visit env nested o }
  | .static c => .ok {
      target := c.name
      scope := some c
      steps := fun env nested => visitStatic env nested c }
  | .field o name value =>
    match o.cls.declaring? name with
    | none => .error (.noField o.cls.name name)
    | some c => .ok {
        owner := some o
        target := (Context.field c.name name).text
        steps := memberSteps c
          [(.field name, ⟨some o, value, fieldKind c name, .field c.name name⟩)] }
  | .result o method arity value =>
    match o.cls.findMethod? method arity with
    | none => .error (.noMethod o.cls.name method arity)
    | some (c, _) => .ok {
        owner := some o
        target := (Context.result c.name method).text
        steps := memberSteps c
          [(.result method arity, ⟨some o, value, resultKind c method arity, .result c.name method⟩)] }
  | .arguments o method args =>
    match o.cls.findMethod? method args.length with
    | none => .error (.noMethod o.cls.name method args.length)
    | some (c, m) => .ok {
        owner := some o
        target := c.name ++ "." ++ method
        steps := memberSteps c (argumentSites (.parameter method args.length)
          (fun index p arg => ⟨some o, arg, p.kind, .parameter c.name method index p.name⟩)
          m.parameters args) }
  | .construction c constructor args =>
    match c.constructor? constructor with
    | none => .error (.noConstructor c.name constructor)
    | some parameters =>
      if parameters.length ≠ args.length then
        .error (.argumentCount c.name constructor parameters.length args.length)
      else .ok {
        target := c.name ++ "#" ++ toString constructor
        scope := some c
        steps := memberSteps c (argumentSites (.constructorParameter constructor)
          (fun index p arg => ⟨none, arg, p.kind, .constructorParameter c.name index p.name⟩)
          parameters args) }

/-- The set that a name stands for. -/
def Validator.found (v : Validator) (id : String) : Except ValidationError ConstraintSet :=
  v.sets.found v.configurers id

/-- The state a run on behalf of a validator starts from. -/
def Validator.start (v : Validator) (owner : Option Object) (store : Store) : RunState where
  store := store
  compiled := v.compiled
  sets := v.sets
  entered := owner.elim {} fun o => (Entered.enter {} o).2

/-- The outcome that a run of a plan for a target amounts to. -/
def Validator.conclude (v : Validator) (target : String)
    (r : Except Stop (List Violation) × RunState) : Validator.Outcome :=
  (r.1.mapError (Stop.wrap target), { v with compiled := r.2.compiled, sets := r.2.sets }, r.2.store)

namespace Plan

/-- Carries out a plan on behalf of a validator. -/
def perform (plan : Plan) (v : Validator) (world : World) (nested : Environment → Nested)
    (store : Store) : Validator.Outcome :=
  let env := v.environment world plan.requested plan.scope
  v.perform plan.owner plan.target (plan.steps env (nested env)) store

theorem perform_eq (plan : Plan) (v : Validator) (world : World) (nested : Environment → Nested)
    (store : Store) :
    plan.perform v world nested store = v.conclude plan.target
      ((plan.steps (v.environment world plan.requested plan.scope)
        (nested (v.environment world plan.requested plan.scope))).exec (v.start plan.owner store)) :=
  rfl

end Plan

theorem Run.gather_map {α β γ : Type} (step : β → Run (List γ)) (f : α → β) (l : List α) :
    Run.gather step (l.map f) = Run.gather (fun a => step (f a)) l := by
  induction l with
  | nil => rfl
  | cons a rest ih => simp only [List.map_cons, Run.gather, ih]

theorem applyParameters_eq (depth : Nat) (env : Environment) (c : Class) (member : Nat → Member)
    (site : Nat → Parameter → Value → Site) (parameters : List Parameter) (args : List Value) :
    Validator.applyParameters depth env c member site parameters args =
      memberSteps c (argumentSites member site parameters args) env (Nested.ofDepth env depth) := by
  simp only [Validator.applyParameters, memberSteps, argumentSites, Run.gather_map]

theorem applyMember_eq (depth : Nat) (env : Environment) (c : Class) (member : Member) (site : Site) :
    Validator.applyMember depth env c member site =
      memberSteps c [(member, site)] env (Nested.ofDepth env depth) := by
  simp [Validator.applyMember, memberSteps, Run.gather]

/-- A validator refuses a request, or carries out its plan. -/
theorem answer_eq (v : Validator) (world : World) (depth : Nat) (store : Store) (request : Request) :
    v.answer world depth store request =
      match request.plan with
      | .error e => v.refuse e store
      | .ok plan => plan.perform v world (Nested.ofDepth · depth) store := by
  cases request with
  | object | static => rfl
  | field o field value =>
    simp only [Validator.answer, Validator.validateField, Request.plan, applyMember_eq]
    cases o.cls.declaring? field <;> rfl
  | result o method arity value =>
    simp only [Validator.answer, Validator.validateResult, Request.plan, applyMember_eq]
    cases o.cls.findMethod? method arity <;> rfl
  | arguments o method args =>
    simp only [Validator.answer, Validator.validateArguments, Request.plan, applyParameters_eq]
    cases o.cls.findMethod? method args.length <;> rfl
  | construction c constructor args =>
    simp only [Validator.answer, Validator.validateConstruction, Request.plan, applyParameters_eq]
    cases c.constructor? constructor with
    | none => rfl
    | some parameters => dsimp only; split <;> rfl

theorem declaring_mem (h : Class.declaring? c field = some d) : d ∈ c.hierarchy :=
  List.mem_of_find?_eq_some h

theorem findMethod_mem {method : String} (h : Class.findMethod? c method arity = some (d, m)) :
    d ∈ c.hierarchy := by
  obtain ⟨level, hlevel, hfound⟩ := List.exists_of_findSome?_eq_some h
  obtain ⟨_, _, hpair⟩ := Option.map_eq_some_iff.mp hfound
  cases hpair
  exact hlevel

section

variable {ι κ : Type} {env env' : Environment} {L : List Check → List Check → Prop}
  {W : Violation → Violation → Prop} {S : Simulation ι κ env env' L W}
  {nested : ι → Nested} {nested' : κ → Nested}

theorem memberSteps_rel (hl : S.RelLists nested nested') (c : Class) (members : List (Member × Site)) :
    S.Rel (List.Forall₂ W) (fun i => memberSteps c members env (nested i))
      (fun j => memberSteps c members env' (nested' j)) :=
  S.bind_rel (S.checksOf_rel c) fun _ _ h =>
    S.gather_rel fun (member, site) _ => hl _ _ site (h.of member)

/-- What visits and check lists keep is kept by what a request asks for. -/
theorem Plan.steps_rel (hw : env.SameWorld env') (hl : S.RelLists nested nested') {request : Request}
    (h : request.plan = .ok plan) :
    S.Rel (List.Forall₂ W) (fun i => plan.steps env (nested i))
      (fun j => plan.steps env' (nested' j)) := by
  cases request with
  | object requested o => cases h; exact Simulation.visit_rel hw hl o
  | static c => cases h; exact Simulation.visitStatic_rel hw hl c
  | field o field value =>
    simp only [Request.plan] at h
    split at h <;> cases h
    exact memberSteps_rel hl _ _
  | result o method arity value =>
    simp only [Request.plan] at h
    split at h <;> cases h
    exact memberSteps_rel hl _ _
  | arguments o method args =>
    simp only [Request.plan] at h
    split at h <;> cases h
    exact memberSteps_rel hl _ _
  | construction c constructor args =>
    simp only [Request.plan] at h
    split at h
    · cases h
    · split at h <;> cases h
      exact memberSteps_rel hl _ _

end

end ObjectConstraints
