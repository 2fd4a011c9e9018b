import ObjectConstraints.Validation.Traversal

/-!
# Validators

A validator knows where configurations come from and keeps what it has made of them: the compiled
checks of classes and the constraint sets. It validates objects, single values for their members,
and the static members of classes.

Each validation is given the world it takes place in, a bound on how deep it may nest, and the
store, and answers the violations with the validator and the store afterwards.
-/

namespace ObjectConstraints

structure Validator where
  configurers : List Configurer := []
  languages : Languages := {}
  messages : MessageResolver := {}
  profiles : Profiles := {}
  compiled : CompiledChecks := {}
  sets : ConstraintSets := {}
  /-- The ticket of the check that is registered next. -/
  nextTicket : Nat := 0

/-- What methods do and what time it is. -/
structure World where
  implementation : Implementation
  now : Instant

namespace Validator

def checksOf (v : Validator) (c : Class) : Except ValidationError ClassChecks × Validator :=
  let (result, compiled) := v.compiled.resolve c v.configurers
  (result, { v with compiled })

/-- Forgets the compiled checks of the class of a name, and says whether it had a place for them. -/
def evict (v : Validator) (className : String) : Bool × Validator :=
  (v.compiled.contains className, { v with compiled := v.compiled.erase className })

def evictAll (v : Validator) : Validator := { v with compiled := {} }

/-- Compiles the checks of a class afresh. Those that had been registered one by one are lost. -/
def reconfigure (v : Validator) (c : Class) : Except ValidationError ClassChecks × Validator :=
  (v.evict c.name).2.checksOf c

def updateChecks (v : Validator) (c : Class) (change : ClassChecks → ClassChecks) :
    Except ValidationError Unit × Validator :=
  match v.checksOf c with
  | (.error e, v) => (.error e, v)
  | (.ok checks, v) =>
    (.ok (), { v with compiled := v.compiled.insert c.name (some (change checks)) })

/-- Registers checks for a member of a class, with new tickets. A refusal is turned into an error by
`refused`. -/
def addChecks (v : Validator) (c : Class) (member : Member) (isInvariant : Bool)
    (checks : List Check)
    (refused : ConfigError → ValidationError := ValidationError.ofRegistration) :
    Except ValidationError (List Registered) × Validator :=
  match v.checksOf c with
  | (.error e, v) => (.error e, v)
  | (.ok compiled, v) =>
    match compiled.add member isInvariant (Registered.numbered v.nextTicket checks) with
    | .error e => (.error (refused e), v)
    | .ok (added, compiled) =>
      (.ok added, { v with
        compiled := v.compiled.insert c.name (some compiled)
        nextTicket := v.nextTicket + checks.length })

def removeChecks (v : Validator) (c : Class) (member : Member) (handles : Handles) :
    Except ValidationError Unit × Validator :=
  v.updateChecks c (·.remove member handles)

def clearMember (v : Validator) (c : Class) (member : Member) :
    Except ValidationError Unit × Validator :=
  v.updateChecks c (·.clear member)

def addSet (v : Validator) (added : ConstraintSet) (overwrite : Bool) :
    Except ValidationError Validator :=
  (v.sets.add added overwrite).map fun sets => { v with sets }

/-- Removes a constraint set, and answers it if it was registered. -/
def removeSet (v : Validator) (id : String) : Option ConstraintSet × Validator :=
  (v.sets.get? id, { v with sets := v.sets.erase id })

def setOf (v : Validator) (id : String) : Except ValidationError (ConstraintSet × Validator) :=
  (v.sets.resolve id v.configurers).map fun (found, sets) => (found, { v with sets })

/-- Registers an expression language in place of an earlier one of that name. -/
def addLanguage (v : Validator) (id : String) (language : Language) : Validator :=
  { v with languages := v.languages.insert id language }

/-- Removes an expression language, and says whether it was there. -/
def removeLanguage (v : Validator) (id : String) : Bool × Validator :=
  (v.languages.contains id, { v with languages := v.languages.erase id })

/-- What a run on behalf of the validator relies on. -/
def environment (v : Validator) (world : World) (requested : Option (List String))
    (scope : Option Class) : Environment where
  configurers := v.configurers
  languages := v.languages
  messages := v.messages
  profiles := v.profiles
  implementation := world.implementation
  now := world.now
  requested := requested
  scope := scope

abbrev Outcome := Except Stop (List Violation) × Validator × Store

/-- Performs a run in which an object may have been entered already. -/
def perform (v : Validator) (owner : Option Object) (target : String) (run : Run (List Violation))
    (store : Store) : Outcome :=
  let entered : Entered := owner.elim {} fun o => (Entered.enter {} o).2
  let (result, state) := (ExceptT.run run).run
    { store, compiled := v.compiled, sets := v.sets, entered }
  (result.mapError (Stop.wrap target),
    { v with compiled := state.compiled, sets := state.sets }, state.store)

def refuse (v : Validator) (error : ArgumentError) (store : Store) : Outcome :=
  (.error (.failed (.invalidArgument error)), v, store)

variable (v : Validator) (world : World) (depth : Nat)

/-- Validates an object and everything it cascades into. -/
def validate (requested : Option (List String)) (o : Object) (store : Store) : Outcome :=
  let env := v.environment world requested none
  v.perform none o.text (Traversal.visit env (Nested.ofDepth env depth) o) store

/-- Validates an object, and fails if there are violations. -/
def assertValid (o : Object) (store : Store) : Except Stop Unit × Validator × Store :=
  match v.validate world depth none o store with
  | (.ok [], after) => (.ok (), after)
  | (.ok violations, after) => (.error (.failed (.violated violations)), after)
  | (.error stop, after) => (.error stop, after)

/-- Validates the static members that a class itself declares. -/
def validateStatic (c : Class) (store : Store) : Outcome :=
  let env := v.environment world none (some c)
  v.perform none c.name (Traversal.visitStatic env (Nested.ofDepth env depth) c) store

def applyMember (env : Environment) (c : Class) (member : Member) (site : Site) :
    Run (List Violation) := do
  let checks ← Run.checksOf env c
  Traversal.applyAll env (Nested.ofDepth env depth) (checks.of member) site

/-- Validates a value as that of an object's field. -/
def validateField (o : Object) (field : String) (value : Value) (store : Store) : Outcome :=
  match o.cls.declaring? field with
  | none => v.refuse (.noField o.cls.name field) store
  | some c =>
    let env := v.environment world none none
    let context := Context.field c.name field
    v.perform (some o) context.text
      (applyMember depth env c (.field field)
        ⟨some o, value, Traversal.fieldKind c field, context⟩) store

def validateResult (o : Object) (method : String) (arity : Nat) (value : Value) (store : Store) :
    Outcome :=
  match o.cls.findMethod? method arity with
  | none => v.refuse (.noMethod o.cls.name method arity) store
  | some (c, _) =>
    let env := v.environment world none none
    let context := Context.result c.name method
    v.perform (some o) context.text
      (applyMember depth env c (.result method arity)
        ⟨some o, value, Traversal.resultKind c method arity, context⟩) store

def applyParameters (env : Environment) (c : Class) (member : Nat → Member)
    (site : Nat → Parameter → Value → Site) (parameters : List Parameter) (args : List Value) :
    Run (List Violation) := do
  let checks ← Run.checksOf env c
  Run.gather (fun ((p, arg), index) =>
    Traversal.applyAll env (Nested.ofDepth env depth) (checks.of (member index)) (site index p arg))
    (parameters.zip args).zipIdx

def validateArguments (o : Object) (method : String) (args : List Value) (store : Store) :
    Outcome :=
  match o.cls.findMethod? method args.length with
  | none => v.refuse (.noMethod o.cls.name method args.length) store
  | some (c, m) =>
    let env := v.environment world none none
    v.perform (some o) (c.name ++ "." ++ method)
      (applyParameters depth env c (.parameter method args.length)
        (fun index p arg => ⟨some o, arg, p.kind, .parameter c.name method index p.name⟩)
        m.parameters args) store

def validateConstruction (c : Class) (constructor : Nat) (args : List Value) (store : Store) :
    Outcome :=
  match c.constructor? constructor with
  | none => v.refuse (.noConstructor c.name constructor) store
  | some parameters =>
    if parameters.length ≠ args.length then
      v.refuse (.argumentCount c.name constructor parameters.length args.length) store
    else
      let env := v.environment world none (some c)
      v.perform none (c.name ++ "#" ++ toString constructor)
        (applyParameters depth env c (.constructorParameter constructor)
          (fun index p arg => ⟨none, arg, p.kind, .constructorParameter c.name index p.name⟩)
          parameters args) store

end Validator

end ObjectConstraints
