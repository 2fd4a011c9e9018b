import ObjectConstraints.Compilation
import ObjectConstraints.ConstraintSet
import ObjectConstraints.Message
import ObjectConstraints.Profiles
import ObjectConstraints.Satisfaction
import ObjectConstraints.Validation.Entered

/-!
# Runs

A run is one validation. What it can rely on is fixed; what it changes is the store, because methods
may change it, the checks and sets looked up so far, and the objects entered so far.
-/

namespace ObjectConstraints

/-- The checks compiled so far, by name of class. A class whose compilation failed keeps a place
without checks. -/
abbrev CompiledChecks := Table String (Option ClassChecks)

/-- The checks of a class, compiled unless there are some for its name. -/
def CompiledChecks.resolve (compiled : CompiledChecks) (c : Class) (configurers : List Configurer) :
    Except ValidationError ClassChecks × CompiledChecks :=
  match compiled.get? c.name with
  | some (some checks) => (.ok checks, compiled)
  | _ =>
    let result := ClassChecks.compile c configurers
    (result, compiled.insert c.name result.toOption)

/-- What a run relies on. -/
structure Environment where
  configurers : List Configurer := []
  languages : Languages := {}
  messages : MessageResolver := {}
  profiles : Profiles := {}
  implementation : Implementation
  now : Instant
  /-- The profiles the run asks for; if it does, they decide alone. -/
  requested : Option (List String) := none
  /-- The class to look for fields in where no object is validated. -/
  scope : Option Class := none

/-- What a run changes. -/
structure RunState where
  store : Store
  compiled : CompiledChecks := {}
  sets : ConstraintSets := {}
  entered : Entered := {}

/-- Why a run stops early. -/
inductive Stop where
  | failed (error : ValidationError)
  /-- The run nests deeper than it was allowed to. -/
  | tooDeep

/-- Says of the error a run failed with what was being validated. -/
def Stop.wrap (target : String) : Stop → Stop
  | .failed error => .failed (error.wrap target)
  | .tooDeep => .tooDeep

abbrev Run := ExceptT Stop (StateM RunState)

namespace Run

def fail {α : Type} (error : ValidationError) : Run α := throw (.failed error)

/-- A result that may be an error. -/
def lift {α : Type} : Except ValidationError α → Run α
  | .ok a => pure a
  | .error e => fail e

/-- An access to the store that may fail and changes nothing. -/
def read {α : Type} (access : Store → Except AccessError α) : Run α := do
  lift ((access (← get).store).mapError .access)

/-- An access to the store that may fail and may change it. -/
def access {α : Type} (action : Store → Except AccessError α × Store) : Run α := do
  let state ← get
  let (result, store) := action state.store
  set { state with store }
  lift (result.mapError .access)

/-- Gathers the results of steps for all members of a list, in order. -/
def gather {α β : Type} (step : α → Run (List β)) : List α → Run (List β)
  | [] => pure []
  | a :: rest => do
    let first ← step a
    let others ← gather step rest
    pure (first ++ others)

/-- The checks of a class, compiled on first use. -/
def checksOf (env : Environment) (c : Class) : Run ClassChecks := do
  let state ← get
  let (result, compiled) := state.compiled.resolve c env.configurers
  set { state with compiled }
  lift result

/-- The constraint set of a name, put together on first use. -/
def setOf (env : Environment) (id : String) : Run ConstraintSet := do
  let state ← get
  match state.sets.resolve id env.configurers with
  | .ok (constraintSet, sets) =>
    set { state with sets }
    pure constraintSet
  | .error e => fail e

def enter (o : Object) : Run Unit :=
  modify fun state => { state with entered := (state.entered.enter o).2 }

def isEntered (o : Object) : Run Bool := do
  return (← get).entered.contains o

end Run

end ObjectConstraints
