import ObjectConstraints.Config

/-!
# Constraint sets

Named lists of checks. A set that is not registered is put together from what the sources of
configuration say of it, and registered then.
-/

namespace ObjectConstraints

structure ConstraintSet where
  id : String
  checks : List Check
  deriving Inhabited

namespace ConstraintSet

/-- The checks of a set after another source spoke of it. The first one, and one that overwrites,
starts afresh. -/
def extend (gathered : Option (List Check)) (config : SetConfig) : List Check :=
  match gathered with
  | some checks => if config.overwrite.getD false then config.checks else checks ++ config.checks
  | none => config.checks

def gatherFrom (id : String) (gathered : Option (List Check)) (configurer : Configurer) :
    Except ValidationError (Option (List Check)) :=
  match configurer.setConfig id with
  | .error reasons => .error (.configurerFailed reasons)
  | .ok none => .ok gathered
  | .ok (some config) => .ok (some (extend gathered config))

/-- The set as the sources of configuration define it. -/
def ofConfigurers (id : String) (configurers : List Configurer) :
    Except ValidationError ConstraintSet := do
  match ← configurers.foldlM (gatherFrom id) none with
  | some checks => .ok ⟨id, checks⟩
  | none => .error (.undefinedSet id)

end ConstraintSet

abbrev ConstraintSets := Table String ConstraintSet

namespace ConstraintSets

/-- Registers a set. One of the same name is replaced only on request. -/
def add (sets : ConstraintSets) (set : ConstraintSet) (overwrite : Bool) :
    Except ValidationError ConstraintSets :=
  if !overwrite && sets.contains set.id then .error (.setAlreadyDefined set.id)
  else .ok (sets.insert set.id set)

/-- Looks a set up; one that is found in the configuration is registered. -/
def resolve (sets : ConstraintSets) (id : String) (configurers : List Configurer) :
    Except ValidationError (ConstraintSet × ConstraintSets) :=
  match sets.get? id with
  | some set => .ok (set, sets)
  | none => (ConstraintSet.ofConfigurers id configurers).map fun set => (set, sets.insert id set)

end ConstraintSets

end ObjectConstraints
