import ObjectConstraints.Check

/-!
# Positions of a check

A check of a container looks at the container, at what it holds, or at both, as its targets say.
What containers inside of it hold is reached the same way.
-/

namespace ObjectConstraints

/-- A value at its place: the object that owns the member, the kind the place is declared with, and
its context. -/
structure Site where
  owner : Option Object
  value : Value
  declared : Kind
  context : Context

namespace Site

/-- Whether the value is a container, or null where a container is declared. -/
def isContainer (site : Site) : Bool :=
  site.value.container?.isSome || (site.value.isNull && site.declared.container?.isSome)

/-- The site itself, where the targets reach it: containers only as such. -/
def own (site : Site) (targets : Targets) : List Site :=
  if !site.isContainer || targets.container then [site] else []

mutual

/-- The sites that a check of a site looks at. What a container holds comes before the container,
the keys of a map before its values. -/
def reached (targets : Targets) (owner : Option Object) (declared : Kind) (context : Context) :
    Value → List Site
  | .list items =>
    (if targets.values then reachedItems targets owner context 0 items else []) ++
      own ⟨owner, .list items, declared, context⟩ targets
  | .array items =>
    (if targets.values then reachedItems targets owner context 0 items else []) ++
      own ⟨owner, .array items, declared, context⟩ targets
  | .map entries =>
    (if targets.keys then reachedKeys targets owner context 0 entries else []) ++
      (if targets.values then reachedValues targets owner context entries else []) ++
      own ⟨owner, .map entries, declared, context⟩ targets
  | value => own ⟨owner, value, declared, context⟩ targets

def reachedItems (targets : Targets) (owner : Option Object) (context : Context) (index : Nat) :
    List Value → List Site
  | [] => []
  | item :: rest =>
    reached targets owner .any (.element context index) item ++
      reachedItems targets owner context (index + 1) rest

def reachedKeys (targets : Targets) (owner : Option Object) (context : Context) (index : Nat) :
    List (Value × Value) → List Site
  | [] => []
  | (key, _) :: rest =>
    reached targets owner .any (.mapKey context index) key ++
      reachedKeys targets owner context (index + 1) rest

def reachedValues (targets : Targets) (owner : Option Object) (context : Context) :
    List (Value × Value) → List Site
  | [] => []
  | (key, value) :: rest =>
    reached targets owner .any (.mapValue context key.text) value ++
      reachedValues targets owner context rest

end

/-- The sites that a check of a site looks at. -/
def positions (targets : Targets) (site : Site) : List Site :=
  reached targets site.owner site.declared site.context site.value

end Site

end ObjectConstraints
