import ObjectConstraints.Registry

/-!
# Compilation

The checks of a class are compiled from what the sources of configuration say of it, in order, and
from its switches. A configuration is read as a sequence of entries, one per member; an entry that
overwrites clears its member first.
-/

namespace ObjectConstraints

/-- What a configuration says of one member. -/
structure Entry where
  member : Member
  isInvariant : Bool := false
  overwrite : Bool
  checks : List Check

namespace ClassConfig

/-- The entries of parameter sections. Those that neither have checks nor say whether they overwrite
only fill up the list. -/
def parameterEntries (config : ClassConfig) (member : Nat → Member) (outer : Option Bool)
    (parameters : List Section) : List Entry :=
  parameters.zipIdx.filterMap fun (part, index) =>
    if part.checks.isEmpty && part.overwrite.isNone then none
    else some {
      member := member index
      overwrite := config.overwrites (part.overwrite.or outer)
      checks := part.checks }

def fieldEntry (config : ClassConfig) (field : FieldConfig) : Entry where
  member := .field field.name
  overwrite := config.overwrites field.overwrite
  checks := field.checks

def methodEntries (config : ClassConfig) (m : MethodConfig) : List Entry :=
  let result := m.result.toList.map fun part => {
    member := .result m.name m.arity
    isInvariant := m.isInvariant
    overwrite := config.overwrites (part.overwrite.or m.overwrite)
    checks := part.checks : Entry }
  result ++ config.parameterEntries (.parameter m.name m.arity) m.overwrite m.parameters

def constructorEntries (config : ClassConfig) (c : ConstructorConfig) : List Entry :=
  config.parameterEntries (.constructorParameter c.index) c.overwrite c.parameters

def objectEntry (config : ClassConfig) (part : Section) : Entry where
  member := .object
  overwrite := config.overwrites part.overwrite
  checks := part.checks

def entries (config : ClassConfig) : List Entry :=
  config.fields.map config.fieldEntry ++ config.methods.flatMap config.methodEntries ++
    config.constructors.flatMap config.constructorEntries ++
    config.object.toList.map config.objectEntry

end ClassConfig

namespace ClassChecks

def addUntracked (checks : ClassChecks) (member : Member) (isInvariant : Bool)
    (added : List Check) : Except ConfigError ClassChecks :=
  (checks.add member isInvariant (Registered.untracked added)).map (·.2)

def applyEntry (checks : ClassChecks) (entry : Entry) : Except ConfigError ClassChecks :=
  let checks := if entry.overwrite then checks.clear entry.member else checks
  checks.addUntracked entry.member entry.isInvariant entry.checks

def applyConfig (checks : ClassChecks) (config : ClassConfig) : Except ConfigError ClassChecks :=
  config.entries.foldlM applyEntry (checks.setFlags config.flags)

/-- Adds a check to a member unless one of its checks makes it superfluous. -/
def addUnless (superfluous : Check → Bool) (check : Check) (checks : ClassChecks)
    (member : Member) : Except ConfigError ClassChecks :=
  if (checks.of member).any superfluous then .ok checks
  else checks.addUntracked member false [check]

/-- Whether a check asks for the checks of a field of that name. -/
def refersTo (field : String) (check : Check) : Bool :=
  match check.kind with
  | .assertFieldConstraints (some name) _ => name == field
  | _ => false

def isNotNull (check : Check) : Bool :=
  match check.kind with
  | .notNull => true
  | _ => false

/-- Makes a member's value satisfy the checks of a field of the class. -/
def addReference (checks : ClassChecks) (target : Member × String) :
    Except ConfigError ClassChecks :=
  addUnless (refersTo target.2)
    { kind := .assertFieldConstraints (some target.2) (some checks.cls.name) } checks target.1

/-- The setters of fields with checks, each with its field. -/
def setterTargets (checks : ClassChecks) : List (Member × String) :=
  (checks.constrainedFields ++ checks.constrainedStatics).filterMap fun field =>
    let setter := setterName field
    (checks.cls.method? setter 1).map fun _ => (.parameter setter 1 0, field)

/-- The constructor parameters that have the name of a field with checks. -/
def constructorTargets (checks : ClassChecks) : List (Member × String) :=
  checks.cls.constructors.zipIdx.flatMap fun (parameters, constructor) =>
    parameters.zipIdx.filterMap fun (p, index) =>
      (p.name.filter checks.constrainedFields.contains).map fun name =>
        (.constructorParameter constructor index, name)

def parameterMembers (c : Class) : List Member :=
  c.methods.flatMap (fun m => (List.range m.arity).map (.parameter m.name m.arity)) ++
    c.constructors.zipIdx.flatMap fun (parameters, constructor) =>
      (List.range parameters.length).map (.constructorParameter constructor)

/-- Adds the checks that the switches ask for. -/
def derive (checks : ClassChecks) : Except ConfigError ClassChecks := do
  let flags := checks.flags
  let checks ← if flags.fieldsToSetters then checks.setterTargets.foldlM addReference checks
    else pure checks
  let checks ← if flags.fieldsToConstructors then
      checks.constructorTargets.foldlM addReference checks
    else pure checks
  if flags.parametersNotNull then
    (parameterMembers checks.cls).foldlM (addUnless isNotNull { kind := .notNull }) checks
  else pure checks

/-- Applies what one source of configuration says of the class. -/
def applyConfigurer (checks : ClassChecks) (configurer : Configurer) :
    Except ValidationError ClassChecks :=
  match configurer.classConfig checks.cls with
  | .error reasons => .error (.configurerFailed reasons)
  | .ok none => .ok checks
  | .ok (some config) => (checks.applyConfig config).mapError .configuration

def compile (c : Class) (configurers : List Configurer) : Except ValidationError ClassChecks := do
  let checks ← configurers.foldlM applyConfigurer { cls := c }
  checks.derive.mapError .configuration

end ClassChecks

end ObjectConstraints
