import ObjectConstraints.Failure

/-!
# Configurations

What a source of configuration says about a class and about a named set of checks. A class is
configured in sections, one per member; the sections of several configurations are gathered in
order, and one that overwrites drops those before it.
-/

namespace ObjectConstraints

/-- The switches of a class. -/
structure Flags where
  checkInvariants : Bool := false
  /-- Setters are given the checks of their fields. -/
  fieldsToSetters : Bool := false
  /-- Constructor parameters are given the checks of the fields of their names. -/
  fieldsToConstructors : Bool := false
  /-- No parameter may be null. -/
  parametersNotNull : Bool := false
  /-- The invariants of implemented interfaces are evaluated too. -/
  inspectInterfaces : Bool := false
  deriving DecidableEq, Repr, Inhabited

/-- Switches that are set or left as they are. -/
structure FlagSettings where
  checkInvariants : Option Bool := none
  fieldsToSetters : Option Bool := none
  fieldsToConstructors : Option Bool := none
  parametersNotNull : Option Bool := none
  inspectInterfaces : Option Bool := none
  deriving DecidableEq, Repr, Inhabited

namespace FlagSettings

def apply (settings : FlagSettings) (flags : Flags) : Flags where
  checkInvariants := settings.checkInvariants.getD flags.checkInvariants
  fieldsToSetters := settings.fieldsToSetters.getD flags.fieldsToSetters
  fieldsToConstructors := settings.fieldsToConstructors.getD flags.fieldsToConstructors
  parametersNotNull := settings.parametersNotNull.getD flags.parametersNotNull
  inspectInterfaces := settings.inspectInterfaces.getD flags.inspectInterfaces

def followedBy (first second : FlagSettings) : FlagSettings where
  checkInvariants := second.checkInvariants.or first.checkInvariants
  fieldsToSetters := second.fieldsToSetters.or first.fieldsToSetters
  fieldsToConstructors := second.fieldsToConstructors.or first.fieldsToConstructors
  parametersNotNull := second.parametersNotNull.or first.parametersNotNull
  inspectInterfaces := second.inspectInterfaces.or first.inspectInterfaces

theorem apply_followedBy (first second : FlagSettings) (flags : Flags) :
    (first.followedBy second).apply flags = second.apply (first.apply flags) := by
  obtain ⟨a, b, c, d, e⟩ := second
  cases a <;> cases b <;> cases c <;> cases d <;> cases e <;> rfl

end FlagSettings

/-- The checks of one member, and whether they replace earlier ones; left open, that is decided by
what surrounds the section. -/
structure Section where
  checks : List Check := []
  overwrite : Option Bool := none
  deriving Inhabited

structure FieldConfig where
  name : String
  checks : List Check := []
  overwrite : Option Bool := none
  deriving Inhabited

/-- The checks of a method, which is told by name and number of parameters. -/
structure MethodConfig where
  name : String
  arity : Nat
  /-- Whether the result is checked whenever an object is validated. -/
  isInvariant : Bool := false
  parameters : List Section := []
  result : Option Section := none
  overwrite : Option Bool := none
  deriving Inhabited

/-- The checks of a constructor's parameters; constructors are told by their position. -/
structure ConstructorConfig where
  index : Nat
  parameters : List Section := []
  overwrite : Option Bool := none
  deriving Inhabited

structure ClassConfig where
  className : String
  flags : FlagSettings := {}
  overwrite : Option Bool := none
  fields : List FieldConfig := []
  methods : List MethodConfig := []
  constructors : List ConstructorConfig := []
  object : Option Section := none
  deriving Inhabited

/-- Whether a section overwrites: as it says itself, else as its class says, else not. -/
def ClassConfig.overwrites (config : ClassConfig) (own : Option Bool) : Bool :=
  (own.or config.overwrite).getD false

structure SetConfig where
  id : String
  checks : List Check := []
  overwrite : Option Bool := none
  deriving Inhabited

/-- A source of configuration. It answers what it knows of a class and of a named set, or fails with
a chain of reasons. -/
structure Configurer where
  classConfig : Class → Except (List String) (Option ClassConfig)
  setConfig : String → Except (List String) (Option SetConfig)

/-- A source that fails whatever it is asked. -/
def Configurer.failing (reasons : List String) : Configurer :=
  ⟨fun _ => .error reasons, fun _ => .error reasons⟩

/-- The configurations a program has put together itself, by name of class and of set. -/
structure ConfigTable where
  classes : Table String ClassConfig := {}
  sets : Table String SetConfig := {}
  deriving Inhabited

namespace ConfigTable

/-- Stores the configuration of a class in place of an earlier one. -/
def addClass (table : ConfigTable) (config : ClassConfig) : ConfigTable :=
  { table with classes := table.classes.insert config.className config }

/-- Stores the configuration of a set in place of an earlier one. -/
def addSet (table : ConfigTable) (config : SetConfig) : ConfigTable :=
  { table with sets := table.sets.insert config.id config }

def removeClass (table : ConfigTable) (className : String) : ConfigTable :=
  { table with classes := table.classes.erase className }

def class? (table : ConfigTable) (className : String) : Option ClassConfig :=
  table.classes.get? className

def set? (table : ConfigTable) (id : String) : Option SetConfig := table.sets.get? id

def configurer (table : ConfigTable) : Configurer :=
  ⟨fun c => .ok (table.class? c.name), fun id => .ok (table.set? id)⟩

end ConfigTable

end ObjectConstraints
