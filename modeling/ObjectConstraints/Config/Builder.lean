import ObjectConstraints.Config

/-!
# Building configurations

Configurations put together step by step. Checks given for one member gather in one section,
in the order in which they are given.
-/

namespace ObjectConstraints

namespace Section

def append (part : Section) (checks : List Check) : Section :=
  { part with checks := part.checks ++ checks }

/-- Appends checks to the section at a position; the positions before it are filled up. -/
def appendAt (checks : List Check) : Nat → List Section → List Section
  | 0, [] => [{ checks }]
  | 0, part :: rest => part.append checks :: rest
  | index + 1, [] => {} :: appendAt checks index []
  | index + 1, part :: rest => part :: appendAt checks index rest

theorem length_appendAt (checks : List Check) (index : Nat) (parts : List Section) :
    (appendAt checks index parts).length = max parts.length (index + 1) := by
  induction index generalizing parts with
  | zero => cases parts <;> simp [appendAt]
  | succ index ih =>
    cases parts <;> simp only [appendAt, ih, List.length_cons, List.length_nil] <;> omega

end Section

/-- Changes the first entry that a test accepts, or a new one at the end. -/
def updateFirst {α : Type} (test : α → Bool) (fresh : α) (change : α → α) : List α → List α
  | [] => [change fresh]
  | entry :: rest =>
    if test entry then change entry :: rest else entry :: updateFirst test fresh change rest

namespace ClassConfig

def addField (config : ClassConfig) (name : String) (checks : List Check) : ClassConfig :=
  { config with
    fields := updateFirst (·.name == name) { name }
      (fun field => { field with checks := field.checks ++ checks }) config.fields }

def updateMethod (config : ClassConfig) (name : String) (arity : Nat)
    (change : MethodConfig → MethodConfig) : ClassConfig :=
  { config with
    methods := updateFirst (fun m => m.name == name && m.arity == arity) { name, arity } change
      config.methods }

/-- Adds checks of a method's result. A method once marked as an invariant stays one. -/
def addResult (config : ClassConfig) (method : String) (arity : Nat) (isInvariant : Bool)
    (checks : List Check) : ClassConfig :=
  config.updateMethod method arity fun m =>
    { m with
      isInvariant := m.isInvariant || isInvariant
      result := some ((m.result.getD {}).append checks) }

/-- Adds checks of the result of a getter that is evaluated whenever an object is validated. -/
def addInvariant (config : ClassConfig) (getter : String) (checks : List Check) : ClassConfig :=
  config.addResult getter 0 true checks

def addParameter (config : ClassConfig) (method : String) (arity index : Nat)
    (checks : List Check) : ClassConfig :=
  config.updateMethod method arity fun m =>
    { m with parameters := Section.appendAt checks index m.parameters }

def addConstructorParameter (config : ClassConfig) (constructor index : Nat)
    (checks : List Check) : ClassConfig :=
  { config with
    constructors := updateFirst (·.index == constructor) { index := constructor }
      (fun c => { c with parameters := Section.appendAt checks index c.parameters })
      config.constructors }

def addObject (config : ClassConfig) (checks : List Check) : ClassConfig :=
  { config with object := some ((config.object.getD {}).append checks) }

end ClassConfig

end ObjectConstraints
