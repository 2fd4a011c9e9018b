/-!
# Classes

Declarations only: fields, methods, constructors, the superclass and the interfaces. What methods
do and what static fields hold is apart from the class.
-/

namespace ObjectConstraints

/-- The containers whose contents can be checked. -/
inductive ContainerKind where
  | collection
  | map
  | array
  deriving DecidableEq, Repr

/-- The kind a field, a parameter or a result is declared with. -/
inductive Kind where
  | any
  | bool
  | int
  | float
  | string
  | datetime
  | collection
  | map
  | array
  | object (className : String)
  deriving DecidableEq, Repr, Inhabited

/-- The container that a member declared with this kind holds. -/
def Kind.container? : Kind → Option ContainerKind
  | .collection => some .collection
  | .map => some .map
  | .array => some .array
  | _ => none

structure Field where
  name : String
  kind : Kind
  isStatic : Bool
  deriving DecidableEq, Repr

structure Parameter where
  name : Option String
  kind : Kind
  deriving DecidableEq, Repr

/-- A method. Void methods return no kind, and abstract ones cannot be invoked. -/
structure Method where
  name : String
  parameters : List Parameter
  returns : Option Kind
  isStatic : Bool
  isAbstract : Bool
  deriving DecidableEq, Repr

namespace Method

def arity (m : Method) : Nat := m.parameters.length

def isVoid (m : Method) : Bool := m.returns.isNone

/-- Whether the method returns something without being given anything. -/
def isGetter (m : Method) : Bool := m.parameters.isEmpty && !m.isVoid

end Method

/-- A class. Classes are told apart by their number; several can have one name. -/
structure Class where
  id : Nat
  name : String
  superclass : Option Class
  interfaces : List Class
  isInterface : Bool
  fields : List Field
  methods : List Method
  constructors : List (List Parameter)
  deriving Inhabited

namespace Class

/-- The class and its superclasses, from the class upward. -/
def hierarchy : Class → List Class
  | ⟨id, name, none, interfaces, isInterface, fields, methods, constructors⟩ =>
    [⟨id, name, none, interfaces, isInterface, fields, methods, constructors⟩]
  | ⟨id, name, some parent, interfaces, isInterface, fields, methods, constructors⟩ =>
    ⟨id, name, some parent, interfaces, isInterface, fields, methods, constructors⟩ ::
      parent.hierarchy

/-- The first field of that name that the class itself declares. -/
def field? (c : Class) (name : String) : Option Field :=
  c.fields.find? (·.name == name)

/-- The first method of that name and number of parameters that the class itself declares. -/
def method? (c : Class) (name : String) (arity : Nat) : Option Method :=
  c.methods.find? fun m => m.name == name && m.arity == arity

def constructor? (c : Class) (index : Nat) : Option (List Parameter) :=
  c.constructors[index]?

/-- The lowest class of the hierarchy that declares a field. -/
def declaring? (c : Class) (field : String) : Option Class :=
  c.hierarchy.find? fun d => (d.field? field).isSome

/-- The lowest class of the hierarchy that declares a method, and the method. -/
def findMethod? (c : Class) (name : String) (arity : Nat) : Option (Class × Method) :=
  c.hierarchy.findSome? fun d => (d.method? name arity).map (d, ·)

def isSubclassOf (c : Class) (name : String) : Bool :=
  c.hierarchy.any (·.name == name)

theorem hierarchy_eq (c : Class) :
    c.hierarchy = c ::
      (match c.superclass with | none => [] | some parent => parent.hierarchy) := by
  obtain ⟨id, name, superclass, interfaces, isInterface, fields, methods, constructors⟩ := c
  cases superclass <;> simp [hierarchy]

theorem mem_hierarchy_self (c : Class) : c ∈ c.hierarchy := by
  rw [hierarchy_eq]
  exact List.mem_cons_self

end Class

end ObjectConstraints
