import ObjectConstraints.Model.Value
import ObjectConstraints.Table

/-!
# Fields and methods

The store holds the values of all fields: those of objects and the static ones of classes. What
methods compute is given by an implementation, which may read and change the store and make
objects.
-/

namespace ObjectConstraints

/-- Why a member could not be read, written or invoked. -/
inductive AccessError where
  | noSuchField (className field : String)
  | noSuchMethod (className method : String) (arity : Nat)
  | notInvocable (className method : String)
  | invocationFailed (className method message : String)
  deriving DecidableEq, Repr

def AccessError.message : AccessError → String
  | .noSuchField className field => "No field '" ++ field ++ "' on class '" ++ className ++ "'"
  | .noSuchMethod className method arity =>
    "No method '" ++ method ++ "' with " ++ toString arity ++ " parameter(s) on class '" ++
      className ++ "'"
  | .notInvocable className method => "Method '" ++ className ++ "." ++ method ++ "' has no invoker"
  | .invocationFailed className method message =>
    "Invocation of '" ++ className ++ "." ++ method ++ "' failed: " ++ message

/-- The values of all fields. The objects made so far have the numbers below `made`. -/
structure Store where
  objects : Table Nat (Table String Value) := {}
  statics : Table Nat (Table String Value) := {}
  made : Nat := 0

/-- What a method is invoked on. -/
inductive Receiver where
  | object (o : Object)
  | cls (c : Class)

/-- What methods do: the result of a method that a class declares, invoked on a receiver with
arguments, and the store afterwards. -/
abbrev Implementation :=
  Class → Method → Receiver → List Value → Store → Except AccessError Value × Store

namespace Class

/-- The static field of that name which the class itself declares. -/
def staticField? (c : Class) (field : String) : Option Field :=
  (c.field? field).filter (·.isStatic)

/-- The static fields before anything is written to them: null unless an initial value is given. -/
def initialStatics (values : List (String × Value)) : Table String Value :=
  Table.ofList values

/-- Reads a static field that the class itself declares. -/
def getStatic (c : Class) (field : String) (store : Store) : Except AccessError Value :=
  match c.staticField? field with
  | none => .error (.noSuchField c.name field)
  | some _ => .ok (((store.statics.get? c.id).bind (·.get? field)).getD .null)

/-- Writes a static field that the class itself declares. -/
def setStatic (c : Class) (field : String) (value : Value) (store : Store) :
    Except AccessError Store :=
  match c.staticField? field with
  | none => .error (.noSuchField c.name field)
  | some _ =>
    let fields := (store.statics.get? c.id).getD {}
    .ok { store with statics := store.statics.insert c.id (fields.insert field value) }

/-- The names of the fields that instances of the class have. -/
def instanceFields (c : Class) : List String :=
  c.hierarchy.flatMap fun d => (d.fields.filter (!·.isStatic)).map (·.name)

/-- Makes an object of the class whose fields are all null. -/
def make (c : Class) (store : Store) : Object × Store :=
  let fields := Table.ofList (c.instanceFields.map (·, Value.null))
  (⟨store.made, c⟩,
    { store with objects := store.objects.insert store.made fields, made := store.made + 1 })

/-- Invokes a method that a class declares. -/
def run (implementation : Implementation) (declaring : Class) (m : Method) (receiver : Receiver)
    (args : List Value) (store : Store) : Except AccessError Value × Store :=
  if m.isAbstract then (.error (.notInvocable declaring.name m.name), store)
  else implementation declaring m receiver args store

/-- Invokes a static method that the class itself declares. -/
def invokeStatic (implementation : Implementation) (c : Class) (method : String) (args : List Value)
    (store : Store) : Except AccessError Value × Store :=
  match (c.method? method args.length).filter (·.isStatic) with
  | none => (.error (.noSuchMethod c.name method args.length), store)
  | some m => run implementation c m (.cls c) args store

end Class

namespace Object

/-- Reads a field of an object. -/
def get (o : Object) (field : String) (store : Store) : Except AccessError Value :=
  match (store.objects.get? o.id).bind (·.get? field) with
  | some value => .ok value
  | none => .error (.noSuchField o.cls.name field)

/-- Writes a field that an object has. -/
def set (o : Object) (field : String) (value : Value) (store : Store) : Except AccessError Store :=
  match store.objects.get? o.id with
  | some fields =>
    if fields.contains field then
      .ok { store with objects := store.objects.insert o.id (fields.insert field value) }
    else .error (.noSuchField o.cls.name field)
  | none => .error (.noSuchField o.cls.name field)

/-- Writes several fields in order, up to the first that the object does not have. -/
def setAll (o : Object) : List (String × Value) → Store → Except AccessError Unit × Store
  | [], store => (.ok (), store)
  | (field, value) :: rest, store =>
    match o.set field value store with
    | .ok store => o.setAll rest store
    | .error e => (.error e, store)

/-- Invokes the method found first in the hierarchy. A static method is given the class of the
object. -/
def invoke (implementation : Implementation) (o : Object) (method : String) (args : List Value)
    (store : Store) : Except AccessError Value × Store :=
  match o.cls.findMethod? method args.length with
  | none => (.error (.noSuchMethod o.cls.name method args.length), store)
  | some (declaring, m) =>
    let receiver := if m.isStatic then .cls o.cls else .object o
    Class.run implementation declaring m receiver args store

end Object

end ObjectConstraints
