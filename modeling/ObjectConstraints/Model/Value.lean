import ObjectConstraints.Instant
import ObjectConstraints.Json
import ObjectConstraints.Model.Class
import ObjectConstraints.Number.DecimalText

/-!
# Values

The values that flow through a validation. Objects are references: two values are the same object
when the references have one number, whatever the fields hold.
-/

namespace ObjectConstraints

/-- A reference to an object, with the class it was made of. -/
structure Object where
  id : Nat
  cls : Class
  deriving Inhabited

/-- The address an object is shown with: twelve digits, different for different objects. -/
def Object.address (o : Object) : String :=
  let digits := Nat.toDigits 16 (0x7f0000000000 + 16 * o.id)
  "0x" ++ String.ofList digits

/-- An object as text: its class and its address. -/
def Object.text (o : Object) : String := o.cls.name ++ "@" ++ o.address

inductive Value where
  | null
  | bool (b : Bool)
  | int (n : Int)
  | float (x : Double)
  | string (s : String)
  | instant (t : Instant)
  | list (items : List Value)
  | array (items : List Value)
  | map (entries : List (Value × Value))
  | object (o : Object)
  deriving Inhabited

namespace Value

def isNull : Value → Bool
  | .null => true
  | _ => false

/-- The name of a value's type. -/
def typeName : Value → String
  | .null => "null"
  | .bool _ => "boolean"
  | .int _ => "int64"
  | .float _ => "float64"
  | .string _ => "string"
  | .instant _ => "datetime"
  | .list _ => "collection"
  | .array _ => "array"
  | .map _ => "map"
  | .object _ => "object"

/-- The kind of container a value is. -/
def container? : Value → Option ContainerKind
  | .list _ => some .collection
  | .map _ => some .map
  | .array _ => some .array
  | _ => none

/-- The number of items or entries of a container. -/
def length? : Value → Option Nat
  | .list items => some items.length
  | .array items => some items.length
  | .map entries => some entries.length
  | _ => none

def string? : Value → Option String
  | .string s => some s
  | _ => none

def int? : Value → Option Int
  | .int n => some n
  | _ => none

/-- A number as a double; integers are rounded to the nearest one. -/
def float? : Value → Option Double
  | .float x => some x
  | .int n => some (Double.ofInt n)
  | _ => none

def bool? : Value → Option Bool
  | .bool b => some b
  | _ => none

def instant? : Value → Option Instant
  | .instant t => some t
  | _ => none

def object? : Value → Option Object
  | .object o => some o
  | _ => none

mutual

/-- Equality of values: containers of one kind item by item, numbers as numbers, objects by
identity. -/
def same : Value → Value → Bool
  | .null, .null => true
  | .bool a, .bool b => a == b
  | .int a, .int b => a == b
  | .float a, .float b => a.equals b
  | .string a, .string b => a == b
  | .instant a, .instant b => a == b
  | .list a, .list b => sameItems a b
  | .array a, .array b => sameItems a b
  | .map a, .map b => sameEntries a b
  | .object a, .object b => a.id == b.id
  | _, _ => false

def sameItems : List Value → List Value → Bool
  | [], [] => true
  | x :: xs, y :: ys => same x y && sameItems xs ys
  | _, _ => false

def sameEntries : List (Value × Value) → List (Value × Value) → Bool
  | [], [] => true
  | (k, x) :: xs, (l, y) :: ys => same k l && same x y && sameEntries xs ys
  | _, _ => false

end

mutual

/-- The text of a value. Objects are never descended into, as graphs may be cyclic. -/
def text : Value → String
  | .null => "null"
  | .bool b => if b then "true" else "false"
  | .int n => toString n
  | .float x => x.text
  | .string s => s
  | .instant t => t.text
  | .list items => "[" ++ itemsText items ++ "]"
  | .array items => "[" ++ itemsText items ++ "]"
  | .map entries => "\x7b" ++ entriesText entries ++ "\x7d"
  | .object o => o.text

def itemsText : List Value → String
  | [] => ""
  | [item] => text item
  | item :: items => text item ++ ", " ++ itemsText items

def entriesText : List (Value × Value) → String
  | [] => ""
  | [(key, value)] => text key ++ "=" ++ text value
  | (key, value) :: entries => text key ++ "=" ++ text value ++ ", " ++ entriesText entries

end

mutual

/-- The value of a JSON value. Integers beyond 64 signed bits become doubles. -/
def ofJson : Json → Value
  | .null => .null
  | .bool b => .bool b
  | .int n => if Width.holdsSigned 64 n then .int n else .float (Double.ofInt n)
  | .double x => .float x
  | .string s => .string s
  | .array items => .list (ofJsonItems items)
  | .object members => .map (ofJsonMembers members)

def ofJsonItems : List Json → List Value
  | [] => []
  | item :: items => ofJson item :: ofJsonItems items

def ofJsonMembers : List (String × Json) → List (Value × Value)
  | [] => []
  | (key, value) :: members => (.string key, ofJson value) :: ofJsonMembers members

end

theorem same_object (a b : Object) : same (.object a) (.object b) = (a.id == b.id) := by
  simp [same]

end Value

end ObjectConstraints
