import ObjectConstraints.Context
import ObjectConstraints.Model.Value

/-!
# Values and contexts in JSON

A value whose type JSON lacks is an object with one member, whose key is a tag: `f` for a double,
`dt` for a time, `list`, `array` and `map` for containers and `obj` for an object. Doubles are
written as text, since they need not be finite, and objects by names. Besides, `json` tags what is
read as the value of a JSON value, without tags.
-/

namespace ObjectConstraints

/-- A double as a tagged text. -/
def Double.toJson (x : Double) : Json := .object [("f", .string x.text)]

/-- Reads a number, or a double as a tagged text. What is neither is not a number. -/
def Double.ofJson : Json → Double
  | .int n => Double.ofInt n
  | .double x => x
  | .object [("f", .string t)] => (Double.ofText? t).getD .nan
  | _ => .nan

namespace Value

mutual

/-- A value with tags, and objects under their names. -/
def toTagged (objectName : Object → String) : Value → Json
  | .null => .null
  | .bool b => .bool b
  | .int n => .int n
  | .float x => x.toJson
  | .string s => .string s
  | .instant t => .object [("dt", .string t.text)]
  | .list items => .object [("list", .array (itemsToTagged objectName items))]
  | .array items => .object [("array", .array (itemsToTagged objectName items))]
  | .map entries => .object [("map", .array (entriesToTagged objectName entries))]
  | .object o => .object [("obj", .string (objectName o))]

def itemsToTagged (objectName : Object → String) : List Value → List Json
  | [] => []
  | item :: items => toTagged objectName item :: itemsToTagged objectName items

/-- Every entry is an array of its key and its value. -/
def entriesToTagged (objectName : Object → String) : List (Value × Value) → List Json
  | [] => []
  | (key, value) :: entries =>
    .array [toTagged objectName key, toTagged objectName value] ::
      entriesToTagged objectName entries

end

mutual

/-- Reads a value with tags, given the objects by name. What has no meaning is read as null. -/
def ofTagged (objectNamed : String → Option Object) : Json → Value
  | .bool b => .bool b
  | .int n => .int n
  | .double x => .float x
  | .string s => .string s
  | .object [("f", .string t)] => .float ((Double.ofText? t).getD .nan)
  | .object [("dt", .string t)] => ((Instant.ofText? t).map .instant).getD .null
  | .object [("list", .array items)] => .list (itemsOfTagged objectNamed items)
  | .object [("array", .array items)] => .array (itemsOfTagged objectNamed items)
  | .object [("map", .array entries)] => .map (entriesOfTagged objectNamed entries)
  | .object [("obj", .string name)] => ((objectNamed name).map .object).getD .null
  | .object [("json", json)] => .ofJson json
  | _ => .null

def itemsOfTagged (objectNamed : String → Option Object) : List Json → List Value
  | [] => []
  | item :: items => ofTagged objectNamed item :: itemsOfTagged objectNamed items

def entriesOfTagged (objectNamed : String → Option Object) : List Json → List (Value × Value)
  | [] => []
  | .array [key, value] :: entries =>
    (ofTagged objectNamed key, ofTagged objectNamed value) :: entriesOfTagged objectNamed entries
  | _ :: entries => entriesOfTagged objectNamed entries

end

end Value

namespace Context

/-- A context in JSON: its kind, then its parts; a position nests the context it is in. -/
def toJson : Context → Json
  | .field c member =>
    .ofMembers [("kind", .string "field"), ("class", .string c), ("field", .string member)]
  | .result c method =>
    .ofMembers [("kind", .string "return"), ("class", .string c), ("method", .string method)]
  | .parameter c method index name =>
    .ofMembers [("kind", .string "param"), ("class", .string c), ("method", .string method),
      ("index", .ofNat index), ("name", .ofOption .string name)]
  | .constructorParameter c index name =>
    .ofMembers [("kind", .string "ctor"), ("class", .string c), ("index", .ofNat index),
      ("name", .ofOption .string name)]
  | .object c => .ofMembers [("kind", .string "class"), ("class", .string c)]
  | .element parent index =>
    .ofMembers [("kind", .string "element"), ("parent", parent.toJson), ("index", .ofNat index)]
  | .mapKey parent index =>
    .ofMembers [("kind", .string "map_key"), ("parent", parent.toJson), ("index", .ofNat index)]
  | .mapValue parent key =>
    .ofMembers [("kind", .string "map_value"), ("parent", parent.toJson), ("key", .string key)]

def ofMember? (json : Json) : String → Option Context
  | "field" => do return .field (← json.string? "class") (← json.string? "field")
  | "return" => do return .result (← json.string? "class") (← json.string? "method")
  | "param" => do
    return .parameter (← json.string? "class") (← json.string? "method") (← json.nat? "index")
      (json.string? "name")
  | "ctor" => do
    return .constructorParameter (← json.string? "class") (← json.nat? "index")
      (json.string? "name")
  | "class" => do return .object (← json.string? "class")
  | _ => none

def ofJson? : Json → Option Context
  | .object [("index", .int index), ("kind", .string "element"), ("parent", parent)] => do
    return .element (← ofJson? parent) index.toNat
  | .object [("index", .int index), ("kind", .string "map_key"), ("parent", parent)] => do
    return .mapKey (← ofJson? parent) index.toNat
  | .object [("key", .string key), ("kind", .string "map_value"), ("parent", parent)] => do
    return .mapValue (← ofJson? parent) key
  | json => do ofMember? json (← json.string? "kind")

end Context

end ObjectConstraints
