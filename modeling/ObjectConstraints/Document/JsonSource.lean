import ObjectConstraints.Document.Source

/-!
# Documents in JSON

Null stands for what is left out. A record is an object, or an array of its members' values in the
order of their names, which may end early.
-/

namespace ObjectConstraints.Document

/-- A JSON value by itself. -/
def Content.ofJson : Json → Content
  | .null => .null
  | .bool b => .bool b
  | .int n => if 0 ≤ n then .natural n.toNat else .signed n
  | .double x => .double x
  | .string s => .text s
  | .array items => .list (ofItems items)
  | .object members => .map (ofMembers members)
where
  ofItems : List Json → List Content
    | [] => []
    | item :: rest => Content.ofJson item :: ofItems rest
  ofMembers : List (String × Json) → List (Content × Content)
    | [] => []
    | (key, value) :: rest => (.text key, Content.ofJson value) :: ofMembers rest

namespace JsonSource

def text? : Json → Option String
  | .string s => some s
  | _ => none

def bool? : Json → Option Bool
  | .bool b => some b
  | _ => none

def integer? : Json → Option Int
  | .int n => some n
  | _ => none

def natural? (json : Json) : Option Nat :=
  (integer? json).bind fun n => if 0 ≤ n then some n.toNat else none

def optional? : Json → Option (Option Json)
  | .null => some none
  | json => some (some json)

def items? : Json → Option (List Json)
  | .array items => some items
  | _ => none

/-- A word is a string, or the only key of an object whose value is null. -/
def word? : Json → Option String
  | .string s => some s
  | .object [(word, .null)] => some word
  | _ => none

def members? : Json → Option (List (String × Json))
  | .object members => some members
  | _ => none

def record? (names : List String) : Json → Option (List (String × Json))
  | .object members => pickMembers names members
  | .array items => if items.length ≤ names.length then some (names.zip items) else none
  | _ => none

end JsonSource

def jsonSource : Source Json where
  text? := JsonSource.text?
  bool? := JsonSource.bool?
  natural? := JsonSource.natural?
  integer? := JsonSource.integer?
  optional? := JsonSource.optional?
  items? := JsonSource.items?
  word? := JsonSource.word?
  record? := JsonSource.record?
  members? := JsonSource.members?
  content? := fun json => some (Content.ofJson json)

def ofJson? (json : Json) : Option Document := jsonSource.document json

end ObjectConstraints.Document
