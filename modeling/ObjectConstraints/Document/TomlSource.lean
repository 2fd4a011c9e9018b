import ObjectConstraints.Document.Source
import ObjectConstraints.Toml.Parser

/-!
# Documents in TOML

Nothing stands for what is left out. A record is a table, or an array of its members' values in the
order of their names, of which further ones do not count.
-/

namespace ObjectConstraints.Document

/-- An integer of 64 bits, signed if it can be. -/
def Content.ofInteger? (n : Int) : Option Content :=
  if Width.holdsSigned 64 n then some (.signed n)
  else if Width.holdsNatural 64 n then some (.natural n.toNat)
  else none

/-- A TOML value by itself. -/
def Content.ofToml? : Toml.Value → Option Content
  | .string s => some (.text s)
  | .integer n => ofInteger? n
  | .float x => some (.double x)
  | .boolean b => some (.bool b)
  | .datetime => some (.map [])
  | .array _ items => (ofItems? items).map .list
  | .table _ entries => (ofEntries? entries).map .map
where
  ofItems? : List Toml.Value → Option (List Content)
    | [] => some []
    | item :: rest => do
      let first ← Content.ofToml? item
      let others ← ofItems? rest
      return first :: others
  ofEntries? : List (String × Toml.Value) → Option (List (Content × Content))
    | [] => some []
    | (key, value) :: rest => do
      let first ← Content.ofToml? value
      let others ← ofEntries? rest
      return (.text key, first) :: others

namespace TomlSource

def text? : Toml.Value → Option String
  | .string s => some s
  | _ => none

def bool? : Toml.Value → Option Bool
  | .boolean b => some b
  | _ => none

def integer? : Toml.Value → Option Int
  | .integer n => if Width.holds 64 n then some n else none
  | _ => none

def natural? (value : Toml.Value) : Option Nat :=
  (integer? value).bind fun n => if 0 ≤ n then some n.toNat else none

def items? : Toml.Value → Option (List Toml.Value)
  | .array _ items => some items
  | _ => none

/-- A word is a string, or the only key of a table whose value is empty. -/
def word? : Toml.Value → Option String
  | .string s => some s
  | .table _ [(word, .table _ [])] => some word
  | .table _ [(word, .array _ [])] => some word
  | _ => none

def members? : Toml.Value → Option (List (String × Toml.Value))
  | .table _ entries => some entries
  | _ => none

def record? (names : List String) : Toml.Value → Option (List (String × Toml.Value))
  | .table _ entries => pickMembers names entries
  | .array _ items => some (names.zip items)
  | _ => none

end TomlSource

def tomlSource : Source Toml.Value where
  text? := TomlSource.text?
  bool? := TomlSource.bool?
  natural? := TomlSource.natural?
  integer? := TomlSource.integer?
  optional? := fun value => some (some value)
  items? := TomlSource.items?
  word? := TomlSource.word?
  record? := TomlSource.record?
  members? := TomlSource.members?
  content? := Content.ofToml?

def ofToml? (text : String) : Option Document := do
  tomlSource.document (← Toml.document? text)

end ObjectConstraints.Document
