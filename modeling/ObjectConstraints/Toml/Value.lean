import ObjectConstraints.Number.Double

/-!
# TOML values

Values and the rules by which headers and dotted keys extend tables: a table is defined once, a
header may name a table that only paths have mentioned, dotted keys may extend only tables that
dotted keys have made, and inline tables and arrays written as values cannot be extended.
-/

namespace ObjectConstraints.Toml

/-- How a table has come to be. -/
structure TableOrigin where
  /-- Mentioned in a path alone. -/
  implicit : Bool := false
  /-- Made by a dotted key. -/
  dotted : Bool := false
  /-- Written between braces. -/
  inlined : Bool := false
  deriving DecidableEq, Repr

inductive Value where
  | string (s : String)
  | integer (n : Int)
  | float (x : Double)
  | boolean (b : Bool)
  | datetime
  | array (ofTables : Bool) (items : List Value)
  | table (origin : TableOrigin) (entries : List (String × Value))
  deriving Inhabited

def Value.empty : Value := .table {} []

/-- Replaces the value of a key, or adds it. -/
def setEntry (key : String) (value : Value) : List (String × Value) → List (String × Value)
  | [] => [(key, value)]
  | (k, v) :: rest => if k == key then (k, value) :: rest else (k, v) :: setEntry key value rest

def valueAt? (key : String) (entries : List (String × Value)) : Option Value :=
  (entries.find? (·.1 == key)).map (·.2)

/-- Changes the table at the end of a path. Tables that the path mentions for the first time are
made; the path goes through the last table of an array of tables. -/
def Value.updateAt (dotted : Bool) (change : Value → Option Value) :
    List String → Value → Option Value
  | [], value => change value
  | key :: path, .table origin entries =>
    let put (value : Value) : Value := .table origin (setEntry key value entries)
    match valueAt? key entries with
    | none => (updateAt dotted change path (.table ⟨true, dotted, false⟩ [])).map put
    | some (.array true items) =>
      match items.reverse with
      | [] => none
      | last :: before =>
        (updateAt dotted change path last).map fun last =>
          put (.array true (before.reverse ++ [last]))
    | some (.table inner innerEntries) =>
      if inner.inlined || (dotted && !inner.implicit) then none
      else (updateAt dotted change path (.table inner innerEntries)).map put
    | some _ => none
  | _ :: _, _ => none

/-- Adds the value of a possibly dotted key to a table. -/
def Value.addKey (table : Value) (path : List String) (key : String) (value : Value) :
    Option Value :=
  let add : Value → Option Value
    | .table origin entries =>
      if origin.dotted == path.isEmpty || (valueAt? key entries).isSome then none
      else some (.table origin (setEntry key value entries))
    | _ => none
  table.updateAt (!path.isEmpty) add path

/-- A header: the path to a table or, in double brackets, to a new item of an array of tables. -/
structure Header where
  path : List String
  key : String
  isArray : Bool

/-- The document so far: the root, and the table under the last header, which is put into the root
when the next header begins. -/
structure Assembly where
  root : Value := .empty
  header : Option Header := none
  current : Value := .empty

/-- Puts the table under the last header into the root. -/
def Assembly.finish (a : Assembly) : Option Value :=
  match a.header with
  | none => some a.current
  | some header =>
    let place : Value → Option Value
      | .table origin entries =>
        if header.isArray then
          match valueAt? header.key entries with
          | none => some (.table origin (setEntry header.key (.array true [a.current]) entries))
          | some (.array true items) =>
            some (.table origin (setEntry header.key (.array true (items ++ [a.current])) entries))
          | some _ => none
        else some (.table origin (setEntry header.key a.current entries))
      | _ => none
    a.root.updateAt false place header.path

/-- Begins the table of a header. A table that paths have mentioned is taken up as it is. -/
def Assembly.start (a : Assembly) (header : Header) : Option Assembly := do
  let root ← a.finish
  if header.isArray then some { root := root, header := some header, current := .empty }
  else
    let known (table : Value) : Option Value :=
      match table with
      | .table _ entries => valueAt? header.key entries
      | _ => none
    -- the parent, made where it is missing
    let root ← root.updateAt false some header.path
    let rec find (path : List String) (value : Value) : Option Value :=
      match path, value with
      | [], value => known value
      | key :: path, .table _ entries =>
        match valueAt? key entries with
        | some (.array true items) => items.getLast?.bind (find path)
        | some value => find path value
        | none => none
      | _, _ => none
    match find header.path root with
    | none => some { root := root, header := some header, current := .empty }
    | some (.table origin entries) =>
      if origin.implicit && !origin.dotted then
        some { root := root, header := some header, current := .table {} entries }
      else none
    | some _ => none

/-- Adds a key and its value to the current table. -/
def Assembly.add (a : Assembly) (path : List String) (key : String) (value : Value) :
    Option Assembly :=
  (a.current.addKey path key value).map fun current => { a with current := current }

end ObjectConstraints.Toml
