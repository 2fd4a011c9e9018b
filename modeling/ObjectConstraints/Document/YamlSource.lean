import ObjectConstraints.Document.Source
import ObjectConstraints.Yaml.Node

/-!
# Documents in YAML

What a scalar means depends on what is expected. As a text every scalar is taken as it is written;
only plain scalars are numbers, truth values or null, unless a tag says so. An empty plain scalar
stands for an empty list, an empty record or what is left out.
-/

namespace ObjectConstraints.Document.YamlSource

open Yaml (Node ScalarStyle)

def isNullWord (text : List Char) : Bool :=
  ["null", "Null", "NULL", "~"].contains (String.ofList text)

def boolWord? (text : List Char) : Option Bool :=
  let word := String.ofList text
  if ["true", "True", "TRUE"].contains word then some true
  else if ["false", "False", "FALSE"].contains word then some false
  else none

/-- Whether a numeral is a text because of its leading zeros. -/
def isPadded (text : List Char) : Bool :=
  let (_, digits) := Double.takeSign text
  1 < digits.length && digits.head? == some '0' && digits.all Double.isDigit

/-- The number that digits of a base denote. -/
def digits? (base : Nat) (digits : List Char) : Option Nat :=
  let isDigit (c : Char) := Unicode.isHexDigit c && Unicode.hexDigit c < base
  if digits.isEmpty || !digits.all isDigit then none
  else some (digits.foldl (fun n c => base * n + Unicode.hexDigit c) 0)

/-- The number of a numeral without a sign: after a mark of its base, or in decimal. -/
def magnitude? : List Char → Option Nat
  | '0' :: 'x' :: rest => digits? 16 rest
  | '0' :: 'o' :: rest => digits? 8 rest
  | '0' :: 'b' :: rest => digits? 2 rest
  | text => digits? 10 text

/-- An integer with at most one sign. -/
def integerWord? (text : List Char) : Option Int :=
  if isPadded text then none
  else match text with
    | '-' :: rest => (magnitude? rest).map fun n => -(n : Int)
    | '+' :: rest => (magnitude? rest).map fun n => (n : Int)
    | _ => (magnitude? text).map fun n => (n : Int)

/-- A number with a point or an exponent, or one of the words for what is not finite. -/
def doubleWord? (text : List Char) : Option Double :=
  let word := String.ofList text
  let unsigned := String.ofList (match text with | '+' :: rest => rest | _ => text)
  if [".inf", ".Inf", ".INF"].contains unsigned then some (.infinite false)
  else if ["-.inf", "-.Inf", "-.INF"].contains word then some (.infinite true)
  else if [".nan", ".NaN", ".NAN"].contains word then some .nan
  else match text with
    | '+' :: '+' :: _ => none
    | '+' :: '-' :: _ => none
    | _ => (Double.ofText? unsigned).filter Double.isFinite

/-- The content of an integer, which is signed if it is written with a minus. Those that 64 bits do
not hold have none. -/
def integerContent (text : List Char) (n : Int) : Option Content :=
  if text.head? == some '-' then if Width.holdsSigned 64 n then some (.signed n) else none
  else if Width.holdsNatural 64 n then some (.natural n.toNat)
  else none

/-- What a plain scalar means by itself. Integers beyond 128 bits are read as doubles. -/
def plainContent (text : List Char) : Option Content :=
  if text.isEmpty || isNullWord text then some .null
  else match boolWord? text with
    | some b => some (.bool b)
    | none =>
      match (integerWord? text).filter (Width.holds 128) with
      | some n => integerContent text n
      | none =>
        match if isPadded text then none else doubleWord? text with
        | some x => some (.double x)
        | none => some (.text (String.ofList text))

/-- The name of a tag of this document's own, which is written with one exclamation mark. -/
def localTag? (tag : List Char) : Option (List Char) :=
  match tag with
  | '!' :: name => if name.isEmpty then none else some name
  | _ => none

/-- A tag of the core vocabulary. -/
def coreTag (name : String) : List Char := "tag:yaml.org,2002:".toList ++ name.toList

/-- What a scalar means by itself. -/
def scalarContent (tag : Option (List Char)) (style : ScalarStyle) (text : List Char) :
    Option Content :=
  let written : Content := .text (String.ofList text)
  match tag with
  | none => if style = .plain then plainContent text else some written
  | some tag =>
    if (localTag? tag).isSome then none
    else if tag == coreTag "bool" then (boolWord? text).map .bool
    else if tag == coreTag "int" then (integerWord? text).bind (integerContent text)
    else if tag == coreTag "float" then (doubleWord? text).map .double
    else if tag == coreTag "null" then if isNullWord text then some .null else none
    else if tag == ['!'] && style = .plain then plainContent text
    else some written

def content? : Node → Option Content
  | .scalar tag style text => scalarContent tag style text
  | .sequence tag items =>
    if (tag.bind localTag?).isSome then none else (itemContents? items).map .list
  | .mapping tag entries =>
    if (tag.bind localTag?).isSome then none else (entryContents? entries).map .map
  | .recursive => none
where
  itemContents? : List Node → Option (List Content)
    | [] => some []
    | item :: rest => do
      let first ← content? item
      let others ← itemContents? rest
      return first :: others
  entryContents? : List (Node × Node) → Option (List (Content × Content))
    | [] => some []
    | (key, value) :: rest => do
      let first ← content? key
      let second ← content? value
      let others ← entryContents? rest
      return (first, second) :: others

/-- The text of a scalar that may be read as something else than a text: a plain one, or a literal
one with the tag of what is expected. -/
def bareText? (core : String) : Node → Option (List Char)
  | .scalar tag style text =>
    if style = .plain || (style = .literal && tag == some (coreTag core)) then some text else none
  | _ => none

def text? : Node → Option String
  | .scalar _ _ text => some (String.ofList text)
  | _ => none

def bool? (node : Node) : Option Bool := (bareText? "bool" node).bind boolWord?

def integer? (node : Node) : Option Int :=
  ((bareText? "int" node).bind integerWord?).filter (Width.holdsSigned 64)

def natural? (node : Node) : Option Nat :=
  ((bareText? "int" node).bind fun text =>
    if text.head? == some '-' then none else integerWord? text).bind fun n =>
      if Width.holdsNatural 64 n then some n.toNat else none

def optional? : Node → Option (Option Node)
  | .scalar none .plain text =>
    if text.isEmpty || isNullWord text then some none
    else some (some (.scalar none .plain text))
  | .scalar (some tag) .plain text =>
    if tag == coreTag "null" then if isNullWord text then some none else none
    else some (some (.scalar (some tag) .plain text))
  | .recursive => none
  | node => some (some node)

def items? : Node → Option (List Node)
  | .sequence _ items => some items
  | .scalar _ .plain [] => some []
  | _ => none

/-- A word is a scalar, or a tag of this document's own on nothing. -/
def word? : Node → Option String
  | .scalar tag style text =>
    match tag.bind localTag? with
    | some name =>
      if style = .plain && (text.isEmpty || isNullWord text) then some (String.ofList name)
      else none
    | none => some (String.ofList text)
  | _ => none

/-- Entries whose keys are scalars. -/
def namedEntries? : List (Node × Node) → Option (List (String × Node))
  | [] => some []
  | (key, value) :: rest => do
    let name ← text? key
    let others ← namedEntries? rest
    return (name, value) :: others

def members? : Node → Option (List (String × Node))
  | .mapping _ entries => namedEntries? entries
  | .scalar _ .plain [] => some []
  | _ => none

def record? (names : List String) (node : Node) : Option (List (String × Node)) := do
  pickMembers names (← members? node)

end YamlSource

def yamlSource : Source Yaml.Node where
  text? := YamlSource.text?
  bool? := YamlSource.bool?
  natural? := YamlSource.natural?
  integer? := YamlSource.integer?
  optional? := YamlSource.optional?
  items? := YamlSource.items?
  word? := YamlSource.word?
  record? := YamlSource.record?
  members? := YamlSource.members?
  content? := YamlSource.content?

/-- The document of a YAML text. A text without content is an empty document. -/
def ofYaml? (text : String) : Option Document := do
  match ← Yaml.document? text with
  | none => some {}
  | some node => yamlSource.document node

end ObjectConstraints.Document
