import ObjectConstraints.Number.DecimalText
import ObjectConstraints.Number.Width

/-!
# JSON

JSON values, their text and its reader. An object's members are kept in the order of their keys, and
of two members with one key the later counts. A number written without fraction and exponent is an
integer when 64 bits hold it; every other number is a double.
-/

namespace ObjectConstraints

inductive Json where
  | null
  | bool (b : Bool)
  | int (n : Int)
  | double (x : Double)
  | string (s : String)
  | array (items : List Json)
  | object (members : List (String × Json))
  deriving Inhabited

namespace Json

/-- Adds a member at the place of its key. -/
def insertMember (key : String) (value : Json) : List (String × Json) → List (String × Json)
  | [] => [(key, value)]
  | (k, v) :: rest =>
    if key < k then (key, value) :: (k, v) :: rest
    else if key == k then (key, value) :: rest
    else (k, v) :: insertMember key value rest

def ofMembers (members : List (String × Json)) : Json :=
  .object (members.foldl (fun kept member => insertMember member.1 member.2 kept) [])

/-- What is left out is null. -/
def ofOption {α : Type} (encode : α → Json) : Option α → Json
  | some a => encode a
  | none => .null

def ofNat (n : Nat) : Json := .int n

def ofTexts (texts : List String) : Json := .array (texts.map .string)

def ofList {α : Type} (encode : α → Json) (items : List α) : Json := .array (items.map encode)

def member? (json : Json) (key : String) : Option Json :=
  match json with
  | .object members => (members.find? (·.1 == key)).map (·.2)
  | _ => none

def string? (json : Json) (key : String) : Option String :=
  match json.member? key with
  | some (.string s) => some s
  | _ => none

def nat? (json : Json) (key : String) : Option Nat :=
  match json.member? key with
  | some (.int n) => n.toNat?
  | _ => none

def bool? (json : Json) (key : String) : Option Bool :=
  match json.member? key with
  | some (.bool b) => some b
  | _ => none

def items? (json : Json) (key : String) : Option (List Json) :=
  match json.member? key with
  | some (.array items) => some items
  | _ => none

def isBlank (c : Char) : Bool := c == ' ' || c == '\n' || c == '\r' || c == '\t'

def skipBlanks (cs : List Char) : List Char := cs.dropWhile isBlank

def takeUnit (cs : List Char) : Option (Nat × List Char) :=
  let digits := cs.take 4
  if digits.length == 4 && digits.all Unicode.isHexDigit then
    some (Unicode.hexNumber digits, cs.drop 4)
  else none

/-- The character of an escape whose `u` has been read; two halves of a surrogate pair make one. -/
def takeEscapedUnit (cs : List Char) : Option (Char × List Char) := do
  let (high, rest) ← takeUnit cs
  if 0xd800 ≤ high && high < 0xdc00 then
    match rest with
    | '\\' :: 'u' :: rest =>
      let (low, rest) ← takeUnit rest
      if 0xdc00 ≤ low && low < 0xe000 then
        some (Char.ofNat (0x10000 + (high - 0xd800) * 0x400 + (low - 0xdc00)), rest)
      else none
    | _ => none
  else if 0xdc00 ≤ high && high < 0xe000 then none
  else some (Char.ofNat high, rest)

/-- The rest of a string after its opening quote, and what follows the closing one. -/
def takeString : Nat → List Char → List Char → Option (String × List Char)
  | 0, _, _ => none
  | fuel + 1, read, cs =>
    match cs with
    | [] => none
    | '"' :: rest => some (String.ofList read.reverse, rest)
    | '\\' :: c :: rest =>
      match c with
      | 'n' => takeString fuel ('\n' :: read) rest
      | 't' => takeString fuel ('\t' :: read) rest
      | 'r' => takeString fuel ('\r' :: read) rest
      | 'b' => takeString fuel ('\x08' :: read) rest
      | 'f' => takeString fuel ('\x0c' :: read) rest
      | 'u' =>
        match takeEscapedUnit rest with
        | some (c, rest) => takeString fuel (c :: read) rest
        | none => none
      | c => if c == '"' || c == '\\' || c == '/' then takeString fuel (c :: read) rest else none
    | c :: rest => if c.toNat < 32 then none else takeString fuel (c :: read) rest

def isNumberChar (c : Char) : Bool :=
  c.isDigit || c == '-' || c == '+' || c == '.' || c == 'e' || c == 'E'

def takeNumber (cs : List Char) : Option (Json × List Char) :=
  let literal := cs.takeWhile isNumberChar
  let rest := cs.drop literal.length
  let (negative, unsigned) := Double.takeSign literal
  let isInteger := !unsigned.isEmpty && unsigned.all Char.isDigit
  let magnitude := Double.digitsValue unsigned
  if isInteger && negative && 0 < magnitude && Width.holdsSigned 64 (-magnitude) then
    some (.int (-(magnitude : Int)), rest)
  else if isInteger && !negative && Width.holdsNatural 64 magnitude then
    some (.int magnitude, rest)
  else (Double.ofText? (String.ofList literal)).map fun x => (.double x, rest)

def takeChar (c : Char) : List Char → Option (List Char)
  | d :: rest => if c == d then some rest else none
  | [] => none

def takeWord (word : String) (value : Json) (cs : List Char) : Option (Json × List Char) :=
  if word.toList.isPrefixOf cs then some (value, cs.drop word.length) else none

mutual

def takeValue : Nat → List Char → Option (Json × List Char)
  | 0, _ => none
  | fuel + 1, cs =>
    match skipBlanks cs with
    | [] => none
    | '"' :: rest => (takeString (rest.length + 1) [] rest).map fun (s, rest) => (.string s, rest)
    | '[' :: rest =>
      match skipBlanks rest with
      | ']' :: rest => some (.array [], rest)
      | rest => (takeItems fuel rest).map fun (items, rest) => (.array items, rest)
    | c :: rest =>
      if c == '\x7b' then
        match skipBlanks rest with
        | [] => none
        | d :: more =>
          if d == '\x7d' then some (.object [], more)
          else (takeMembers fuel (d :: more)).map fun (members, rest) => (ofMembers members, rest)
      else if c == 't' then takeWord "true" (.bool true) (c :: rest)
      else if c == 'f' then takeWord "false" (.bool false) (c :: rest)
      else if c == 'n' then takeWord "null" .null (c :: rest)
      else takeNumber (c :: rest)

def takeItems : Nat → List Char → Option (List Json × List Char)
  | 0, _ => none
  | fuel + 1, cs => do
    let (item, rest) ← takeValue fuel cs
    match skipBlanks rest with
    | ',' :: rest =>
      let (items, rest) ← takeItems fuel rest
      some (item :: items, rest)
    | ']' :: rest => some ([item], rest)
    | _ => none

def takeMembers : Nat → List Char → Option (List (String × Json) × List Char)
  | 0, _ => none
  | fuel + 1, cs => do
    let rest ← takeChar '"' (skipBlanks cs)
    let (key, rest) ← takeString (rest.length + 1) [] rest
    let rest ← takeChar ':' (skipBlanks rest)
    let (value, rest) ← takeValue fuel rest
    match skipBlanks rest with
    | [] => none
    | c :: rest =>
      if c == ',' then
        let (members, rest) ← takeMembers fuel rest
        some ((key, value) :: members, rest)
      else if c == '\x7d' then some ([(key, value)], rest)
      else none

end

def ofText? (text : String) : Option Json :=
  let cs := text.toList
  match takeValue (2 * cs.length + 2) cs with
  | some (value, rest) => if (skipBlanks rest).isEmpty then some value else none
  | none => none

/-- A character inside of a quoted string. -/
def quotedChar (c : Char) : List Char :=
  if c == '"' then ['\\', '"']
  else if c == '\\' then ['\\', '\\']
  else if c.toNat < 32 then
    let digits := Nat.toDigits 16 c.toNat
    '\\' :: 'u' :: (List.replicate (4 - digits.length) '0' ++ digits)
  else [c]

def quoted (s : String) : String :=
  String.ofList ('"' :: s.toList.flatMap quotedChar ++ ['"'])

mutual

def text : Json → String
  | .null => "null"
  | .bool b => if b then "true" else "false"
  | .int n => toString n
  | .double x => x.text
  | .string s => quoted s
  | .array items => "[" ++ itemsText items ++ "]"
  | .object members => "\x7b" ++ membersText members ++ "\x7d"

def itemsText : List Json → String
  | [] => ""
  | [item] => text item
  | item :: items => text item ++ "," ++ itemsText items

def membersText : List (String × Json) → String
  | [] => ""
  | [(key, value)] => quoted key ++ ":" ++ text value
  | (key, value) :: members => quoted key ++ ":" ++ text value ++ "," ++ membersText members

end

mutual

/-- Changes every string of a value; the keys of objects stay. -/
def mapStrings (change : String → String) : Json → Json
  | .string s => .string (change s)
  | .array items => .array (mapStringsItems change items)
  | .object members => .object (mapStringsMembers change members)
  | json => json

def mapStringsItems (change : String → String) : List Json → List Json
  | [] => []
  | item :: items => mapStrings change item :: mapStringsItems change items

def mapStringsMembers (change : String → String) : List (String × Json) → List (String × Json)
  | [] => []
  | (key, value) :: members => (key, mapStrings change value) :: mapStringsMembers change members

end

end Json

end ObjectConstraints
