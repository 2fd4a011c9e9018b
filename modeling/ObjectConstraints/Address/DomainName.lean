import ObjectConstraints.Address.Punycode
import ObjectConstraints.Unicode.Composition
import ObjectConstraints.Unicode.DirectionData
import ObjectConstraints.Unicode.DomainData

/-!
# Domain names

Internationalised domain names in ASCII. Characters are mapped, which lowers case among other
things, and composed; then labels that are not ASCII are encoded, and those that are encoded already
must decode to what would be encoded. Joiners and writing directions have to make sense in every
label.
-/

namespace ObjectConstraints.DomainName

open Unicode

/-- How a range of characters is mapped: to sequences of the images of its members, or only its even
members. -/
structure MappedRange where
  first : Nat
  last : Nat
  step : Nat
  image : List Nat

def MappedRange.ofText? (entry : List Char) : Option MappedRange :=
  match splitChars (· == ':') entry with
  | [codes, image] =>
    let image := (splitChars (· == ',') image).map hexNumber
    match splitChars (· == '-') codes, splitChars (· == '+') codes with
    | [first, last], _ => some ⟨hexNumber first, hexNumber last, 1, image⟩
    | _, [first, last] => some ⟨hexNumber first, hexNumber last, 2, image⟩
    | _, _ => some ⟨hexNumber codes, hexNumber codes, 1, image⟩
  | _ => none

/-- The image of a character of the range. -/
def MappedRange.image? (range : MappedRange) (code : Nat) : Option (List Char) :=
  if range.first ≤ code && code ≤ range.last && (code - range.first) % range.step == 0 then
    some (range.image.map fun n => Char.ofNat (n + (code - range.first)))
  else none

def mappingTable : List MappedRange :=
  (splitWords domainMappingText.toList).filterMap MappedRange.ofText?

def readRanges (text : String) : List CodeRange :=
  (splitWords text.toList).map CodeRange.ofText

def ignoredRanges : List CodeRange := readRanges domainIgnoredText
def disallowedRanges : List CodeRange := readRanges domainDisallowedText

/-- What a character becomes, unless it is not allowed. -/
def mapChar (c : Char) : Option (List Char) :=
  let code := c.toNat
  if code < 128 then some [lowerAscii c]
  else if covers disallowedRanges code then none
  else if covers ignoredRanges code then some []
  else some ((mappingTable.findSome? (·.image? code)).getD [c])

def mapChars : List Char → Option (List Char)
  | [] => some []
  | c :: cs =>
    match mapChar c, mapChars cs with
    | some image, some rest => some (image ++ rest)
    | _, _ => none

/-- Whether a label stays as it is when it is mapped and composed. -/
def isStable (label : List Char) : Bool :=
  label.all (fun c => mapChar c == some [c]) && normalize label == label

def directionTable : List NamedRanges := NamedRanges.readTable directionText
def joiningTable : List NamedRanges := NamedRanges.readTable joiningText

/-- The name of the first set of a table that has a character, or a default. -/
def classOf (table : List NamedRanges) (default : String) (c : Char) : String :=
  match table.find? fun entry => covers entry.ranges c.toNat with
  | some entry => entry.names.head?.getD default
  | none => default

def direction (c : Char) : String := classOf directionTable "L" c
def joining (c : Char) : String := classOf joiningTable "U" c

/-- Whether the character nearest to a joiner, transparent ones aside, joins on its side. -/
def joins (sides : List String) (cs : List Char) : Bool :=
  match cs.dropWhile fun c => joining c == "T" with
  | [] => false
  | c :: _ => sides.contains (joining c)

/-- Whether every joiner follows a virama, or, for the one that does not join, stands between
characters that would join. The characters before are given in reverse. -/
def joinersFit (before : List Char) : List Char → Bool
  | [] => true
  | c :: cs =>
    let afterVirama := before.head?.any (combiningClass · == 9)
    let fits :=
      if c.toNat == 0x200c then
        afterVirama || (joins ["L", "D"] before && joins ["R", "D"] cs)
      else if c.toNat == 0x200d then afterVirama
      else true
    fits && joinersFit (c :: before) cs

def markRanges : List CodeRange := ["Mn", "Mc", "Me"].flatMap (rangesOf categoryTable)

/-- Whether a label does not begin with a mark and its joiners fit. -/
def isWellFormed (label : List Char) : Bool :=
  !(label.head?.any fun c => 0x300 ≤ c.toNat && covers markRanges c.toNat) && joinersFit [] label

/-- Whether the directions of a label's characters go together. -/
def directionsFit (label : List Char) : Bool :=
  let classes := label.map direction
  let last := (classes.reverse.dropWhile (· == "NSM")).head?
  let neutral := ["EN", "ES", "CS", "ET", "ON", "BN", "NSM"]
  match classes with
  | [] => true
  | first :: _ =>
    if first == "R" || first == "AL" then
      classes.all (["R", "AL", "AN"] ++ neutral).contains &&
        last.any ["R", "AL", "EN", "AN"].contains &&
        !(classes.contains "EN" && classes.contains "AN")
    else if first == "L" then
      classes.all ("L" :: neutral).contains && last.any ["L", "EN"].contains
    else false

def isAscii (cs : List Char) : Bool := cs.all (·.toNat < 128)

/-- The mark in front of encoded labels. -/
def encodedMark : List Char := "xn--".toList

/-- A label as it is meant and as it is written in ASCII. -/
structure Label where
  meant : List Char
  written : List Char

/-- Takes in a label of a mapped name. -/
def Label.ofMapped? (label : List Char) : Option Label :=
  if encodedMark.isPrefixOf label then
    if !isAscii label then none
    else match Punycode.decode? (label.drop encodedMark.length) with
      | none => none
      | some meant =>
        if isAscii meant || !isStable meant || !isWellFormed meant then none
        else some ⟨meant, label⟩
  else if isAscii label then some ⟨label, label⟩
  else if isWellFormed label then some ⟨label, encodedMark ++ Punycode.encode label⟩
  else none

def joinLabels : List (List Char) → List Char
  | [] => []
  | [label] => label
  | label :: rest => label ++ '.' :: joinLabels rest

/-- The ASCII form of a domain name, in which some ASCII characters may be denied. -/
def toAscii? (denied : Char → Bool) (name : List Char) : Option (List Char) := do
  let mapped := normalize (← mapChars name)
  let labels ← (splitChars (· == '.') mapped).mapM Label.ofMapped?
  let isBidirectional := labels.any fun label =>
    label.meant.any fun c => ["R", "AL", "AN"].contains (direction c)
  if mapped.any (fun c => c.toNat < 128 && denied c) then none
  else if isBidirectional && !labels.all (directionsFit ·.meant) then none
  else some (joinLabels (labels.map (·.written)))

end ObjectConstraints.DomainName
