import ObjectConstraints.Unicode.AgeData
import ObjectConstraints.Unicode.CategoryData
import ObjectConstraints.Unicode.CodeSet
import ObjectConstraints.Unicode.PropertyData
import ObjectConstraints.Unicode.ScriptData

/-!
# Character properties

Sets of characters by the names of the character database. Names are compared loosely: case,
spaces, hyphens, underscores and a leading "is" do not count.
-/

namespace ObjectConstraints.Unicode

def categoryTable : List NamedRanges := NamedRanges.readTable categoryText
def scriptTable : List NamedRanges := NamedRanges.readTable scriptText
def scriptExtensionTable : List NamedRanges := NamedRanges.readTable scriptExtensionText
def propertyTable : List NamedRanges := NamedRanges.readTable propertyText
def ageTable : List NamedRanges := NamedRanges.readTable ageText

def isAsciiLetter (c : Char) : Bool :=
  ('a' ≤ c && c ≤ 'z') || ('A' ≤ c && c ≤ 'Z')

def lowerAscii (c : Char) : Char :=
  if 'A' ≤ c && c ≤ 'Z' then Char.ofNat (c.toNat + 32) else c

/-- The form in which names of properties are compared. The lone abbreviation "isc" keeps its
prefix, which would otherwise leave the category of the name "c". -/
def looseName (name : List Char) : List Char :=
  let folded (cs : List Char) :=
    (cs.filter fun c => c.toNat < 128 && c != ' ' && c != '_' && c != '-').map lowerAscii
  match name with
  | i :: s :: rest =>
    if lowerAscii i == 'i' && lowerAscii s == 's' then
      let kept := folded rest
      if kept == ['c'] then ['i', 's', 'c'] else kept
    else folded name
  | _ => folded name

/-- The members of the named set of a table. -/
def lookupRanges (table : List NamedRanges) (name : List Char) : Option (List CodeRange) :=
  (table.find? fun entry => entry.names.any fun n => looseName n.toList == name).map (·.ranges)

/-- The members of a set whose exact first name is known. -/
def rangesOf (table : List NamedRanges) (name : String) : List CodeRange :=
  match table.find? fun entry => entry.names.contains name with
  | some entry => entry.ranges
  | none => []

/-- Categories that are unions of smaller ones. -/
def categoryGroups : List (List String × List String) :=
  [(["L", "Letter"], ["Lu", "Ll", "Lt", "Lm", "Lo"]),
   (["LC", "Cased_Letter"], ["Lu", "Ll", "Lt"]),
   (["M", "Mark", "Combining_Mark"], ["Mn", "Mc", "Me"]),
   (["N", "Number"], ["Nd", "Nl", "No"]),
   (["P", "Punctuation", "Punct"], ["Pc", "Pd", "Ps", "Pe", "Pi", "Pf", "Po"]),
   (["S", "Symbol"], ["Sm", "Sc", "Sk", "So"]),
   (["Z", "Separator"], ["Zs", "Zl", "Zp"])]

def assigned : CodeSet := .ofRanges (categoryTable.flatMap (·.ranges))

def category? (name : List Char) : Option CodeSet :=
  let is (names : List String) := names.any fun n => looseName n.toList == name
  if is ["any"] then some (.ofRanges [⟨0, maxCode⟩])
  else if is ["assigned"] then some assigned
  else if is ["ascii"] then some (.ofRanges [⟨0, 127⟩])
  else if is ["Cn", "Unassigned"] then some assigned.compl
  else if is ["C", "Other"] then
    some (assigned.compl.addAll (["Cc", "Cf", "Cs", "Co"].flatMap (rangesOf categoryTable)))
  else match categoryGroups.find? fun group => is group.1 with
    | some group => some (.ofRanges (group.2.flatMap (rangesOf categoryTable)))
    | none => (lookupRanges categoryTable name).map .ofRanges

def script? (name : List Char) : Option CodeSet :=
  (lookupRanges scriptTable name).map .ofRanges

/-- The members of a script and of its extensions, by loose name. -/
def scriptExtension? (name : List Char) : Option CodeSet :=
  match scriptTable.find? fun entry => entry.names.any fun n => looseName n.toList == name with
  | none => none
  | some entry =>
    let extended := scriptExtensionTable.find? fun other => other.names == entry.names
    some (.ofRanges (extended.getD entry).ranges)

def property? (name : List Char) : Option CodeSet :=
  (lookupRanges propertyTable name).map .ofRanges

/-- The code points assigned in a version or before it, by the loose name of the version. -/
def age? (name : List Char) : Option CodeSet :=
  let upTo := fun (found : Bool × List CodeRange) (entry : NamedRanges) =>
    if found.1 then found
    else (entry.names.any fun n => looseName n.toList == name, found.2 ++ entry.ranges)
  match ageTable.foldl upTo (false, []) with
  | (true, members) => some (.ofRanges members)
  | (false, _) => none

def uppercaseRanges : List CodeRange := rangesOf propertyTable "Uppercase"
def alphabeticRanges : List CodeRange := rangesOf propertyTable "Alphabetic"
def casedRanges : List CodeRange := rangesOf propertyTable "Cased"
def caseIgnorableRanges : List CodeRange := rangesOf propertyTable "Case_Ignorable"
def digitRanges : List CodeRange := rangesOf categoryTable "Nd"

def blankRanges : List CodeRange := rangesOf propertyTable "White_Space"

def numericRanges : List CodeRange := ["Nd", "Nl", "No"].flatMap (rangesOf categoryTable)

/-- Letters, marks, decimal digits, connector punctuation and the joiners. -/
def wordRanges : List CodeRange :=
  alphabeticRanges ++ ["Mn", "Mc", "Me", "Nd", "Pc"].flatMap (rangesOf categoryTable) ++
    rangesOf propertyTable "Join_Control"

def isUppercase (c : Char) : Bool :=
  if c.toNat < 128 then 'A' ≤ c && c ≤ 'Z' else covers uppercaseRanges c.toNat

def isAlphabetic (c : Char) : Bool :=
  if c.toNat < 128 then isAsciiLetter c else covers alphabeticRanges c.toNat

/-- Alphabetic characters and numbers of every kind. -/
def isAlphanumeric (c : Char) : Bool :=
  if c.toNat < 128 then isAsciiLetter c || ('0' ≤ c && c ≤ '9')
  else covers alphabeticRanges c.toNat || covers numericRanges c.toNat

end ObjectConstraints.Unicode
