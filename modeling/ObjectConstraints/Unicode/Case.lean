import ObjectConstraints.Unicode.CaseData
import ObjectConstraints.Unicode.Property

/-!
# Letter case

Lowercase and uppercase of characters and texts by the full mappings, where a character may become
several, and the classes of characters that simple folding identifies. ASCII is mapped by arithmetic
and everything else by table.
-/

namespace ObjectConstraints.Unicode

/-- Entries of a mapping, each a code point and the sequence it becomes. -/
def readMapping (text : String) : List (Nat × List Char) :=
  (splitWords text.toList).filterMap fun entry =>
    match splitChars (· == ':') entry with
    | [code, image] =>
      some (hexNumber code, (splitChars (· == ',') image).map fun n => Char.ofNat (hexNumber n))
    | _ => none

def lowercaseTable : List (Nat × List Char) := readMapping lowercaseText
def uppercaseTable : List (Nat × List Char) := readMapping uppercaseText

def foldingTable : List (List Nat) :=
  (splitWords foldingText.toList).map fun entry =>
    (splitChars (· == ',') entry).map hexNumber

/-- The lowercase of a character on its own. -/
def lowerChar (c : Char) : List Char :=
  if c.toNat < 128 then [lowerAscii c]
  else match lowercaseTable.find? (·.1 == c.toNat) with
    | some entry => entry.2
    | none => [c]

def upperChar (c : Char) : List Char :=
  if c.toNat < 128 then
    [if 'a' ≤ c && c ≤ 'z' then Char.ofNat (c.toNat - 32) else c]
  else match uppercaseTable.find? (·.1 == c.toNat) with
    | some entry => entry.2
    | none => [c]

/-- Whether the first character that case mapping does not skip over is a cased one. -/
def meetsCased (cs : List Char) : Bool :=
  match cs.dropWhile fun c => covers caseIgnorableRanges c.toNat with
  | [] => false
  | c :: _ => covers casedRanges c.toNat

/-- The lowercase of a text, given the characters before it in reverse. A capital sigma that ends
a word becomes the final form. -/
def lowerAfter (before : List Char) : List Char → List Char
  | [] => []
  | c :: cs =>
    let image :=
      if c == 'Σ' then
        if meetsCased before && !meetsCased cs then ['ς'] else ['σ']
      else lowerChar c
    image ++ lowerAfter (c :: before) cs

def lowercase (s : String) : String :=
  String.ofList (lowerAfter [] s.toList)

/-- The set with all characters that simple folding identifies with one of its members. -/
def CodeSet.withFoldings (set : CodeSet) : CodeSet :=
  set.addAll ((foldingTable.filter (·.any set.contains)).flatten.map fun code => ⟨code, code⟩)

/-- The set with the letters of ASCII that differ from one of its members in case alone. -/
def CodeSet.withAsciiFoldings (set : CodeSet) : CodeSet :=
  let raised := set.runs.map fun r => ⟨max r.first 65 + 32, min r.last 90 + 32⟩
  let lowered := set.runs.map fun r => ⟨max r.first 97 - 32, min r.last 122 - 32⟩
  set.addAll (raised ++ lowered)

end ObjectConstraints.Unicode
