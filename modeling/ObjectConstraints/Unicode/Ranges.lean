/-!
# Sets of code points

A set is a list of inclusive ranges. Tables of named sets are written as text: entries separated by
semicolons, each the names of the set separated by bars and then its ranges in hexadecimal.
-/

namespace ObjectConstraints.Unicode

/-- The code points from `first` to `last`, both included. -/
structure CodeRange where
  first : Nat
  last : Nat
  deriving Repr, DecidableEq

def CodeRange.contains (range : CodeRange) (code : Nat) : Bool :=
  range.first ≤ code && code ≤ range.last

def covers (ranges : List CodeRange) (code : Nat) : Bool :=
  ranges.any (·.contains code)

theorem covers_append (first second : List CodeRange) (code : Nat) :
    covers (first ++ second) code = (covers first code || covers second code) := by
  simp [covers]

def isHexDigit (c : Char) : Bool :=
  c.isDigit || ('a' ≤ c && c ≤ 'f') || ('A' ≤ c && c ≤ 'F')

/-- The value of a hexadecimal digit; any other character counts as zero. -/
def hexDigit (c : Char) : Nat :=
  if '0' ≤ c && c ≤ '9' then c.toNat - 48
  else if 'a' ≤ c && c ≤ 'f' then c.toNat - 87
  else if 'A' ≤ c && c ≤ 'F' then c.toNat - 55
  else 0

/-- The number a hexadecimal numeral denotes. -/
def hexNumber (digits : List Char) : Nat :=
  digits.foldl (fun n c => 16 * n + hexDigit c) 0

/-- Pieces of a text between the characters that satisfy `p`. -/
def splitChars (p : Char → Bool) : List Char → List (List Char)
  | [] => [[]]
  | c :: cs =>
    if p c then [] :: splitChars p cs
    else match splitChars p cs with
      | [] => [[c]]
      | piece :: pieces => (c :: piece) :: pieces

/-- The words of a text, which blanks and line ends separate. -/
def splitWords (text : List Char) : List (List Char) :=
  (splitChars Char.isWhitespace text).filter (!·.isEmpty)

/-- A range written as `41-5a`, or as `aa` when it has a single member. -/
def CodeRange.ofText (text : List Char) : CodeRange :=
  match splitChars (· == '-') text with
  | [one] => ⟨hexNumber one, hexNumber one⟩
  | first :: last :: _ => ⟨hexNumber first, hexNumber last⟩
  | [] => ⟨1, 0⟩

/-- A set of code points and the names it goes by. -/
structure NamedRanges where
  names : List String
  ranges : List CodeRange

def NamedRanges.readTable (text : String) : List NamedRanges :=
  (splitChars (· == ';') text.toList).filterMap fun entry =>
    match splitWords entry with
    | [] => none
    | names :: ranges =>
      some ⟨(splitChars (· == '|') names).map String.ofList, ranges.map CodeRange.ofText⟩

end ObjectConstraints.Unicode
