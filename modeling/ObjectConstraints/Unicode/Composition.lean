import ObjectConstraints.Unicode.Case
import ObjectConstraints.Unicode.CompositionData

/-!
# Canonical composition

Texts in composed normal form: every character is decomposed as far as it goes, marks are ordered by
their combining classes, and then characters are composed again where no mark stands between them.
Hangul syllables follow arithmetic instead of the tables.
-/

namespace ObjectConstraints.Unicode

/-- The composing characters with their pairs. -/
def compositionTable : List (Nat × List Char) := readMapping compositionText

/-- The characters that only decompose. -/
def decompositionTable : List (Nat × List Char) := readMapping decompositionText

def combiningClassTable : List NamedRanges := NamedRanges.readTable combiningClassText

/-- The combining class of a character; those that start a composition have class zero. -/
def combiningClass (c : Char) : Nat :=
  if c.toNat < 0x300 then 0
  else match combiningClassTable.find? fun entry => covers entry.ranges c.toNat with
    | some entry =>
      (entry.names.head?.getD "").toList.foldl (fun n d => 10 * n + (d.toNat - 48)) 0
    | none => 0

namespace Hangul

def syllableBase : Nat := 0xac00
def leadBase : Nat := 0x1100
def vowelBase : Nat := 0x1161
def tailBase : Nat := 0x11a7
def vowelCount : Nat := 21
def tailCount : Nat := 28
def syllableCount : Nat := 19 * vowelCount * tailCount

/-- The parts of a syllable. -/
def decompose? (c : Char) : Option (List Char) :=
  let index := c.toNat - syllableBase
  if c.toNat < syllableBase || syllableCount ≤ index then none
  else
    let lead := Char.ofNat (leadBase + index / (vowelCount * tailCount))
    let vowel := Char.ofNat (vowelBase + index % (vowelCount * tailCount) / tailCount)
    let tail := index % tailCount
    some (if tail = 0 then [lead, vowel] else [lead, vowel, Char.ofNat (tailBase + tail)])

/-- The syllable of a lead and a vowel, or of an open syllable and a tail. -/
def compose? (first second : Char) : Option Char :=
  let a := first.toNat
  let b := second.toNat
  if leadBase ≤ a && a < leadBase + 19 && vowelBase ≤ b && b < vowelBase + vowelCount then
    some (Char.ofNat (syllableBase + ((a - leadBase) * vowelCount + (b - vowelBase)) * tailCount))
  else if syllableBase ≤ a && a < syllableBase + syllableCount &&
      (a - syllableBase) % tailCount == 0 && tailBase < b && b < tailBase + tailCount then
    some (Char.ofNat (a + (b - tailBase)))
  else none

end Hangul

def decomposeOnce (c : Char) : Option (List Char) :=
  if c.toNat < 0xc0 then none
  else (Hangul.decompose? c).or
    (((compositionTable.find? (·.1 == c.toNat)).or
      (decompositionTable.find? (·.1 == c.toNat))).map (·.2))

/-- The full decomposition of a character, in at most so many steps. -/
def decomposeChar : Nat → Char → List Char
  | 0, c => [c]
  | steps + 1, c =>
    match decomposeOnce c with
    | some parts => parts.flatMap (decomposeChar steps)
    | none => [c]

/-- Inserts a mark behind the marks of its class and of lower ones. The marks are given from the
last to the first. -/
def insertMark (mark : Char) : List Char → List Char
  | [] => [mark]
  | other :: rest =>
    if combiningClass mark < combiningClass other && combiningClass other ≠ 0 then
      other :: insertMark mark rest
    else mark :: other :: rest

/-- Orders marks by their classes; the text so far is given in reverse. -/
def orderMarks (sofar : List Char) : List Char → List Char
  | [] => sofar.reverse
  | c :: cs => orderMarks (if combiningClass c = 0 then c :: sofar else insertMark c sofar) cs

/-- The canonical decomposition of a text. No character takes more than four steps. -/
def decompose (cs : List Char) : List Char := orderMarks [] (cs.flatMap (decomposeChar 4))

def composePair (first second : Char) : Option Char :=
  (Hangul.compose? first second).or
    ((compositionTable.find? (·.2 == [first, second])).map fun entry => Char.ofNat entry.1)

/-- Composes what follows a starting character. The marks that stay on their own are given in
reverse; one of a class not below that of the next character keeps it from composing. -/
def composeAfter (starter : Char) (marks : List Char) : List Char → List Char
  | [] => starter :: marks.reverse
  | c :: cs =>
    let blocked := marks.head?.any fun last => combiningClass c ≤ combiningClass last
    match if blocked then none else composePair starter c with
    | some composed => composeAfter composed marks cs
    | none =>
      if combiningClass c = 0 then starter :: (marks.reverse ++ composeAfter c [] cs)
      else composeAfter starter (c :: marks) cs

def compose : List Char → List Char
  | [] => []
  | c :: cs => if combiningClass c = 0 then composeAfter c [] cs else c :: compose cs

def normalize (cs : List Char) : List Char :=
  if cs.all (·.toNat < 0x300) then cs else compose (decompose cs)

end ObjectConstraints.Unicode
