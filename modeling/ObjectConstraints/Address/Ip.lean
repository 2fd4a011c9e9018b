import ObjectConstraints.Number.DecimalText

/-!
# Internet addresses

Which texts are addresses of version 4, four decimal numbers, or of version 6, eight groups of
hexadecimal digits, of which one run may be left out and the last two may be written as an address
of version 4.
-/

namespace ObjectConstraints.Ip

/-- Pieces of a text between the characters that equal a separator. -/
def pieces (separator : Char) (cs : List Char) : List (List Char) :=
  Unicode.splitChars (· == separator) cs

/-- A number from 0 to 255 without leading zeros. -/
def isOctet (cs : List Char) : Bool :=
  !cs.isEmpty && cs.length ≤ 3 && cs.all Double.isDigit &&
    (cs.length == 1 || cs.head? != some '0') &&
    Double.digitsValue cs ≤ 255

/-- Four octets with points in between. -/
def isVersion4 (cs : List Char) : Bool :=
  let parts := pieces '.' cs
  parts.length == 4 && parts.all isOctet

def isGroup (cs : List Char) : Bool :=
  !cs.isEmpty && cs.length ≤ 4 && cs.all Unicode.isHexDigit

/-- The number of groups that pieces stand for, if all of them are groups; the last may be an
address of version 4, which stands for two. -/
def groupCount (allowVersion4 : Bool) : List (List Char) → Option Nat
  | [] => some 0
  | [last] =>
    if isGroup last then some 1 else if allowVersion4 && isVersion4 last then some 2 else none
  | part :: rest => if isGroup part then (groupCount allowVersion4 rest).map (· + 1) else none

def groups (allowVersion4 : Bool) (cs : List Char) : Option Nat :=
  if cs.isEmpty then some 0 else groupCount allowVersion4 (pieces ':' cs)

/-- What stands before and after the first two colons in a row. -/
def splitDouble : List Char → Option (List Char × List Char)
  | ':' :: ':' :: rest => some ([], rest)
  | c :: rest => (splitDouble rest).map fun (before, after) => (c :: before, after)
  | [] => none

/-- Eight groups, or at most seven around the place where groups are left out. -/
def isVersion6 (cs : List Char) : Bool :=
  match splitDouble cs with
  | some (before, after) =>
    match groups false before, groups true after with
    | some a, some b => a + b ≤ 7
    | _, _ => false
  | none => groups true cs == some 8

end ObjectConstraints.Ip
