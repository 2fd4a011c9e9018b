import ObjectConstraints.Address.Ip
import ObjectConstraints.Model.Value

/-!
# Objects named in texts

The text of an object shows its address, which means nothing to a reader. Here addresses inside of
texts are replaced by names.
-/

namespace ObjectConstraints.Report

def addressMark : List Char := "@0x".toList

def addressLength : Nat := 12

/-- The number of the object whose address a text begins with, among the first objects that were
made. -/
def addressed? (made : Nat) (cs : List Char) : Option Nat :=
  let digits := (cs.drop addressMark.length).take addressLength
  if addressMark.isPrefixOf cs && digits.length == addressLength &&
      digits.all Unicode.isHexDigit then
    (List.range made).find? fun id => (Object.mk id default).address.toList.drop 2 == digits
  else none

/-- Replaces addresses by names, skipping the given number of characters first. -/
def nameAddresses (name : Nat → String) (made : Nat) : Nat → List Char → List Char
  | _, [] => []
  | skipped + 1, _ :: cs => nameAddresses name made skipped cs
  | 0, c :: cs =>
    match addressed? made (c :: cs) with
    | some id =>
      '@' :: '#' :: (name id).toList ++
        nameAddresses name made (addressMark.length + addressLength - 1) cs
    | none => c :: nameAddresses name made 0 cs

/-- A text with the addresses of the objects made so far replaced by names. -/
def nameInText (name : Nat → String) (made : Nat) (text : String) : String :=
  String.ofList (nameAddresses name made 0 text.toList)

end ObjectConstraints.Report
