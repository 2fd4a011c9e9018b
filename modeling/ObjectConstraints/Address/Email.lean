import ObjectConstraints.Address.DomainName
import ObjectConstraints.Address.Ip

/-!
# Email addresses

An address is a user and a domain with an at sign in between. The user is made of ASCII letters,
digits and certain marks. The domain is a host name, possibly an internationalised one, or an
internet address in brackets.
-/

namespace ObjectConstraints.Email

/-- ASCII letters, and the two other letters that are equal to one but for case. -/
def isLetter (c : Char) : Bool :=
  Unicode.isAsciiLetter c || c.toNat == 0x17f || c.toNat == 0x212a

def isLetterOrDigit (c : Char) : Bool := isLetter c || Double.isDigit c

def isUserChar (c : Char) : Bool :=
  isLetterOrDigit c || ".!#$%&'*+/=?^_\x60\x7b|\x7d~-".toList.contains c

/-- A label of a host name: letters, digits and hyphens, these not at the ends, at most 63. -/
def isLabel (label : List Char) : Bool :=
  label.head?.any isLetterOrDigit && label.getLast?.any isLetterOrDigit && label.length ≤ 63 &&
    label.all fun c => isLetterOrDigit c || c == '-'

/-- Labels with points in between. -/
def isHostName (domain : List Char) : Bool :=
  (Ip.pieces '.' domain).all isLabel

/-- The part in the brackets that a text ends with, if it has characters of internet addresses
only. -/
def bracketed? (domain : List Char) : Option (List Char) :=
  match domain.reverse with
  | ']' :: rest =>
    let isAddressChar (c : Char) := Unicode.isHexDigit c || c == ':' || c == '.'
    let inside := rest.takeWhile isAddressChar
    if inside.isEmpty || (rest.dropWhile isAddressChar).head? != some '[' then none
    else some inside.reverse
  | _ => none

/-- A host name, or anything that ends with an internet address in brackets. -/
def isPlainDomain (domain : List Char) : Bool :=
  isHostName domain ||
    (bracketed? domain).any fun address => Ip.isVersion4 address || Ip.isVersion6 address

/-- A domain as it stands, or by its ASCII form. -/
def isDomain (domain : List Char) : Bool :=
  isPlainDomain domain || (DomainName.toAscii? (fun _ => false) domain).any isPlainDomain

/-- The parts before and after the last at sign. -/
def split? (address : List Char) : Option (List Char × List Char) :=
  let domain := (address.reverse.takeWhile (· != '@')).reverse
  if domain.length < address.length then
    some (address.take (address.length - domain.length - 1), domain)
  else none

def isValid (text : String) : Bool :=
  match split? text.toList with
  | none => false
  | some (user, domain) =>
    user.length ≤ 64 && domain.length ≤ 255 && !user.isEmpty && user.all isUserChar &&
      isDomain domain

end ObjectConstraints.Email
