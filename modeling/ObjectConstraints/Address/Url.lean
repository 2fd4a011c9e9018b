import ObjectConstraints.Address.DomainName
import ObjectConstraints.Address.Ip
import ObjectConstraints.Number.Width

/-!
# Absolute URLs

Which texts are absolute URLs. A scheme is needed. Of what follows it only the authority can be
wrong: paths, queries and fragments are escaped where necessary. Web schemes need a host, which is a
domain name or an internet address; the hosts of other schemes are not looked into.
-/

namespace ObjectConstraints.Url

inductive SchemeKind where
  | file
  /-- The other schemes whose URLs are known to have hosts. -/
  | web
  | other
  deriving DecidableEq, Repr

def SchemeKind.ofName (scheme : List Char) : SchemeKind :=
  let name := String.ofList (scheme.map Unicode.lowerAscii)
  if name == "file" then .file
  else if ["http", "https", "ws", "wss", "ftp"].contains name then .web
  else .other

/-- Drops controls and spaces at the ends, and tabs and line ends everywhere. -/
def clean (cs : List Char) : List Char :=
  let isTrimmed (c : Char) := c.toNat ≤ 0x20
  let trimmed := ((cs.dropWhile isTrimmed).reverse.dropWhile isTrimmed).reverse
  trimmed.filter fun c => c != '\t' && c != '\n' && c != '\r'

/-- The scheme in front of the first colon, and what follows the colon. -/
def takeScheme (cs : List Char) : Option (List Char × List Char) :=
  let isPart (c : Char) :=
    Unicode.isAsciiLetter c || Double.isDigit c || c == '+' || c == '-' || c == '.'
  let scheme := cs.takeWhile isPart
  match scheme.head?, cs.dropWhile isPart with
  | some first, ':' :: rest => if Unicode.isAsciiLetter first then some (scheme, rest) else none
  | _, _ => none

/-- Whether a character ends an authority. -/
def endsAuthority (kind : SchemeKind) (c : Char) : Bool :=
  c == '/' || c == '?' || c == '#' || (c == '\\' && kind != .other)

/-- The text after the user information, and whether there was some; none if a user information
leaves no room for a host. -/
def dropUser (kind : SchemeKind) (cs : List Char) : Option (List Char × Bool) :=
  let authority := cs.takeWhile (!endsAuthority kind ·)
  if !authority.contains '@' then some (cs, false)
  else
    let host := (authority.reverse.takeWhile (· != '@')).reverse
    let user := authority.take (authority.length - host.length - 1)
    let rest := cs.drop (user.length + 1)
    if user.isEmpty then
      if rest.head?.any (endsAuthority kind) then none else some (rest, false)
    else some (rest, user != [':'])

/-- The host in front, up to a colon outside of brackets or the end of the authority. -/
def takeHost (kind : SchemeKind) (inBrackets : Bool) : List Char → List Char × List Char
  | [] => ([], [])
  | c :: cs =>
    if (c == ':' && !inBrackets) || endsAuthority kind c then ([], c :: cs)
    else
      let inBrackets := c == '[' || (inBrackets && c != ']')
      let (host, rest) := takeHost kind inBrackets cs
      (c :: host, rest)

def utf8 (cs : List Char) : List UInt8 := cs.flatMap String.utf8EncodeChar

/-- The bytes of a text in which escaped bytes are given in hexadecimal. -/
def unescape : List Char → List UInt8
  | '%' :: a :: b :: rest =>
    if Unicode.isHexDigit a && Unicode.isHexDigit b then
      UInt8.ofNat (16 * Unicode.hexDigit a + Unicode.hexDigit b) :: unescape rest
    else 0x25 :: unescape (a :: b :: rest)
  | c :: rest => utf8 [c] ++ unescape rest
  | [] => []

/-- The ASCII characters that host names do not have. -/
def isDenied (c : Char) : Bool :=
  c.toNat ≤ 0x20 || c.toNat == 0x7f || "%#/:<>?@[\\]^|".toList.contains c

/-- A number of an address: in hexadecimal after `0x`, in octal after `0`, else in decimal. The
outer result is none if the text is no such number, the inner one if the number is too large. -/
def number? (cs : List Char) : Option (Option Nat) :=
  let (digits, base) := match cs with
    | '0' :: 'x' :: rest => (rest, 16)
    | '0' :: 'X' :: rest => (rest, 16)
    | '0' :: d :: rest => (d :: rest, 8)
    | cs => (cs, 10)
  if cs.isEmpty then none
  else if digits.all fun c => Unicode.isHexDigit c && Unicode.hexDigit c < base then
    let value : Nat := digits.foldl (fun n c => base * n + Unicode.hexDigit c) 0
    some (if Width.holdsNatural 32 value then some value else none)
  else none

/-- Drops the empty label behind a final point. -/
def dropEmptyEnd (labels : List (List Char)) : List (List Char) :=
  if labels.getLast? == some [] then labels.dropLast else labels

/-- Whether the last label is a number, so that the name has to be an address. -/
def endsInNumber (name : List Char) : Bool :=
  match (dropEmptyEnd (Ip.pieces '.' name)).getLast? with
  | some last => (!last.isEmpty && last.all Double.isDigit) || (number? last).isSome
  | none => false

/-- Up to four numbers with points in between; the last fills the bytes that are left. -/
def isNumericAddress (name : List Char) : Bool :=
  let parts := dropEmptyEnd (Ip.pieces '.' name)
  match parts.mapM fun part => (number? part).bind id with
  | none => false
  | some numbers =>
    numbers.length ≤ 4 && numbers.dropLast.all (· ≤ 255) &&
      numbers.getLast?.any fun last =>
        Width.holdsNatural (8 * (5 - numbers.length)) last

/-- The address between brackets around a whole text. -/
def bracketed? (host : List Char) : Option (List Char) :=
  match host with
  | '[' :: rest => if rest.getLast? == some ']' then some rest.dropLast else none
  | _ => none

def isNamedHost (host : List Char) : Bool :=
  if host.head? == some '[' then (bracketed? host).any Ip.isVersion6
  else match String.fromUTF8? (ByteArray.mk (unescape host).toArray) with
    | none => false
    | some name =>
      match DomainName.toAscii? isDenied name.toList with
      | none => false
      | some name => !name.isEmpty && (!endsInNumber name || isNumericAddress name)

/-- Whether a text is a host of a scheme that says nothing of hosts. -/
def isOpaqueHost (host : List Char) : Bool :=
  if host.head? == some '[' then (bracketed? host).any Ip.isVersion6
  else !host.any ("\x00\t\n\r #/:<>?@[\\]^|".toList.contains ·)

/-- Whether a port in front is a number below 65536 that something other than a path, a query or a
fragment does not follow. -/
def isPort (cs : List Char) : Bool :=
  let digits := cs.takeWhile Double.isDigit
  Double.digitsValue digits < 65536 &&
    (cs.dropWhile Double.isDigit).head?.all (endsAuthority .web)

/-- Whether an authority in front is valid. -/
def hasAuthority (kind : SchemeKind) (cs : List Char) : Bool :=
  match dropUser kind cs with
  | none => false
  | some (cs, hasUser) =>
    let (host, rest) := takeHost kind false cs
    let isHost := match kind with
      | .web => !host.isEmpty && isNamedHost host
      | _ => isOpaqueHost host
    let port := match rest with
      | ':' :: port => some port
      | _ => none
    isHost && port.all isPort && !(host.isEmpty && (hasUser || port.isSome))

/-- Whether the host of a file in front is valid. Letters of drives are no hosts. -/
def hasFileHost (cs : List Char) : Bool :=
  let host := cs.takeWhile (!endsAuthority .file ·)
  let isDrive := match host with
    | [letter, mark] => Unicode.isAsciiLetter letter && (mark == ':' || mark == '|')
    | _ => false
  host.isEmpty || isDrive || isNamedHost host

def isValid (text : String) : Bool :=
  match takeScheme (clean text.toList) with
  | none => false
  | some (scheme, rest) =>
    match SchemeKind.ofName scheme with
    | .web => hasAuthority .web (rest.dropWhile fun c => c == '/' || c == '\\')
    | .file =>
      match rest with
      | a :: b :: host =>
        if (a == '/' || a == '\\') && (b == '/' || b == '\\') then hasFileHost host else true
      | _ => true
    | .other =>
      match rest with
      | '/' :: '/' :: authority => hasAuthority .other authority
      | _ => true

end ObjectConstraints.Url
