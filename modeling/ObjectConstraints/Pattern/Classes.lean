import ObjectConstraints.Pattern.Expression
import ObjectConstraints.Unicode.Case

/-!
# Sets of characters in expressions

The members of classes and of the other expressions that stand for one character, under the flags in
force. Without the Unicode flag the members are bytes, and an expression that could match a byte beyond
ASCII is refused, as texts are matched by characters.
-/

namespace ObjectConstraints.Pattern

open Unicode (CodeSet)

structure Modes where
  ignoreCase : Bool := false
  multiLine : Bool := false
  dotAll : Bool := false
  unicode : Bool := true
  carriageReturn : Bool := false

/-- The flags in force after some are set. -/
def Modes.set (modes : Modes) (settings : FlagSettings) : Modes where
  ignoreCase := (settings.value? .ignoreCase).getD modes.ignoreCase
  multiLine := (settings.value? .multiLine).getD modes.multiLine
  dotAll := (settings.value? .dotAll).getD modes.dotAll
  unicode := (settings.value? .unicode).getD modes.unicode
  carriageReturn := (settings.value? .carriageReturn).getD modes.carriageReturn

/-- The set of the letters of a class and of those that differ from them in case alone. -/
def foldCase (modes : Modes) (set : CodeSet) : CodeSet :=
  if !modes.ignoreCase then set
  else if modes.unicode then set.withFoldings
  else set.withAsciiFoldings

def negateIf (negated : Bool) (set : CodeSet) : CodeSet :=
  if negated then set.compl else set

/-- Whether a set of bytes holds ASCII alone. -/
def isAsciiOnly (set : CodeSet) : Bool :=
  set.runs.all fun r => r.last < 128 || 255 < r.first

def ofChars (ranges : List (Char × Char)) : CodeSet :=
  .ofRanges (ranges.map fun (first, last) => ⟨first.toNat, last.toNat⟩)

/-- The classes that are written between colons. -/
def namedSet (name : List Char) : CodeSet :=
  match String.ofList name with
  | "alnum" => ofChars [('0', '9'), ('A', 'Z'), ('a', 'z')]
  | "alpha" => ofChars [('A', 'Z'), ('a', 'z')]
  | "ascii" => .ofRanges [⟨0, 127⟩]
  | "blank" => ofChars [('\t', '\t'), (' ', ' ')]
  | "cntrl" => .ofRanges [⟨0, 31⟩, ⟨127, 127⟩]
  | "digit" => ofChars [('0', '9')]
  | "graph" => ofChars [('!', '~')]
  | "lower" => ofChars [('a', 'z')]
  | "print" => ofChars [(' ', '~')]
  | "punct" => ofChars [('!', '/'), (':', '@'), ('[', '\x60'), ('\x7b', '~')]
  | "space" => .ofRanges [⟨9, 13⟩, ⟨32, 32⟩]
  | "upper" => ofChars [('A', 'Z')]
  | "word" => ofChars [('0', '9'), ('A', 'Z'), ('_', '_'), ('a', 'z')]
  | "xdigit" => ofChars [('0', '9'), ('A', 'F'), ('a', 'f')]
  | _ => .empty

def digitSet : CodeSet := .ofRanges Unicode.digitRanges
def blankSet : CodeSet := .ofRanges Unicode.blankRanges
def wordSet : CodeSet := .ofRanges Unicode.wordRanges

def shorthandSet (unicode : Bool) (kind : Shorthand) : CodeSet :=
  match kind, unicode with
  | .digit, true => digitSet
  | .blank, true => blankSet
  | .word, true => wordSet
  | .digit, false => namedSet "digit".toList
  | .blank, false => namedSet "space".toList
  | .word, false => namedSet "word".toList

/-- Whether a loose name is one of the given names. -/
def isName (name : List Char) (names : List String) : Bool :=
  names.any fun n => Unicode.looseName n.toList == name

/-- The class a query names. A name alone is a binary property, a general category or a script, in
this order; three abbreviations that also name properties are categories. -/
def Query.set? : Query → Option CodeSet
  | .single name =>
    let name := Unicode.looseName name
    let reserved := name == ['c', 'f'] || name == ['s', 'c'] || name == ['l', 'c']
    let found := if reserved then none else Unicode.property? name
    (found.or (Unicode.category? name)).or (Unicode.script? name)
  | .value property member =>
    let property := Unicode.looseName property
    let member := Unicode.looseName member
    if isName property ["gc", "General_Category"] then Unicode.category? member
    else if isName property ["sc", "Script"] then Unicode.script? member
    else if isName property ["scx", "Script_Extensions"] then Unicode.scriptExtension? member
    else if isName property ["age"] then Unicode.age? member
    else none

/-- The code a literal stands for in a class. Without the Unicode flag it has to be ASCII. -/
def Literal.code? (modes : Modes) (l : Literal) : Option Nat :=
  if modes.unicode || l.char.toNat < 128 then some l.char.toNat else none

/-- The members of a class of one letter, negated or not. -/
def shorthand? (modes : Modes) (negated : Bool) (kind : Shorthand) : Option CodeSet :=
  let set := negateIf negated (shorthandSet modes.unicode kind)
  if modes.unicode || isAsciiOnly set then some set else none

/-- The members of a class of the character database, negated or not. -/
def property? (modes : Modes) (negated : Bool) (query : Query) : Option CodeSet :=
  if modes.unicode then query.set?.map fun set => negateIf negated (foldCase modes set) else none

def SetOperator.apply : SetOperator → CodeSet → CodeSet → CodeSet
  | .intersection, x, y => x ∩ y
  | .difference, x, y => x \ y
  | .symmetricDifference, x, y => x \ y ∪ y \ x

mutual

def ClassItem.set? (modes : Modes) : ClassItem → Option CodeSet
  | .literal l => (l.code? modes).map fun code => .ofRanges [⟨code, code⟩]
  | .range first last => do
    let first ← first.code? modes
    let last ← last.code? modes
    some (.ofRanges [⟨first, last⟩])
  | .named negated name => some (negateIf negated (foldCase modes (namedSet name)))
  | .shorthand negated kind => shorthand? modes negated kind
  | .property negated query => property? modes negated query
  | .bracketed negated item => do
    let set := negateIf negated (foldCase modes (← item.set? modes))
    if modes.unicode || isAsciiOnly set then some set else none
  | .union items => ClassItem.unionSet? modes items
  | .combined operator left right => do
    let left ← left.set? modes
    let right ← right.set? modes
    some (operator.apply (foldCase modes left) (foldCase modes right))

def ClassItem.unionSet? (modes : Modes) : List ClassItem → Option CodeSet
  | [] => some .empty
  | item :: items => do
    let set ← item.set? modes
    let others ← ClassItem.unionSet? modes items
    some (set ∪ others)

end

/-- The characters a dot stands for. -/
def dotSet (modes : Modes) : CodeSet :=
  if modes.dotAll then .ofRanges [⟨0, Unicode.maxCode⟩]
  else if modes.carriageReturn then (ofChars [('\n', '\n'), ('\r', '\r')]).compl
  else (ofChars [('\n', '\n')]).compl

/-- The characters that an expression for one of them matches. -/
def Expression.set? (modes : Modes) : Expression → Option CodeSet
  | .literal l =>
    let set : CodeSet := .ofRanges [⟨l.char.toNat, l.char.toNat⟩]
    if modes.unicode || l.char.toNat < 128 then some (foldCase modes set)
    else if l.isByte then none
    else some set
  | .dot => if modes.unicode then some (dotSet modes) else none
  | .shorthand negated kind => shorthand? modes negated kind
  | .property negated query => property? modes negated query
  | .bracketed negated item => (ClassItem.bracketed negated item).set? modes
  | _ => none

end ObjectConstraints.Pattern
