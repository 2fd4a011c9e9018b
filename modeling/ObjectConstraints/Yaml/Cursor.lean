/-!
# Places in a YAML text

A cursor is what is left of a text and where it starts. Lines end with a line feed, a carriage
return, both, or one of the three line ends beyond ASCII.
-/

namespace ObjectConstraints.Yaml

def isBreak (c : Char) : Bool :=
  c == '\n' || c == '\r' || c.toNat == 0x85 || c.toNat == 0x2028 || c.toNat == 0x2029

def isBlank (c : Char) : Bool := c == ' ' || c == '\t'

/-- Whether a character, or the end of the text, separates tokens. -/
def isGap : Option Char → Bool
  | some c => isBlank c || isBreak c
  | none => true

/-- Characters of names: of anchors, tag handles and directives. -/
def isNameChar (c : Char) : Bool := c.isAlphanum || c == '_' || c == '-'

/-- Characters a YAML text may hold. -/
def isAllowed (c : Char) : Bool :=
  let n := c.toNat
  n == 9 || n == 10 || n == 13 || (0x20 ≤ n && n ≤ 0x7e) || n == 0x85 ||
    (0xa0 ≤ n && n ≤ 0xd7ff) || (0xe000 ≤ n && n ≤ 0xfffd) || 0x10000 ≤ n

/-- What is left of a text, and the index, line and column of its first character. -/
structure Cursor where
  rest : List Char
  index : Nat
  line : Nat
  column : Nat
  deriving Inhabited

namespace Cursor

def start (text : List Char) : Cursor := ⟨text, 0, 0, 0⟩

def peek (cursor : Cursor) (n : Nat) : Option Char := cursor.rest[n]?

def at? (cursor : Cursor) (c : Char) : Bool := cursor.rest.head? == some c

def skip (cursor : Cursor) : Cursor :=
  match cursor.rest with
  | [] => cursor
  | _ :: rest => ⟨rest, cursor.index + 1, cursor.line, cursor.column + 1⟩

/-- Passes characters while they satisfy a condition, none of them a line break. -/
def skipWhile (p : Char → Bool) (cursor : Cursor) : List Char × Cursor :=
  let passed := cursor.rest.takeWhile p
  (passed, ⟨cursor.rest.drop passed.length, cursor.index + passed.length, cursor.line,
    cursor.column + passed.length⟩)

/-- Passes one line break. It counts as a line feed, except for the two separators beyond ASCII,
which stay what they are. -/
def takeBreak (cursor : Cursor) : List Char × Cursor :=
  match cursor.rest with
  | '\r' :: '\n' :: rest => (['\n'], ⟨rest, cursor.index + 2, cursor.line + 1, 0⟩)
  | c :: rest =>
    if isBreak c then
      (if c.toNat == 0x2028 || c.toNat == 0x2029 then [c] else ['\n'],
        ⟨rest, cursor.index + 1, cursor.line + 1, 0⟩)
    else ([], cursor)
  | [] => ([], cursor)

/-- Whether a line starts here with three times the given character and a gap: the mark of the
start or the end of a document. -/
def atMark (cursor : Cursor) (c : Char) : Bool :=
  cursor.column == 0 && (cursor.rest.take 3 == [c, c, c]) && isGap (cursor.peek 3)

def atDocumentMark (cursor : Cursor) : Bool :=
  cursor.atMark '-' || cursor.atMark '.'

end Cursor

end ObjectConstraints.Yaml
