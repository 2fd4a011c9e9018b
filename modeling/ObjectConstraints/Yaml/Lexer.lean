import ObjectConstraints.Yaml.ScalarText
import ObjectConstraints.Yaml.Token

/-!
# Tokens of a YAML text

Block collections are told by indentation: a deeper column opens one and a shallower column closes
those that are deeper. Whether a token is a key shows only at the colon after it, so the place of
the last token that may be one is kept for every nested collection, and the marks of the key and
of the mapping it starts are inserted there.
-/

namespace ObjectConstraints.Yaml

/-- A token that may turn out to be a key: its number among the tokens and its place. It has to be
one if it stands where the block mapping expects a key. -/
structure PossibleKey where
  token : Nat
  required : Bool
  index : Nat
  line : Nat
  column : Nat

/-- The tokens so far and what decides the next ones. The indentation is that of the innermost
block collection, minus one outside of all. Possible keys are those of the enclosing flow
collections, innermost first, and of the block context last. -/
structure Lexer where
  cursor : Cursor
  tokens : Array Token := #[]
  indent : Int := -1
  outerIndents : List Int := []
  keys : List (Option PossibleKey) := [none]
  keyAllowed : Bool := true

namespace Lexer

def inFlow (l : Lexer) : Bool := 1 < l.keys.length

def push (l : Lexer) (token : Token) : Lexer := { l with tokens := l.tokens.push token }

def insertAt (l : Lexer) (place : Nat) (token : Token) : Lexer :=
  { l with tokens := (l.tokens.extract 0 place).push token ++ l.tokens.extract place l.tokens.size }

/-- Passes blanks, comments and line breaks. A tab cannot indent what may be a key. -/
def skipBlanks : Nat → Lexer → Lexer
  | 0, l => l
  | fuel + 1, l =>
    let cursor := if l.cursor.index == 0 && l.cursor.at? '\ufeff' then l.cursor.skip else l.cursor
    let (_, cursor) := cursor.skipWhile fun c =>
      c == ' ' || (c == '\t' && (l.inFlow || !l.keyAllowed))
    let cursor := if cursor.at? '#' then (cursor.skipWhile (!isBreak ·)).2 else cursor
    match cursor.rest with
    | c :: _ =>
      if isBreak c then
        skipBlanks fuel { l with
          cursor := cursor.takeBreak.2
          keyAllowed := l.keyAllowed || !l.inFlow }
      else { l with cursor := cursor }
    | [] => { l with cursor := cursor }

/-- Forgets the possible keys that the place has left behind: a key ends on its line and within
1024 characters. A required one must not be left behind. -/
def dropStale (l : Lexer) : Option Lexer := do
  let keys ← l.keys.mapM fun key =>
    match key with
    | some k =>
      if k.line < l.cursor.line || k.index + 1024 < l.cursor.index then
        if k.required then none else some none
      else some (some k)
    | none => some none
  some { l with keys := keys }

/-- Closes the block collections deeper than a column. -/
def unroll (l : Lexer) (column : Int) : Lexer :=
  if l.inFlow then l
  else
    let all := l.indent :: l.outerIndents
    let closed := all.takeWhile (column < ·)
    match all.drop closed.length with
    | indent :: outer =>
      { l with
        indent := indent
        outerIndents := outer
        tokens := l.tokens ++ (closed.map fun _ => Token.blockEnd).toArray }
    | [] => l

/-- Opens a block collection at a column that is deeper than the indentation; its token goes to
the given place. -/
def roll (l : Lexer) (column place : Nat) (token : Token) : Lexer :=
  if !l.inFlow && l.indent < column then
    { l with indent := column, outerIndents := l.indent :: l.outerIndents }.insertAt place token
  else l

/-- Forgets the possible key of the innermost collection, which must not be required. -/
def removeKey (l : Lexer) : Option Lexer :=
  match l.keys with
  | some k :: outer => if k.required then none else some { l with keys := none :: outer }
  | _ => some l

def saveKey (l : Lexer) : Option Lexer :=
  if !l.keyAllowed then some l
  else do
    let l ← l.removeKey
    let key : PossibleKey :=
      { token := l.tokens.size
        required := !l.inFlow && l.indent == l.cursor.column
        index := l.cursor.index
        line := l.cursor.line
        column := l.cursor.column }
    some { l with keys := some key :: l.keys.drop 1 }

/-- Adds the token of an indicator of `n` characters. -/
def indicator (l : Lexer) (n : Nat) (token : Token) : Lexer :=
  { l with cursor := l.cursor.skipMany n }.push token

def openFlow (l : Lexer) (token : Token) : Option Lexer := do
  let l ← l.saveKey
  some ({ l with keys := none :: l.keys, keyAllowed := true }.indicator 1 token)

def closeFlow (l : Lexer) (token : Token) : Option Lexer := do
  let l ← l.removeKey
  let keys := if l.inFlow then l.keys.drop 1 else l.keys
  some ({ l with keys := keys, keyAllowed := false }.indicator 1 token)

/-- The dash of an entry of a block sequence. -/
def entry (l : Lexer) : Option Lexer := do
  if !l.inFlow && !l.keyAllowed then none
  else
    let l := l.roll l.cursor.column l.tokens.size .blockSequenceStart
    let l ← l.removeKey
    some ({ l with keyAllowed := true }.indicator 1 .blockEntry)

/-- The question mark of an explicit key. -/
def explicitKey (l : Lexer) : Option Lexer := do
  if !l.inFlow && !l.keyAllowed then none
  else
    let l := l.roll l.cursor.column l.tokens.size .blockMappingStart
    let l ← l.removeKey
    some ({ l with keyAllowed := !l.inFlow }.indicator 1 .key)

/-- The colon before a value. It makes a key of the token that may be one. -/
def value (l : Lexer) : Option Lexer :=
  match l.keys with
  | some k :: outer =>
    let l := l.insertAt k.token .key
    let l := l.roll k.column k.token .blockMappingStart
    some ({ l with keys := none :: outer, keyAllowed := false }.indicator 1 .value)
  | _ =>
    if !l.inFlow && !l.keyAllowed then none
    else
      let l := l.roll l.cursor.column l.tokens.size .blockMappingStart
      some ({ l with keyAllowed := !l.inFlow }.indicator 1 .value)

/-- An anchor or an alias, from its indicator. -/
def nameToken (l : Lexer) (token : List Char → Token) : Option Lexer := do
  let l ← l.saveKey
  let (name, cursor) := l.cursor.skip.skipWhile isNameChar
  let ended := match cursor.rest.head? with
    | some c => isGap (some c) || "?:,]\x7d%@\x60".toList.contains c
    | none => true
  if name.isEmpty || !ended then none
  else some ({ l with cursor := cursor, keyAllowed := false }.push (token name))

/-- Characters of the addresses that tags are. -/
def isUriChar (verbatim : Bool) (c : Char) : Bool :=
  isNameChar c || ";/?:@&=+$.%!~*'()".toList.contains c ||
    (verbatim && (c == ',' || c == '[' || c == ']'))

/-- Decodes the octets that a percent sign introduces; they have to be valid UTF-8. -/
def decodeOctets (cs : List Char) : Option (List Char) :=
  let rec octets : List Char → Option (List UInt8)
    | [] => some []
    | '%' :: a :: b :: rest =>
      if Unicode.isHexDigit a && Unicode.isHexDigit b then
        (octets rest).map ((Unicode.hexNumber [a, b]).toUInt8 :: ·)
      else none
    | '%' :: _ => none
    | c :: rest => (octets rest).map (c.toNat.toUInt8 :: ·)
  (octets cs).bind fun bytes => (String.fromUTF8? ⟨bytes.toArray⟩).map String.toList

/-- The address that follows, with what is already known of it; it must not be empty. -/
def takeUri (verbatim : Bool) (known : List Char) (cursor : Cursor) :
    Option (List Char × Cursor) := do
  let (passed, after) := cursor.skipWhile (isUriChar verbatim)
  let decoded ← decodeOctets passed
  if known.isEmpty && passed.isEmpty then none
  else some (known.drop 1 ++ decoded, after)

def takeTag (l : Lexer) : Option Lexer := do
  let l ← l.saveKey
  let (handle, suffix, cursor) ←
    if l.cursor.peek 1 == some '<' then do
      let (uri, cursor) ← takeUri true [] (l.cursor.skipMany 2)
      if cursor.at? '>' then some ([], uri, cursor.skip) else none
    else do
      let (name, cursor) := l.cursor.skip.skipWhile isNameChar
      if cursor.at? '!' then
        let (suffix, cursor) ← takeUri false [] cursor.skip
        some ('!' :: (name ++ ['!']), suffix, cursor)
      else
        let (suffix, cursor) ← takeUri false ('!' :: name) cursor
        some (if suffix.isEmpty then ([], ['!'], cursor) else (['!'], suffix, cursor))
  let ended := isGap cursor.rest.head? || (l.inFlow && cursor.at? ',')
  if !ended then none
  else some ({ l with cursor := cursor, keyAllowed := false }.push (.tag handle suffix))

def takeBlockScalar (l : Lexer) (folded : Bool) : Option Lexer := do
  let l ← l.removeKey
  let (text, cursor) ← blockScalar folded l.indent l.cursor.skip
  let style : ScalarStyle := if folded then .folded else .literal
  some ({ l with cursor := cursor, keyAllowed := true }.push (.scalar style text))

def takeQuoted (l : Lexer) (single : Bool) : Option Lexer := do
  let l ← l.saveKey
  let cursor := l.cursor.skip
  let (text, cursor) ← quotedScalar single (cursor.rest.length + 1) cursor []
  some ({ l with cursor := cursor, keyAllowed := false }.push (.scalar .quoted text.reverse))

/-- A plain scalar. After a line break the next token may be a key again. -/
def takePlain (l : Lexer) : Option Lexer := do
  let l ← l.saveKey
  let (text, cursor, broken) ←
    plainScalar l.inFlow (l.indent + 1).toNat (l.cursor.rest.length + 1) l.cursor [] {}
  some ({ l with cursor := cursor, keyAllowed := broken }.push (.scalar .plain text.reverse))

/-- A number of a version, of at most nine digits. -/
def takeVersionNumber (cursor : Cursor) : Option (Nat × Cursor) :=
  let (digits, after) := cursor.skipWhile Char.isDigit
  if digits.isEmpty || 9 < digits.length then none
  else some (digits.foldl (fun n c => 10 * n + (c.toNat - 48)) 0, after)

/-- The rest of a directive after its name. -/
def directiveValue (name : List Char) (cursor : Cursor) : Option (Token × Cursor) :=
  let (_, cursor) := cursor.skipWhile isBlank
  if name == "YAML".toList then do
    let (major, cursor) ← takeVersionNumber cursor
    if !cursor.at? '.' then none
    else
      let (minor, cursor) ← takeVersionNumber cursor.skip
      some (.versionDirective major minor, cursor)
  else if name == "TAG".toList then do
    if !cursor.at? '!' then none
    else
      let (letters, cursor) := cursor.skip.skipWhile isNameChar
      let (handle, cursor) ←
        if cursor.at? '!' then some ('!' :: (letters ++ ['!']), cursor.skip)
        else if letters.isEmpty then some (['!'], cursor)
        else none
      if !(cursor.rest.head?.map isBlank).getD false then none
      else
        let (_, cursor) := cursor.skipWhile isBlank
        let (uri, cursor) ← takeUri true [] cursor
        if isGap cursor.rest.head? then some (.tagDirective handle uri, cursor) else none
  else none

/-- A directive, from its percent sign to the end of its line. -/
def directive (l : Lexer) : Option Lexer := do
  let l ← (l.unroll (-1)).removeKey
  let (name, cursor) := l.cursor.skip.skipWhile isNameChar
  if name.isEmpty || !isGap cursor.rest.head? then none
  else
    let (token, cursor) ← directiveValue name cursor
    let (_, cursor) := cursor.skipWhile isBlank
    let cursor := if cursor.at? '#' then (cursor.skipWhile (!isBreak ·)).2 else cursor
    match cursor.rest.head? with
    | some c =>
      if isBreak c then
        some ({ l with cursor := cursor.takeBreak.2, keyAllowed := false }.push token)
      else none
    | none => some ({ l with cursor := cursor, keyAllowed := false }.push token)

def documentMark (l : Lexer) (token : Token) : Option Lexer := do
  let l ← (l.unroll (-1)).removeKey
  some ({ l with keyAllowed := false }.indicator 3 token)

/-- Whether a plain scalar can start with a character, given the one after it. -/
def startsPlain (inFlow : Bool) (c : Char) (next : Option Char) : Bool :=
  !(isGap (some c) || "-?:,[]\x7b\x7d#&*!|>'\"%@\x60".toList.contains c) ||
    (c == '-' && !(next.map isBlank).getD false) ||
    (!inFlow && (c == '?' || c == ':') && !isGap next)

/-- The next token, where the text goes on with the given character. -/
def token (l : Lexer) (c : Char) : Option Lexer :=
  let next := l.cursor.peek 1
  if l.cursor.column == 0 && c == '%' then l.directive
  else if l.cursor.atMark '-' then l.documentMark .documentStart
  else if l.cursor.atMark '.' then l.documentMark .documentEnd
  else if c == '[' then l.openFlow .flowSequenceStart
  else if c == '\x7b' then l.openFlow .flowMappingStart
  else if c == ']' then l.closeFlow .flowSequenceEnd
  else if c == '\x7d' then l.closeFlow .flowMappingEnd
  else if c == ',' then do
    let l ← l.removeKey
    some ({ l with keyAllowed := true }.indicator 1 .flowEntry)
  else if c == '-' && isGap next then l.entry
  else if c == '?' && (l.inFlow || isGap next) then l.explicitKey
  else if c == ':' && (l.inFlow || isGap next) then l.value
  else if c == '*' then l.nameToken .alias
  else if c == '&' then l.nameToken .anchor
  else if c == '!' then l.takeTag
  else if c == '|' && !l.inFlow then l.takeBlockScalar false
  else if c == '>' && !l.inFlow then l.takeBlockScalar true
  else if c == '\'' then l.takeQuoted true
  else if c == '"' then l.takeQuoted false
  else if startsPlain l.inFlow c next then l.takePlain
  else none

def run : Nat → Lexer → Option (Array Token)
  | 0, _ => none
  | fuel + 1, l => do
    let l ← (l.skipBlanks (l.cursor.rest.length + 1)).dropStale
    let l := l.unroll l.cursor.column
    match l.cursor.rest with
    | [] =>
      let l ← (l.unroll (-1)).removeKey
      some l.tokens
    | c :: _ =>
      let l ← l.token c
      run fuel l

end Lexer

/-- The tokens of a text. A byte order mark at its start does not count. -/
def tokens? (text : String) : Option (List Token) :=
  let chars := match text.toList with
    | c :: cs => if c == '\ufeff' then cs else c :: cs
    | [] => []
  if chars.all isAllowed then
    (Lexer.run (chars.length + 1) { cursor := Cursor.start chars }).map Array.toList
  else none

end ObjectConstraints.Yaml
