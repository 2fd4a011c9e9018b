import ObjectConstraints.Unicode.Ranges
import ObjectConstraints.Yaml.Cursor

/-!
# Texts of scalars

How the characters of a plain, quoted or block scalar make its text: single line breaks fold into
spaces, further ones stay, and escapes stand for characters.
-/

namespace ObjectConstraints.Yaml

/-- Blanks met between the words of a scalar: spaces on one line, or the line breaks that were
crossed, the first apart from the others. -/
structure Gap where
  spaces : List Char := []
  broken : Bool := false
  firstBreak : List Char := []
  moreBreaks : List Char := []

/-- The text a gap leaves. A single line break becomes a space; of several the first is dropped. -/
def Gap.text (gap : Gap) : List Char :=
  if !gap.broken then gap.spaces
  else if gap.firstBreak == ['\n'] then
    if gap.moreBreaks.isEmpty then [' '] else gap.moreBreaks
  else gap.firstBreak ++ gap.moreBreaks

/-- Passes blanks and line breaks. In a plain scalar, tabs in the indentation are refused. -/
def takeGap (plainIndent : Option Nat) : Nat → Cursor → Gap → Option (Gap × Cursor)
  | 0, cursor, gap => some (gap, cursor)
  | fuel + 1, cursor, gap =>
    match cursor.rest with
    | [] => some (gap, cursor)
    | c :: _ =>
      if isBlank c then
        let abused := match plainIndent with
          | some indent => gap.broken && cursor.column < indent && c == '\t'
          | none => false
        if abused then none
        else if gap.broken then takeGap plainIndent fuel cursor.skip gap
        else takeGap plainIndent fuel cursor.skip { gap with spaces := gap.spaces ++ [c] }
      else if isBreak c then
        let (newline, cursor) := cursor.takeBreak
        if gap.broken then
          takeGap plainIndent fuel cursor { gap with moreBreaks := gap.moreBreaks ++ newline }
        else takeGap plainIndent fuel cursor { broken := true, firstBreak := newline }
      else some (gap, cursor)

def endsPlain (inFlow : Bool) (cursor : Cursor) : Bool :=
  match cursor.rest with
  | [] => true
  | c :: _ =>
    isGap (some c) || (c == ':' && isGap (cursor.peek 1)) ||
      (inFlow && (c == ',' || c == '[' || c == ']' || c == '\x7b' || c == '\x7d'))

/-- Whether a colon stands here that cannot be part of a plain scalar inside of a collection. -/
def isStrayColon (inFlow : Bool) (cursor : Cursor) : Bool :=
  inFlow && cursor.at? ':' &&
    match cursor.peek 1 with
    | some c => c == ',' || c == '?' || c == '[' || c == ']' || c == '\x7b' || c == '\x7d'
    | none => false

/-- The characters of one word of a plain scalar, in reverse. -/
def plainWord (inFlow : Bool) : Nat → Cursor → List Char → Option (List Char × Cursor)
  | 0, cursor, read => some (read, cursor)
  | fuel + 1, cursor, read =>
    match cursor.rest with
    | [] => some (read, cursor)
    | c :: _ =>
      if isGap (some c) then some (read, cursor)
      else if isStrayColon inFlow cursor then none
      else if endsPlain inFlow cursor then some (read, cursor)
      else plainWord inFlow fuel cursor.skip (c :: read)

/-- A plain scalar that is continued on lines indented by at least `indent`: its text in reverse,
the place after it and whether line breaks were crossed at its end. -/
def plainScalar (inFlow : Bool) (indent : Nat) :
    Nat → Cursor → List Char → Gap → Option (List Char × Cursor × Bool)
  | 0, cursor, read, gap => some (read, cursor, gap.broken)
  | fuel + 1, cursor, read, gap =>
    if cursor.atDocumentMark || cursor.at? '#' then some (read, cursor, gap.broken)
    else do
      let (word, after) ← plainWord inFlow (cursor.rest.length + 1) cursor []
      let (read, gap) := if word.isEmpty then (read, gap) else
        (word ++ gap.text.reverse ++ read, {})
      match after.rest with
      | [] => some (read, after, gap.broken)
      | c :: _ =>
        if !(isBlank c || isBreak c) then some (read, after, gap.broken)
        else do
          let (gap, after) ← takeGap (some indent) (after.rest.length + 1) after gap
          if !inFlow && after.column < indent then some (read, after, gap.broken)
          else plainScalar inFlow indent fuel after read gap

def escapedChar : Char → Option Char
  | '0' => some '\x00'
  | 'a' => some '\x07'
  | 'b' => some '\x08'
  | 't' => some '\t'
  | '\t' => some '\t'
  | 'n' => some '\n'
  | 'v' => some '\x0b'
  | 'f' => some '\x0c'
  | 'r' => some '\r'
  | 'e' => some '\x1b'
  | ' ' => some ' '
  | '"' => some '"'
  | '/' => some '/'
  | '\\' => some '\\'
  | 'N' => some '\u0085'
  | '_' => some '\u00a0'
  | 'L' => some '\u2028'
  | 'P' => some '\u2029'
  | _ => none

/-- The number of hexadecimal digits after the letter of an escape. -/
def escapeDigits : Char → Option Nat
  | 'x' => some 2
  | 'u' => some 4
  | 'U' => some 8
  | _ => none

/-- The character of an escape and what follows it, after the backslash. -/
def takeEscape (rest : List Char) : Option (Char × Nat) :=
  match rest with
  | [] => none
  | c :: rest =>
    match escapeDigits c with
    | none => (escapedChar c).map fun c => (c, 1)
    | some n =>
      let digits := rest.take n
      let code := Unicode.hexNumber digits
      if digits.length == n && digits.all Unicode.isHexDigit &&
          !(0xd800 ≤ code && code ≤ 0xdfff) && code ≤ 0x10ffff then
        some (Char.ofNat code, n + 1)
      else none

def Cursor.skipMany (cursor : Cursor) : Nat → Cursor
  | 0 => cursor
  | n + 1 => cursor.skip.skipMany n

/-- The characters of one word of a quoted scalar, in reverse, and whether an escaped line break
ended it. -/
def quotedWord (single : Bool) : Nat → Cursor → List Char → Option (List Char × Bool × Cursor)
  | 0, cursor, read => some (read, false, cursor)
  | fuel + 1, cursor, read =>
    match cursor.rest with
    | [] => some (read, false, cursor)
    | c :: rest =>
      if isGap (some c) then some (read, false, cursor)
      else if single && c == '\'' then
        if rest.head? == some '\'' then quotedWord single fuel (cursor.skipMany 2) ('\'' :: read)
        else some (read, false, cursor)
      else if !single && c == '"' then some (read, false, cursor)
      else if !single && c == '\\' then
        match rest with
        | d :: _ =>
          if isBreak d then some (read, true, cursor.skip.takeBreak.2)
          else match takeEscape rest with
            | some (c, n) => quotedWord single fuel (cursor.skipMany (n + 1)) (c :: read)
            | none => none
        | [] => none
      else quotedWord single fuel cursor.skip (c :: read)

/-- A quoted scalar after its opening quote: its text in reverse and the place after it. -/
def quotedScalar (single : Bool) : Nat → Cursor → List Char → Option (List Char × Cursor)
  | 0, _, _ => none
  | fuel + 1, cursor, read =>
    if cursor.atDocumentMark || cursor.rest.isEmpty then none
    else do
      let (word, escapedBreak, after) ← quotedWord single (cursor.rest.length + 1) cursor []
      let read := word ++ read
      if after.at? (if single then '\'' else '"') then some (read, after.skip)
      else do
        let (gap, after) ← takeGap none (after.rest.length + 1) after { broken := escapedBreak }
        quotedScalar single fuel after (gap.text.reverse ++ read)

/-- What becomes of the line breaks at the end of a block scalar. -/
inductive Chomping where
  | strip
  | clip
  | keep
  deriving DecidableEq, Repr

/-- The header of a block scalar: chomping and the explicit indentation, in either order. -/
def blockHeader (cursor : Cursor) : Option (Chomping × Option Nat × Cursor) :=
  let chomp (c : Char) : Option Chomping :=
    if c == '+' then some .keep else if c == '-' then some .strip else none
  let digit (c : Char) : Bool := '1' ≤ c && c ≤ '9'
  match cursor.rest with
  | [] => some (.clip, none, cursor)
  | c :: rest =>
    match chomp c with
    | some chomping =>
      match rest with
      | d :: _ =>
        if digit d then some (chomping, some (d.toNat - 48), cursor.skipMany 2)
        else if d == '0' then none
        else some (chomping, none, cursor.skip)
      | [] => some (chomping, none, cursor.skip)
    | none =>
      if c == '0' then none
      else if digit c then
        match rest.head?.bind chomp with
        | some chomping => some (chomping, some (c.toNat - 48), cursor.skipMany 2)
        | none => some (.clip, some (c.toNat - 48), cursor.skip)
      else some (.clip, none, cursor)

/-- Passes the indentation and the empty lines before a line of a block scalar. An indentation of
zero is yet to be found. Also answers the deepest column that was reached. -/
def blockBreaks (indent : Nat) : Nat → Cursor → Nat → List Char → Option (Nat × List Char × Cursor)
  | 0, cursor, deepest, breaks => some (deepest, breaks, cursor)
  | fuel + 1, cursor, deepest, breaks =>
    let room := if indent = 0 then cursor.rest.length else indent - cursor.column
    let spaces := ((cursor.rest.take room).takeWhile (· == ' ')).length
    let cursor := cursor.skipMany spaces
    let deepest := max deepest cursor.column
    if (indent = 0 || cursor.column < indent) && cursor.at? '\t' then none
    else match cursor.rest with
      | c :: _ =>
        if isBreak c then
          let (newline, cursor) := cursor.takeBreak
          blockBreaks indent fuel cursor deepest (breaks ++ newline)
        else some (deepest, breaks, cursor)
      | [] => some (deepest, breaks, cursor)

/-- The lines of a block scalar with a known indentation: the text in reverse, the break that ends
the last line, and the breaks after it. -/
def blockLines (folded : Bool) (indent : Nat) :
    Nat → Cursor → List Char → List Char → List Char → Bool →
    Option (List Char × List Char × List Char × Cursor)
  | 0, cursor, read, leading, trailing, _ => some (read, leading, trailing, cursor)
  | fuel + 1, cursor, read, leading, trailing, wasBlank =>
    match cursor.rest with
    | [] => some (read, leading, trailing, cursor)
    | c :: _ =>
      if cursor.column != indent then some (read, leading, trailing, cursor)
      else do
        let blank := isBlank c
        let joined :=
          if folded && leading == ['\n'] && !wasBlank && !blank then
            if trailing.isEmpty then [' '] else trailing
          else leading ++ trailing
        let (line, after) := cursor.skipWhile (!isBreak ·)
        let (leading, after) := after.takeBreak
        let (_, trailing, after) ← blockBreaks indent (after.rest.length + 1) after 0 []
        blockLines folded indent fuel after (line.reverse ++ joined.reverse ++ read) leading
          trailing blank

/-- A block scalar after its indicator, inside of a collection with the given indentation. -/
def blockScalar (folded : Bool) (parent : Int) (cursor : Cursor) : Option (List Char × Cursor) := do
  let (chomping, explicit, cursor) ← blockHeader cursor
  let (_, cursor) := cursor.skipWhile isBlank
  let cursor := if cursor.at? '#' then (cursor.skipWhile (!isBreak ·)).2 else cursor
  match cursor.rest with
  | c :: _ => if isBreak c then some () else none
  | [] => some ()
  let (_, cursor) := cursor.takeBreak
  let indent := match explicit with
    | some n => (if 0 ≤ parent then parent.toNat else 0) + n
    | none => 0
  let (deepest, trailing, cursor) ← blockBreaks indent (cursor.rest.length + 1) cursor 0 []
  let indent := if indent = 0 then max deepest (max (parent + 1).toNat 1) else indent
  let (read, leading, trailing, cursor) ←
    blockLines folded indent (cursor.rest.length + 1) cursor [] [] trailing false
  let tail := match chomping with
    | .strip => []
    | .clip => leading
    | .keep => leading ++ trailing
  some (read.reverse ++ tail, cursor)

end ObjectConstraints.Yaml
