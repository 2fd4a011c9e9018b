import ObjectConstraints.Instant
import ObjectConstraints.Number.DecimalText
import ObjectConstraints.Number.Width
import ObjectConstraints.Toml.Value

/-!
# Reading TOML

Keys, values, headers and comments. Inline tables may run over several lines and end with a comma,
and seconds may be left out of times.
-/

namespace ObjectConstraints.Toml

def isBlank (c : Char) : Bool := c == ' ' || c == '\t'

def skipBlanks (cs : List Char) : List Char := cs.dropWhile isBlank

/-- Characters of comments and of strings on one line. -/
def isPlain (c : Char) : Bool := c == '\t' || (32 ≤ c.toNat && c.toNat != 127)

/-- The rest after a line break, if one is next. -/
def takeNewline : List Char → Option (List Char)
  | '\n' :: rest => some rest
  | '\r' :: '\n' :: rest => some rest
  | _ => none

/-- The rest after a comment, if one is next; its characters have to be plain. -/
def skipComment (cs : List Char) : Option (List Char) :=
  match cs with
  | '#' :: rest =>
    let after := rest.dropWhile isPlain
    if after.isEmpty || (takeNewline after).isSome then some after else none
  | _ => some cs

def skipLines : Nat → List Char → Option (List Char)
  | 0, cs => some cs
  | fuel + 1, cs => do
    let rest ← skipComment (skipBlanks cs)
    match takeNewline rest with
    | some rest => skipLines fuel rest
    | none => some rest

/-- The character of an escape and what follows it, after the backslash. -/
def takeEscape (cs : List Char) : Option (Char × List Char) :=
  let coded (n : Nat) (rest : List Char) : Option (Char × List Char) :=
    let digits := rest.take n
    let code := Unicode.hexNumber digits
    if digits.length == n && digits.all Unicode.isHexDigit && code < 0x110000 &&
        !(0xd800 ≤ code && code < 0xe000) then
      some (Char.ofNat code, rest.drop n)
    else none
  match cs with
  | 'b' :: rest => some ('\x08', rest)
  | 't' :: rest => some ('\t', rest)
  | 'n' :: rest => some ('\n', rest)
  | 'f' :: rest => some ('\x0c', rest)
  | 'r' :: rest => some ('\r', rest)
  | 'e' :: rest => some ('\x1b', rest)
  | '"' :: rest => some ('"', rest)
  | '\\' :: rest => some ('\\', rest)
  | 'x' :: rest => coded 2 rest
  | 'u' :: rest => coded 4 rest
  | 'U' :: rest => coded 8 rest
  | _ => none

/-- A string between double quotes, after the first one. -/
def basicString : Nat → List Char → List Char → Option (String × List Char)
  | 0, _, _ => none
  | fuel + 1, read, cs =>
    match cs with
    | '"' :: rest => some (String.ofList read.reverse, rest)
    | '\\' :: rest =>
      match takeEscape rest with
      | some (c, rest) => basicString fuel (c :: read) rest
      | none => none
    | c :: rest => if isPlain c then basicString fuel (c :: read) rest else none
    | [] => none

def literalString (cs : List Char) : Option (String × List Char) :=
  let text := cs.takeWhile fun c => isPlain c && c != '\''
  match cs.drop text.length with
  | '\'' :: rest => some (String.ofList text, rest)
  | _ => none

/-- The rest after blanks and line breaks, where a backslash ended a line. -/
def skipBlankLines : Nat → List Char → List Char
  | 0, cs => cs
  | fuel + 1, cs =>
    match takeNewline (skipBlanks cs) with
    | some rest => skipBlankLines fuel rest
    | none => skipBlanks cs

/-- A string over several lines up to three quotes; up to two more quotes belong to the string.
Escapes count only where the quote is a double one. -/
def multilineString (quote : Char) : Nat → List Char → List Char → Option (String × List Char)
  | 0, _, _ => none
  | fuel + 1, read, cs =>
    match cs with
    | [] => none
    | c :: rest =>
      if c == quote then
        let run := ((c :: rest).takeWhile (· == quote)).length
        if run < 3 then multilineString quote fuel (c :: read) rest
        else if 5 < run then none
        else some (String.ofList (read.reverse ++ List.replicate (run - 3) quote),
          (c :: rest).drop run)
      else match takeNewline (c :: rest) with
        | some rest => multilineString quote fuel ('\n' :: read) rest
        | none =>
          if c == '\\' && quote == '"' then
            match takeNewline (skipBlanks rest) with
            | some after => multilineString quote fuel read (skipBlankLines after.length after)
            | none =>
              match takeEscape rest with
              | some (c, rest) => multilineString quote fuel (c :: read) rest
              | none => none
          else if isPlain c then multilineString quote fuel (c :: read) rest
          else none

/-- A string of any kind, from its quote. A line break right after three quotes does not count. -/
def takeString (cs : List Char) : Option (String × List Char) :=
  let several (quote : Char) (rest : List Char) : Option (String × List Char) :=
    let rest := (takeNewline rest).getD rest
    multilineString quote (rest.length + 1) [] rest
  match cs with
  | '"' :: '"' :: '"' :: rest => several '"' rest
  | '\'' :: '\'' :: '\'' :: rest => several '\'' rest
  | '"' :: rest => basicString (rest.length + 1) [] rest
  | '\'' :: rest => literalString rest
  | _ => none

def isBareKeyChar (c : Char) : Bool := c.isAlphanum || c == '_' || c == '-'

/-- One part of a key: bare, or a string on one line. -/
def takeSimpleKey (cs : List Char) : Option (String × List Char) :=
  match cs with
  | '"' :: rest => basicString (rest.length + 1) [] rest
  | '\'' :: rest => literalString rest
  | _ =>
    let key := cs.takeWhile isBareKeyChar
    if key.isEmpty then none else some (String.ofList key, cs.drop key.length)

/-- A key with dots between its parts: the parts before the last one, and the last one. -/
def takeKey : Nat → List Char → Option (List String × String × List Char)
  | 0, _ => none
  | fuel + 1, cs => do
    let (part, rest) ← takeSimpleKey (skipBlanks cs)
    match skipBlanks rest with
    | '.' :: rest => do
      let (path, key, rest) ← takeKey fuel rest
      some (part :: path, key, rest)
    | rest => some ([], part, rest)

/-- Removes the underscores that separate digits; each has a digit on both sides. -/
def dropUnderscores (digit : Char → Bool) (cs : List Char) : Option (List Char) :=
  let rec go (before : Bool) : List Char → Option (List Char)
    | [] => some []
    | '_' :: c :: rest => if before && digit c then (go true rest).map (c :: ·) else none
    | '_' :: [] => none
    | c :: rest => (go (digit c) rest).map (c :: ·)
  go false cs

/-- Decimal digits without a zero in front of others. -/
def isDecimal (cs : List Char) : Bool :=
  !cs.isEmpty && cs.all Char.isDigit && !(1 < cs.length && cs.head? == some '0')

/-- The value of an integer, which 128 bits have to hold. -/
def integer? (n : Int) : Option Value :=
  if Width.holds 128 n then some (.integer n) else none

/-- An integer with a prefix for its base. -/
def basedInteger (base : Nat) (digit : Char → Bool) (cs : List Char) : Option Value := do
  let digits ← dropUnderscores digit cs
  if digits.isEmpty || !digits.all digit then none
  else integer? (digits.foldl (fun n c => base * n + Unicode.hexDigit c) 0 : Nat)

/-- An integer or a float in decimal. -/
def decimalNumber (text : List Char) : Option Value := do
  let cs ← dropUnderscores Char.isDigit text
  let (negative, unsigned) := Double.takeSign cs
  if unsigned == "inf".toList then some (.float (.infinite negative))
  else if unsigned == "nan".toList then some (.float .nan)
  else
    let whole := unsigned.takeWhile Char.isDigit
    let rest := unsigned.drop whole.length
    if !isDecimal whole then none
    else if rest.isEmpty then
      let magnitude : Int := Double.digitsValue whole
      integer? (if negative then -magnitude else magnitude)
    else
      let hasFraction := match rest with
        | '.' :: more => more.head?.any Char.isDigit
        | _ => true
      if !hasFraction then none
      else match Double.ofText? (String.ofList cs) with
        | some (.finite negative units) => some (.float (.finite negative units))
        | _ => none

/-- The rest after a time of day with an optional fraction of a second. -/
def skipTime (cs : List Char) : Option (List Char) := do
  let (hour, rest) ← Instant.takeDigits 2 cs
  let rest ← Instant.expect ':' rest
  let (minute, rest) ← Instant.takeDigits 2 rest
  if 23 < hour || 59 < minute then none
  else match rest with
    | ':' :: rest => do
      let (second, rest) ← Instant.takeDigits 2 rest
      let (_, rest) ← Instant.takeFraction rest
      if 60 < second then none else some rest
    | _ => some rest

/-- Whether a text is a date, a time of day, or both with or without an offset. -/
def isDatetime (cs : List Char) : Bool :=
  let date : Option (List Char) := do
    let (year, rest) ← Instant.takeDigits 4 cs
    let rest ← Instant.expect '-' rest
    let (month, rest) ← Instant.takeDigits 2 rest
    let rest ← Instant.expect '-' rest
    let (day, rest) ← Instant.takeDigits 2 rest
    if 1 ≤ month && month ≤ 12 && 1 ≤ day && day ≤ Instant.daysInMonth year month then some rest
    else none
  match date with
  | none => skipTime cs == some []
  | some [] => true
  | some (c :: rest) =>
    if c == 'T' || c == 't' || c == ' ' then
      match skipTime rest with
      | none => false
      | some [] => true
      | some (c :: rest) =>
        if c == 'Z' || c == 'z' then rest.isEmpty
        else (c == '+' || c == '-') && (Instant.takeOffset (c :: rest)).map (·.2) == some []
    else false

/-- The value of a word that is no string, array or table. -/
def scalar (text : List Char) : Option Value :=
  let octal (c : Char) : Bool := '0' ≤ c && c ≤ '7'
  if text == "true".toList then some (.boolean true)
  else if text == "false".toList then some (.boolean false)
  else match text with
    | '0' :: 'x' :: rest => basedInteger 16 Unicode.isHexDigit rest
    | '0' :: 'o' :: rest => basedInteger 8 octal rest
    | '0' :: 'b' :: rest => basedInteger 2 (fun c => c == '0' || c == '1') rest
    | _ => if isDatetime text then some .datetime else decimalNumber text

/-- A word up to a character that ends it. A space inside of a date and its time is part of it. -/
def takeScalar (cs : List Char) : Option (Value × List Char) :=
  let ends (c : Char) : Bool := isBlank c || ",]\x7d#=\r\n".toList.contains c
  let word := cs.takeWhile (!ends ·)
  let rest := cs.drop word.length
  match rest with
  | ' ' :: c :: more =>
    if word.length == 10 && c.isDigit && isDatetime word then
      let time := (c :: more).takeWhile (!ends ·)
      (scalar (word ++ ' ' :: time)).map fun value => (value, (c :: more).drop time.length)
    else (scalar word).map fun value => (value, rest)
  | _ => (scalar word).map fun value => (value, rest)

mutual

def takeValue : Nat → List Char → Option (Value × List Char)
  | 0, _ => none
  | fuel + 1, cs =>
    match cs with
    | [] => none
    | c :: rest =>
      if c == '"' || c == '\'' then (takeString (c :: rest)).map fun (s, rest) => (.string s, rest)
      else if c == '[' then
        (takeItems fuel rest).map fun (items, rest) => (.array false items, rest)
      else if c == '\x7b' then do
        let (table, rest) ← takeEntries fuel .empty rest
        match table with
        | .table origin entries => some (.table { origin with inlined := true } entries, rest)
        | _ => none
      else takeScalar (c :: rest)

/-- The items of an array up to its bracket; a comma may stand after the last one. -/
def takeItems : Nat → List Char → Option (List Value × List Char)
  | 0, _ => none
  | fuel + 1, cs => do
    match ← skipLines cs.length cs with
    | ']' :: rest => some ([], rest)
    | rest => do
      let (item, rest) ← takeValue fuel rest
      match ← skipLines rest.length rest with
      | ',' :: rest => do
        let (items, rest) ← takeItems fuel rest
        some (item :: items, rest)
      | ']' :: rest => some ([item], rest)
      | _ => none

/-- The entries of an inline table up to its brace; a comma may stand after the last one. -/
def takeEntries : Nat → Value → List Char → Option (Value × List Char)
  | 0, _, _ => none
  | fuel + 1, table, cs => do
    match ← skipLines cs.length cs with
    | [] => none
    | c :: rest =>
      if c == '\x7d' then some (table, rest)
      else do
        let (path, key, rest) ← takeKey (rest.length + 2) (c :: rest)
        let rest ← Instant.expect '=' (skipBlanks rest)
        let (value, rest) ← takeValue fuel (skipBlanks rest)
        let table ← table.addKey path key value
        match ← skipLines rest.length rest with
        | [] => none
        | d :: rest =>
          if d == ',' then takeEntries fuel table rest
          else if d == '\x7d' then some (table, rest)
          else none

end

/-- The rest of a line that must hold nothing more than a comment. -/
def endLine (cs : List Char) : Option (List Char) := do
  let rest ← skipComment (skipBlanks cs)
  if rest.isEmpty then some [] else takeNewline rest

/-- The headers and keys of a document. -/
def statements : Nat → Assembly → List Char → Option Value
  | 0, _, _ => none
  | fuel + 1, assembly, cs => do
    match ← skipLines cs.length cs with
    | [] => assembly.finish
    | '[' :: '[' :: rest => do
      let (path, key, rest) ← takeKey (rest.length + 1) rest
      match rest with
      | ']' :: ']' :: rest => do
        let assembly ← assembly.start ⟨path, key, true⟩
        statements fuel assembly (← endLine rest)
      | _ => none
    | '[' :: rest => do
      let (path, key, rest) ← takeKey (rest.length + 1) rest
      match rest with
      | ']' :: rest => do
        let assembly ← assembly.start ⟨path, key, false⟩
        statements fuel assembly (← endLine rest)
      | _ => none
    | rest => do
      let (path, key, rest) ← takeKey (rest.length + 1) rest
      let rest ← Instant.expect '=' rest
      let rest := skipBlanks rest
      let (value, rest) ← takeValue (2 * rest.length + 2) rest
      let assembly ← assembly.add path key value
      statements fuel assembly (← endLine rest)

/-- The root table of a text. A byte order mark at its start does not count. -/
def document? (text : String) : Option Value :=
  let cs := match text.toList with
    | c :: cs => if c == '\ufeff' then cs else c :: cs
    | [] => []
  statements (cs.length + 1) {} cs

end ObjectConstraints.Toml
