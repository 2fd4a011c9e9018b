import ObjectConstraints.Number.Width
import ObjectConstraints.Pattern.Expression
import ObjectConstraints.Unicode.Blank
import ObjectConstraints.Unicode.Property

/-!
# Reading regular expressions

A recursive descent over the text. Every function takes the text that is left and returns what is
left after it, or nothing where the text is not an expression. Free spacing and the names of groups
are state: free spacing lasts until the end of the group that sets it, names until the end.
-/

namespace ObjectConstraints.Pattern

/-- What is left to read, whether blanks and comments count, and the names of groups so far. -/
structure Input where
  rest : List Char
  freeSpacing : Bool
  names : List (List Char)
  deriving Inhabited

/-- Drops blanks and comments; a comment ends with its line. The flag tells whether the text starts
inside of a comment. -/
def dropSpacing : Bool → List Char → List Char
  | _, [] => []
  | true, c :: cs => dropSpacing (c != '\n') cs
  | false, c :: cs =>
    if Unicode.isBlank c then dropSpacing false cs
    else if c == '#' then dropSpacing true cs
    else c :: cs

/-- The rest after blanks and comments, where they do not count. -/
def spaced (freeSpacing : Bool) (cs : List Char) : List Char :=
  if freeSpacing then dropSpacing false cs else cs

namespace Input

def skip (input : Input) : Input :=
  { input with rest := spaced input.freeSpacing input.rest }

/-- Goes on with the given rest, skipping blanks and comments in free spacing. -/
def next (input : Input) (rest : List Char) : Input :=
  { input with rest := spaced input.freeSpacing rest }

/-- Goes on with exactly the given rest. -/
def withRest (input : Input) (rest : List Char) : Input :=
  { input with rest := rest }

/-- Goes on with or without free spacing. -/
def inSpacing (input : Input) (freeSpacing : Bool) : Input :=
  { input with freeSpacing := freeSpacing }

end Input

/-- Whether free spacing is in force after some flags are set. -/
def FlagSettings.spacing (settings : FlagSettings) (freeSpacing : Bool) : Bool :=
  (settings.value? .freeSpacing).getD freeSpacing

/-- Characters that have a meaning of their own and stand for themselves after a backslash. -/
def isMeta (c : Char) : Bool :=
  "\\.+*?()|[]\x7b\x7d^$#&-~".toList.contains c

/-- Characters that a backslash leaves as they are: ASCII other than letters, digits and angles. -/
def isEscapable (c : Char) : Bool :=
  isMeta c || (c.toNat < 128 && !c.isAlphanum && c != '<' && c != '>')

def charOf (code : Nat) : Option Char :=
  if code < 0xd800 || (0xe000 ≤ code && code < 0x110000) then some (Char.ofNat code) else none

def hexDigits (input : Input) : Nat → List Char → Option (List Char × Input)
  | 0, read => some (read.reverse, input)
  | n + 1, read =>
    match input.rest with
    | c :: rest => if Unicode.isHexDigit c then hexDigits (input.next rest) n (c :: read) else none
    | [] => none

/-- Reads hexadecimal digits up to a closing brace. -/
def bracedHex (input : Input) : Nat → List Char → Option (List Char × Input)
  | 0, _ => none
  | fuel + 1, read =>
    match input.rest with
    | c :: rest =>
      if c == '\x7d' then some (read.reverse, input.next rest)
      else if Unicode.isHexDigit c then bracedHex (input.next rest) fuel (c :: read)
      else none
    | [] => none

/-- A character given by its code point, after the letter that says how many digits it has. -/
def hexLiteral (kind : Char) (input : Input) : Option (Literal × Input) :=
  match input.rest with
  | [] => none
  | c :: rest =>
    if c == '\x7b' then do
      let (digits, input) ← bracedHex (input.next rest) (rest.length + 1) []
      if digits.isEmpty then none
      else (charOf (Unicode.hexNumber digits)).map fun c => (⟨c, false⟩, input)
    else do
      let count := if kind == 'x' then 2 else if kind == 'u' then 4 else 8
      let (digits, input) ← hexDigits input count []
      (charOf (Unicode.hexNumber digits)).map fun c => (⟨c, kind == 'x'⟩, input)

/-- Reads the name of a class up to a closing brace. -/
def bracedName (input : Input) : Nat → List Char → Option (List Char × Input)
  | 0, _ => none
  | fuel + 1, read =>
    match input.rest with
    | c :: rest =>
      if c == '\x7d' then some (read.reverse, input.withRest rest)
      else bracedName (input.next rest) fuel (c :: read)
    | [] => none

/-- Splits a text before the first place where the given mark stands. -/
def splitAtMark (mark : List Char) : List Char → Option (List Char × List Char)
  | [] => none
  | c :: cs =>
    if mark.isPrefixOf (c :: cs) then some ([], (c :: cs).drop mark.length)
    else (splitAtMark mark cs).map fun (before, after) => (c :: before, after)

/-- A class name with or without a property in front of it. -/
def Query.ofName (name : List Char) : Query :=
  match splitAtMark ['!', '='] name with
  | some (property, wanted) => .value property wanted
  | none => match splitAtMark [':'] name with
    | some (property, wanted) => .value property wanted
    | none => match splitAtMark ['='] name with
      | some (property, wanted) => .value property wanted
      | none => .single name

/-- A class of the character database, after the letter that introduces it. -/
def property (input : Input) : Option (Query × Input) :=
  match input.rest with
  | [] => none
  | c :: rest =>
    if c == '\x7b' then
      (bracedName (input.next rest) (rest.length + 1) []).map fun (name, input) =>
        (Query.ofName name, input)
    else if c == '\\' then none
    else some (.single [c], input.withRest rest)

/-- What one escape or one plain character stands for. -/
inductive Primitive where
  | literal (l : Literal)
  | assertion (kind : Assertion)
  | dot
  | shorthand (negated : Bool) (kind : Shorthand)
  | property (negated : Bool) (query : Query)

def boundaryName (input : Input) : Nat → List Char → List Char × Input
  | 0, read => (read.reverse, input)
  | fuel + 1, read =>
    match input.rest with
    | c :: rest =>
      if c.isAlpha || c == '-' then boundaryName (input.next rest) fuel (c :: read)
      else (read.reverse, input)
    | [] => (read.reverse, input)

def boundaryOf? (name : List Char) : Option Assertion :=
  if name == "start".toList then some .wordStart
  else if name == "end".toList then some .wordEnd
  else if name == "start-half".toList then some .wordStartHalf
  else if name == "end-half".toList then some .wordEndHalf
  else none

/-- The kind of word boundary in braces after `\b`. Braces that start otherwise than with a letter
or a hyphen belong to a repetition. -/
def boundaryKind (input : Input) : Option (Assertion × Input) :=
  match input.rest with
  | c :: rest =>
    if c != '\x7b' then some (.wordBoundary, input)
    else
      let inner := input.next rest
      let (name, after) := boundaryName inner (inner.rest.length + 1) []
      if name.isEmpty then some (.wordBoundary, input)
      else match after.rest with
        | '\x7d' :: rest => (boundaryOf? name).map (·, input.withRest rest)
        | _ => none
  | [] => some (.wordBoundary, input)

def escape (input : Input) : Option (Primitive × Input) :=
  match input.rest with
  | [] => none
  | c :: rest =>
    let special (code : Nat) : Option (Primitive × Input) :=
      some (.literal ⟨Char.ofNat code, false⟩, input.withRest rest)
    if c.isDigit then none
    else if c == 'x' || c == 'u' || c == 'U' then
      (hexLiteral c (input.next rest)).map fun (l, input) => (.literal l, input)
    else if c == 'p' || c == 'P' then
      (property (input.next rest)).map fun (query, input) => (.property (c == 'P') query, input)
    else if isEscapable c then some (.literal ⟨c, false⟩, input.withRest rest)
    else match c with
      | 'd' => some (.shorthand false .digit, input.withRest rest)
      | 'D' => some (.shorthand true .digit, input.withRest rest)
      | 's' => some (.shorthand false .blank, input.withRest rest)
      | 'S' => some (.shorthand true .blank, input.withRest rest)
      | 'w' => some (.shorthand false .word, input.withRest rest)
      | 'W' => some (.shorthand true .word, input.withRest rest)
      | 'a' => special 7
      | 'f' => special 12
      | 't' => special 9
      | 'n' => special 10
      | 'r' => special 13
      | 'v' => special 11
      | 'A' => some (.assertion .textStart, input.withRest rest)
      | 'z' => some (.assertion .textEnd, input.withRest rest)
      | 'b' =>
        (boundaryKind (input.withRest rest)).map fun (kind, input) => (.assertion kind, input)
      | 'B' => some (.assertion .notWordBoundary, input.withRest rest)
      | '<' => some (.assertion .wordStart, input.withRest rest)
      | '>' => some (.assertion .wordEnd, input.withRest rest)
      | _ => none

def primitive (input : Input) : Option (Primitive × Input) :=
  match input.rest with
  | [] => none
  | c :: rest =>
    if c == '\\' then escape (input.withRest rest)
    else if c == '.' then some (.dot, input.withRest rest)
    else if c == '^' then some (.assertion .lineStart, input.withRest rest)
    else if c == '$' then some (.assertion .lineEnd, input.withRest rest)
    else some (.literal ⟨c, false⟩, input.withRest rest)

def Primitive.expression : Primitive → Expression
  | .literal l => .literal l
  | .assertion kind => .assertion kind
  | .dot => .dot
  | .shorthand negated kind => .shorthand negated kind
  | .property negated query => .property negated query

/-- The item a primitive is between brackets; assertions have no place there. -/
def Primitive.item? : Primitive → Option ClassItem
  | .literal l => some (.literal l)
  | .shorthand negated kind => some (.shorthand negated kind)
  | .property negated query => some (.property negated query)
  | _ => none

def Primitive.literal? : Primitive → Option Literal
  | .literal l => some l
  | _ => none

def classPrimitive (input : Input) : Option (Primitive × Input) :=
  match input.rest with
  | [] => none
  | c :: rest =>
    if c == '\\' then escape (input.withRest rest)
    else some (.literal ⟨c, false⟩, input.withRest rest)

/-- The range between two characters, the first of which comes no later. -/
def rangeOf? (first last : Primitive) : Option ClassItem := do
  let first ← first.literal?
  let last ← last.literal?
  if last.char < first.char then none else some (.range first last)

/-- What the first item between brackets makes with what follows it: a range after a hyphen that
does not stand for itself. -/
def rangeFrom (first : Primitive) (input : Input) : Option (ClassItem × Input) :=
  match input.rest with
  | '-' :: rest =>
    let after := input.next rest
    if after.rest.head? == some ']' || after.rest.head? == some '-' then
      (first.item?).map (·, input)
    else do
      let (last, input) ← classPrimitive after
      (rangeOf? first last).map (·, input)
  | _ => (first.item?).map (·, input)

/-- A single item between brackets or a range of characters. -/
def classRange (input : Input) : Option (ClassItem × Input) := do
  let (first, input) ← classPrimitive input
  rangeFrom first input.skip

def posixNames : List String :=
  ["alnum", "alpha", "ascii", "blank", "cntrl", "digit", "graph", "lower", "print", "punct",
    "space", "upper", "word", "xdigit"]

/-- The name of a class up to the colon and bracket that close it. -/
def posixName (negated : Bool) (cs : List Char) : Option (ClassItem × List Char) := do
  let (name, rest) ← splitAtMark [':', ']'] cs
  if posixNames.contains (String.ofList name) then some (.named negated name, rest) else none

/-- A class named between colons, after its opening bracket. -/
def posixClass : List Char → Option (ClassItem × List Char)
  | ':' :: '^' :: rest => posixName true rest
  | ':' :: rest => posixName false rest
  | _ => none

/-- Reads hyphens at the start of a class, which stand for themselves. -/
def leadingHyphens (input : Input) : Nat → List ClassItem → List ClassItem × Input
  | 0, read => (read, input)
  | fuel + 1, read =>
    match input.rest with
    | '-' :: rest => leadingHyphens (input.next rest) fuel (.literal ⟨'-', false⟩ :: read)
    | _ => (read, input)

/-- Reads the mark of a negated class. -/
def negation (input : Input) : Bool × Input :=
  match input.rest with
  | '^' :: rest => (true, input.next rest)
  | _ => (false, input)

/-- The start of a class after its bracket: whether it is negated, and the hyphens and the closing
bracket that stand for themselves there, the last one first. -/
def classStart (input : Input) : (Bool × List ClassItem) × Input :=
  let (negated, input) := negation input.skip
  let (items, input) := leadingHyphens input (input.rest.length + 1) []
  match input.rest with
  | ']' :: rest =>
    if items.isEmpty then ((negated, [.literal ⟨']', false⟩]), input.next rest)
    else ((negated, items), input)
  | _ => ((negated, items), input)

/-- Closes the union that is being read, and applies the operator waiting on its left. -/
def closeOperand (waiting : Option (SetOperator × ClassItem)) (items : List ClassItem) :
    ClassItem :=
  let right := ClassItem.ofList items.reverse
  match waiting with
  | some (operator, left) => .combined operator left right
  | none => right

/-- The operator between sets at the start of a text. -/
def setOperator? : List Char → Option (SetOperator × List Char)
  | '&' :: '&' :: rest => some (.intersection, rest)
  | '-' :: '-' :: rest => some (.difference, rest)
  | '~' :: '~' :: rest => some (.symmetricDifference, rest)
  | _ => none

/-- The items of a class up to its closing bracket. Items read so far come last one first; an
operator and its left operand wait for the right one. -/
def classItems : Nat → Input → Option (SetOperator × ClassItem) → List ClassItem →
    Option (ClassItem × Input)
  | 0, _, _, _ => none
  | fuel + 1, input, waiting, items =>
    let input := input.skip
    match input.rest with
    | [] => none
    | c :: rest =>
      if c == '[' then
        match posixClass rest with
        | some (item, after) => classItems fuel (input.withRest after) waiting (item :: items)
        | none => do
          let ((negated, inner), input) := classStart (input.withRest rest)
          let (item, input) ← classItems fuel input none inner
          classItems fuel input waiting (.bracketed negated item :: items)
      else if c == ']' then some (closeOperand waiting items, input.withRest rest)
      else match setOperator? (c :: rest) with
        | some (operator, rest) =>
          classItems fuel (input.withRest rest) (some (operator, closeOperand waiting items)) []
        | none => do
          let (item, input) ← classRange input
          classItems fuel input waiting (item :: items)

def bracketedClass (input : Input) : Option (Expression × Input) := do
  let ((negated, items), input) := classStart input
  let (item, input) ← classItems (input.rest.length + 1) input none items
  some (.bracketed negated item, input)

def flagOf : Char → Option Flag
  | 'i' => some .ignoreCase
  | 'm' => some .multiLine
  | 's' => some .dotAll
  | 'U' => some .swapGreed
  | 'u' => some .unicode
  | 'R' => some .carriageReturn
  | 'x' => some .freeSpacing
  | _ => none

/-- Flags up to the colon or parenthesis that ends them. No flag is given twice, and a minus is
given once and followed by a flag. -/
def flagSettings : List Char → Bool → Bool → FlagSettings → Option (FlagSettings × List Char)
  | [], _, _, _ => none
  | c :: cs, negating, dangling, read =>
    if c == ':' || c == ')' then
      if dangling then none else some (read.reverse, c :: cs)
    else if c == '-' then
      if negating then none else flagSettings cs true true read
    else match flagOf c with
      | none => none
      | some flag =>
        if (FlagSettings.value? read flag).isSome then none
        else flagSettings cs negating false ((flag, !negating) :: read)

def isGroupName : List Char → Bool
  | [] => false
  | c :: more =>
    (c == '_' || Unicode.isAlphabetic c) && more.all fun c =>
      c == '_' || c == '.' || c == '[' || c == ']' || Unicode.isAlphanumeric c

inductive Opening where
  | flags (settings : FlagSettings)
  | group (settings : Option FlagSettings)

/-- The name of a group up to its closing angle. No group before has the name. -/
def namedGroup (input : Input) (cs : List Char) : Option (Opening × Input) := do
  let (name, rest) ← splitAtMark ['>'] cs
  if !isGroupName name || input.names.contains name then none
  else some (.group none, { input with rest := rest, names := name :: input.names })

/-- Flags after the question mark of a group, for the rest of the group around or for one of their own.
The marks of look-around are no flags. -/
def flagGroup (input : Input) (cs : List Char) : Option (Opening × Input) := do
  let (settings, rest) ← flagSettings cs false false []
  match rest with
  | ')' :: rest => if settings.isEmpty then none else some (.flags settings, input.withRest rest)
  | _ :: rest => some (.group (some settings), input.withRest rest)
  | [] => none

/-- What follows the mark in front of a name, if there is one. -/
def afterNameMark? : List Char → Option (List Char)
  | 'P' :: '<' :: rest => some rest
  | '<' :: rest => some rest
  | _ => none

/-- Reads what follows an opening parenthesis. -/
def opening (input : Input) : Option (Opening × Input) :=
  let input := input.skip
  match input.rest with
  | '?' :: rest =>
    match afterNameMark? rest with
    | some rest => namedGroup input rest
    | none => flagGroup input rest
  | _ => some (.group none, input)

/-- Drops blanks, which may surround the numbers of a repetition in every mode. -/
def Input.dropBlanks (input : Input) : Input :=
  input.withRest (Unicode.trimFront input.rest)

/-- Reads decimal digits; blanks and comments may stand between them in free spacing. -/
def countDigits (input : Input) : Nat → List Char → List Char × Input
  | 0, read => (read.reverse, input)
  | fuel + 1, read =>
    match input.rest with
    | c :: rest =>
      if c.isDigit then countDigits (input.next rest) fuel (c :: read) else (read.reverse, input)
    | [] => (read.reverse, input)

/-- Skips blanks in any mode, and comments in free spacing. -/
def Input.skipAround (input : Input) : Nat → Input
  | 0 => input
  | fuel + 1 =>
    match input.rest with
    | c :: rest => if Unicode.isBlank c then (input.next rest).skipAround fuel else input
    | [] => input

/-- A number of rounds, of at most 32 bits. -/
def count (input : Input) : Option (Nat × Input) :=
  let input := input.dropBlanks
  let (digits, input) := countDigits input (input.rest.length + 1) []
  let input := input.skipAround (input.rest.length + 1)
  let value : Nat := digits.foldl (fun n c => 10 * n + (c.toNat - 48)) 0
  if digits.isEmpty || !Width.holdsNatural 32 value then none else some (value, input)

/-- Skips the mark of few rounds after an operator. -/
def skipLazy (rest : List Char) : List Char :=
  match rest with
  | '?' :: rest => rest
  | _ => rest

/-- Closes a repetition, with the mark of few rounds. -/
def closeRounds (least : Nat) (most : Option Nat) (input : Input) :
    Option ((Nat × Option Nat) × Input) :=
  match input.rest with
  | '\x7d' :: rest =>
    let input := input.next rest
    if most.any (· < least) then none
    else some ((least, most), input.withRest (skipLazy input.rest))
  | _ => none

/-- The numbers of a repetition after the first one, and the mark of few rounds. -/
def roundsFrom (least : Nat) (input : Input) : Option ((Nat × Option Nat) × Input) :=
  match input.rest with
  | ',' :: rest =>
    let input := input.next rest
    if input.rest.head? == some '\x7d' then closeRounds least none input
    else do
      let (most, input) ← count input
      closeRounds least (some most) input
  | _ => closeRounds least (some least) input

/-- The numbers of a repetition in braces, after the opening one, and the mark of few rounds. -/
def countedRounds (input : Input) : Option ((Nat × Option Nat) × Input) := do
  let (least, input) ← count input.skip
  roundsFrom least input

/-- The bounds of the repetitions that have an operator of their own. -/
def operatorRounds? : Char → Option (Nat × Option Nat)
  | '?' => some (0, some 1)
  | '*' => some (0, none)
  | '+' => some (1, none)
  | _ => none

/-- Repeats the last part read; nothing and flags cannot be repeated. -/
def repeatLast (least : Nat) (most : Option Nat) : List Expression → Option (List Expression)
  | [] => none
  | .flags _ :: _ => none
  | last :: parts => some (.repetition least most last :: parts)

/-- What stands next in a branch. -/
inductive Piece where
  /-- The end of the branch: of the text, or before the mark that ends it. -/
  | stop
  | opened (opening : Opening)
  | rounds (least : Nat) (most : Option Nat)
  | single (expression : Expression)

def piece (input : Input) : Option (Piece × Input) :=
  let input := input.skip
  match input.rest with
  | [] => some (.stop, input)
  | c :: rest =>
    if c == ')' || c == '|' then some (.stop, input)
    else if c == '(' then
      (opening (input.withRest rest)).map fun (opening, input) => (.opened opening, input)
    else if c == '[' then
      (bracketedClass (input.withRest rest)).map fun (expression, input) =>
        (.single expression, input)
    else match operatorRounds? c with
      | some (least, most) => some (.rounds least most, input.withRest (skipLazy rest))
      | none =>
        if c == '\x7b' then
          (countedRounds (input.withRest rest)).map fun ((least, most), input) =>
            (.rounds least most, input)
        else (primitive input).map fun (primitive, input) => (.single primitive.expression, input)

/-- Goes on after a branch: with the next one behind its mark. -/
def afterBranch (onward : Input → Option (List Expression × Input)) (read : List Expression)
    (input : Input) : Option (List Expression × Input) :=
  let branch := Expression.ofParts read.reverse
  match input.rest with
  | '|' :: rest => (onward (input.withRest rest)).map fun (more, input) => (branch :: more, input)
  | _ => some ([branch], input)

/-- Closes a group with the given body, and goes on in the mode around it. -/
def closeGroup (onward : Input → List Expression → Option (List Expression × Input))
    (read : List Expression) (settings : Option FlagSettings) (freeSpacing : Bool)
    (body : List Expression) (input : Input) : Option (List Expression × Input) :=
  match input.rest with
  | ')' :: rest =>
    onward ((input.withRest rest).inSpacing freeSpacing)
      (.group settings (Expression.ofBranches body) :: read)
  | _ => none

/-- Goes on after a piece of a branch. The parts read so far come last one first. -/
def afterPiece (inner : Input → Option (List Expression × Input))
    (onward : Input → List Expression → Option (List Expression × Input)) (read : List Expression)
    (piece : Piece) (input : Input) : Option (List Expression × Input) :=
  match piece with
  | .stop => some (read, input)
  | .single expression => onward input (expression :: read)
  | .rounds least most => (repeatLast least most read).bind (onward input)
  | .opened (.flags settings) =>
    onward (input.inSpacing (settings.spacing input.freeSpacing)) (.flags settings :: read)
  | .opened (.group settings) => do
    let (body, after) ← inner (input.inSpacing ((settings.getD []).spacing input.freeSpacing))
    closeGroup onward read settings input.freeSpacing body after

mutual

/-- Branches up to the end of the text or the parenthesis that closes the group. -/
def branches : Nat → Input → Option (List Expression × Input)
  | 0, _ => none
  | fuel + 1, input => do
    let (read, input) ← parts fuel input []
    afterBranch (branches fuel) read input

/-- The parts of one branch, the last one first. -/
def parts : Nat → Input → List Expression → Option (List Expression × Input)
  | 0, _, _ => none
  | fuel + 1, input, read => do
    let (piece, input) ← piece input
    afterPiece (branches fuel) (parts fuel) read piece input

end

/-- Reads a whole expression, no deeper than the limit. -/
def Expression.ofText? (text : List Char) : Option Expression :=
  match branches (2 * text.length + 2) ⟨text, false, []⟩ with
  | some (body, input) =>
    let expression := Expression.ofBranches body
    if input.rest.isEmpty && expression.depth ≤ maxDepth then some expression else none
  | none => none

end ObjectConstraints.Pattern
