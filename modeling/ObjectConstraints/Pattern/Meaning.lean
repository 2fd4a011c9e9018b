import ObjectConstraints.Pattern.Matcher
import ObjectConstraints.Pattern.Parser
import ObjectConstraints.Pattern.Size

/-!
# The meaning of regular expressions

Resolves the flags of an expression and the names of its classes, and makes a pattern of the sets of
characters and the conditions that it comes to.
-/

namespace ObjectConstraints.Pattern

/-- A pattern for one character of a set of codes. -/
def ofSet (set : Unicode.CodeSet) : Pattern :=
  .chars fun c => set.contains c.toNat

/-- The characters of lines, and whether the place after the given character is inside of a word. -/
def isLineFeed (c : Option Char) : Bool := c == some '\n'
def isReturn (c : Option Char) : Bool := c == some '\r'

def inWord (unicode : Bool) : Option Char → Bool
  | some c => (shorthandSet unicode .word).contains c.toNat
  | none => false

/-- The condition an assertion puts on the characters before and after a place. -/
def Assertion.holds (modes : Modes) (kind : Assertion) (before after : Option Char) : Bool :=
  let word := inWord modes.unicode
  match kind with
  | .textStart => before.isNone
  | .textEnd => after.isNone
  | .lineStart =>
    before.isNone || (modes.multiLine && (isLineFeed before ||
      (modes.carriageReturn && isReturn before && !isLineFeed after)))
  | .lineEnd =>
    after.isNone || (modes.multiLine &&
      if modes.carriageReturn then isReturn after || (isLineFeed after && !isReturn before)
      else isLineFeed after)
  | .wordBoundary => word before != word after
  | .notWordBoundary => word before == word after
  | .wordStart => !word before && word after
  | .wordEnd => word before && !word after
  | .wordStartHalf => !word before
  | .wordEndHalf => !word after

mutual

/-- The pattern of an expression, and the flags in force after it. -/
def Expression.pattern? (modes : Modes) : Expression → Option (Pattern × Modes)
  | .empty => some (.empty, modes)
  | .flags settings => some (.empty, modes.set settings)
  | .assertion kind => some (.look (kind.holds modes), modes)
  | .repetition least most body => do
    let (pattern, modes) ← body.pattern? modes
    some (.repeated pattern least most, modes)
  | .group settings body => do
    let (pattern, _) ← body.pattern? (modes.set (settings.getD []))
    some (pattern, modes)
  | .alternation branches => Expression.eitherPattern? modes branches
  | .concat parts => Expression.seqPattern? modes parts
  | expression => (expression.set? modes).map fun set => (ofSet set, modes)

/-- Flags set in one branch stay in force in the next. -/
def Expression.eitherPattern? (modes : Modes) : List Expression → Option (Pattern × Modes)
  | [] => some (.empty, modes)
  | [branch] => branch.pattern? modes
  | branch :: branches => do
    let (first, modes) ← branch.pattern? modes
    let (others, modes) ← Expression.eitherPattern? modes branches
    some (.either first others, modes)

def Expression.seqPattern? (modes : Modes) : List Expression → Option (Pattern × Modes)
  | [] => some (.empty, modes)
  | [part] => part.pattern? modes
  | part :: parts => do
    let (first, modes) ← part.pattern? modes
    let (others, modes) ← Expression.seqPattern? modes parts
    some (.seq first others, modes)

end

/-- The pattern of a regular expression, or nothing where the text is not a valid one. -/
def ofText? (text : String) : Option Pattern := do
  let expression ← Expression.ofText? text.toList
  let (pattern, _) ← expression.pattern? {}
  if expression.size ≤ maxSize then some pattern else none

end ObjectConstraints.Pattern
