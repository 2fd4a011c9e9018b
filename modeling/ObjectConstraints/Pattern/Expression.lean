/-!
# Regular expressions as written

The syntax tree of a regular expression, before its flags are resolved, and its nesting depth.
-/

namespace ObjectConstraints.Pattern

inductive Flag where
  /-- Letters match in either case, written `i`. -/
  | ignoreCase
  /-- Line anchors match inside of the text, written `m`. -/
  | multiLine
  /-- The dot matches line feeds, written `s`. -/
  | dotAll
  /-- Repetitions prefer few rounds, written `U`. It has no bearing on whether a text matches. -/
  | swapGreed
  /-- Classes are those of the character database, written `u`. -/
  | unicode
  /-- A carriage return ends a line too, written `R`. -/
  | carriageReturn
  /-- Blanks and comments in the expression do not count, written `x`. -/
  | freeSpacing
  deriving DecidableEq, Repr

/-- Flags with the values they are set to, in the order written. -/
abbrev FlagSettings := List (Flag × Bool)

/-- The value a group of flags gives to one of them, if any. -/
def FlagSettings.value? (settings : FlagSettings) (flag : Flag) : Option Bool :=
  (settings.find? (·.1 == flag)).map (·.2)

/-- Conditions on a place in the text that match no character. -/
inductive Assertion where
  | lineStart
  | lineEnd
  | textStart
  | textEnd
  | wordBoundary
  | notWordBoundary
  | wordStart
  | wordEnd
  | wordStartHalf
  | wordEndHalf
  deriving DecidableEq, Repr

/-- The three classes that have a letter of their own. -/
inductive Shorthand where
  | digit
  | blank
  | word
  deriving DecidableEq, Repr

/-- A class of the character database, named alone or as the value of a property. -/
inductive Query where
  | single (name : List Char)
  | value (property value : List Char)
  deriving DecidableEq, Repr

/-- A character as written. Only the escape with two hexadecimal digits can stand for a byte. -/
structure Literal where
  char : Char
  isByte : Bool
  deriving DecidableEq, Repr

/-- How two sets of characters combine. -/
inductive SetOperator where
  | intersection
  | difference
  | symmetricDifference
  deriving DecidableEq, Repr

/-- What stands between brackets. -/
inductive ClassItem where
  | literal (l : Literal)
  | range (first last : Literal)
  | named (negated : Bool) (name : List Char)
  | shorthand (negated : Bool) (kind : Shorthand)
  | property (negated : Bool) (query : Query)
  | bracketed (negated : Bool) (item : ClassItem)
  | union (items : List ClassItem)
  | combined (operator : SetOperator) (left right : ClassItem)
  deriving Repr, Inhabited

inductive Expression where
  | empty
  | flags (settings : FlagSettings)
  | literal (l : Literal)
  | dot
  | assertion (kind : Assertion)
  | shorthand (negated : Bool) (kind : Shorthand)
  | property (negated : Bool) (query : Query)
  | bracketed (negated : Bool) (item : ClassItem)
  | repetition (least : Nat) (most : Option Nat) (body : Expression)
  /-- A group that has flags of its own, or none of them and is captured. -/
  | group (settings : Option FlagSettings) (body : Expression)
  | alternation (branches : List Expression)
  | concat (parts : List Expression)
  deriving Repr, Inhabited

/-- One item stands for itself; several make a union. -/
def ClassItem.ofList : List ClassItem → ClassItem
  | [item] => item
  | items => .union items

/-- One part stands for itself; none is the empty expression. -/
def Expression.ofParts : List Expression → Expression
  | [] => .empty
  | [part] => part
  | parts => .concat parts

/-- One branch stands for itself. -/
def Expression.ofBranches : List Expression → Expression
  | [branch] => branch
  | branches => .alternation branches

mutual

/-- How deep brackets, unions and operators nest. An empty union counts for nothing. -/
def ClassItem.depth : ClassItem → Nat
  | .bracketed _ item => item.depth + 1
  | .union [] => 0
  | .union items => ClassItem.depthAll items + 1
  | .combined _ left right => max left.depth right.depth + 1
  | _ => 0

def ClassItem.depthAll : List ClassItem → Nat
  | [] => 0
  | item :: items => max item.depth (ClassItem.depthAll items)

end

mutual

/-- How deep groups, repetitions, alternatives, sequences and classes nest. -/
def Expression.depth : Expression → Nat
  | .bracketed _ item => item.depth + 1
  | .repetition _ _ body => body.depth + 1
  | .group _ body => body.depth + 1
  | .alternation branches => Expression.depthAll branches + 1
  | .concat parts => Expression.depthAll parts + 1
  | _ => 0

def Expression.depthAll : List Expression → Nat
  | [] => 0
  | part :: parts => max part.depth (Expression.depthAll parts)

end

def maxDepth : Nat := 250

end ObjectConstraints.Pattern
