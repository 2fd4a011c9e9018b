import ObjectConstraints.Condition
import ObjectConstraints.Context
import ObjectConstraints.Model.Store
import ObjectConstraints.Pattern.Meaning

/-!
# Checks

A check is a kind, which says what is verified, and metadata: message, error code, severity,
profiles, targets inside of containers, activation condition, target path and context.
-/

namespace ObjectConstraints

/-- A part of a container that a check looks at. -/
inductive Target where
  | keys
  /-- The items of a collection or an array, and the values of a map. -/
  | values
  | container
  deriving DecidableEq, Repr

/-- A set of targets. -/
structure Targets where
  keys : Bool := false
  values : Bool := false
  container : Bool := false
  deriving DecidableEq, Repr, Inhabited

namespace Targets

def onlyValues : Targets := { values := true }
def onlyContainer : Targets := { container := true }

def withTarget (targets : Targets) : Target → Targets
  | .keys => { targets with keys := true }
  | .values => { targets with values := true }
  | .container => { targets with container := true }

def ofList (list : List Target) : Targets := list.foldl withTarget {}

def has (targets : Targets) : Target → Bool
  | .keys => targets.keys
  | .values => targets.values
  | .container => targets.container

/-- The members of the set, keys first and the container last. -/
def toList (targets : Targets) : List Target :=
  [Target.keys, Target.values, Target.container].filter targets.has

theorem has_withTarget (targets : Targets) (added other : Target) :
    (targets.withTarget added).has other = (decide (other = added) || targets.has other) := by
  cases added <;> cases other <;> simp [withTarget, has]

end Targets

/-- A predicate supplied from outside. Its test is given the object under validation, if there is
one, the value and its context, and may read the store; it answers or fails with a message. -/
structure Predicate where
  name : String
  test : Option Object → Value → Context → Store → Except String Bool
  defaultMessage : String := "\x7bcontext\x7d is invalid"
  defaultTargets : Targets := .onlyContainer
  placeholders : List (String × String) := []

/-- What a check verifies. -/
inductive CheckKind where
  | notNull
  | null
  | notEmpty
  | notBlank
  | length (low high : Nat)
  | minLength (low : Nat)
  | maxLength (high : Nat)
  | size (low high : Nat)
  | minSize (low : Nat)
  | maxSize (high : Nat)
  | range (low high : Double)
  | min (bound : Double)
  | max (bound : Double)
  /-- The text of the value matches all of the patterns, or any of them. -/
  | pattern (sources : List String) (patterns : List Pattern) (matchAll : Bool)
  | email
  | url
  | past
  | future
  | assertTrue
  | assertFalse
  | memberOf (members : List String) (ignoreCase : Bool)
  | notMemberOf (members : List String) (ignoreCase : Bool)
  | expression (language expression : String)
  | custom (predicate : Predicate)
  | assertValid
  | assertConstraintSet (id : String)
  /-- The checks of a field hold: of the given one, or of the one the context stands for. -/
  | assertFieldConstraints (field declaringClass : Option String)

structure Check where
  kind : CheckKind
  explicitMessage : Option String := none
  explicitCode : Option String := none
  severity : Int := 1
  profiles : List String := []
  explicitTargets : Option Targets := none
  condition : Option Condition := none
  target : Option String := none
  context : Option Context := none

def defaultProfile : String := "default"

namespace CheckKind

def name : CheckKind → String
  | .notNull => "NotNull"
  | .null => "Null"
  | .notEmpty => "NotEmpty"
  | .notBlank => "NotBlank"
  | .length .. => "Length"
  | .minLength _ => "MinLength"
  | .maxLength _ => "MaxLength"
  | .size .. => "Size"
  | .minSize _ => "MinSize"
  | .maxSize _ => "MaxSize"
  | .range .. => "Range"
  | .min _ => "Min"
  | .max _ => "Max"
  | .pattern .. => "Pattern"
  | .email => "Email"
  | .url => "Url"
  | .past => "Past"
  | .future => "Future"
  | .assertTrue => "AssertTrue"
  | .assertFalse => "AssertFalse"
  | .memberOf .. => "MemberOf"
  | .notMemberOf .. => "NotMemberOf"
  | .expression .. => "Expression"
  | .custom predicate => predicate.name
  | .assertValid => "AssertValid"
  | .assertConstraintSet _ => "AssertConstraintSet"
  | .assertFieldConstraints .. => "AssertFieldConstraints"

def defaultMessage : CheckKind → String
  | .notNull => "\x7bcontext\x7d cannot be null"
  | .null => "\x7bcontext\x7d must be null"
  | .notEmpty => "\x7bcontext\x7d cannot be empty"
  | .notBlank => "\x7bcontext\x7d cannot be blank"
  | .length .. => "\x7bcontext\x7d does not have a length between \x7bmin\x7d and \x7bmax\x7d"
  | .minLength _ => "\x7bcontext\x7d does not have a minimum length of \x7bmin\x7d"
  | .maxLength _ => "\x7bcontext\x7d must not be longer than \x7bmax\x7d characters"
  | .size .. => "\x7bcontext\x7d does not have a size between \x7bmin\x7d and \x7bmax\x7d"
  | .minSize _ => "\x7bcontext\x7d does not have a minimum size of \x7bmin\x7d"
  | .maxSize _ => "\x7bcontext\x7d must not have more than \x7bmax\x7d elements"
  | .range .. => "\x7bcontext\x7d is not in the range \x7bmin\x7d - \x7bmax\x7d"
  | .min _ => "\x7bcontext\x7d cannot be smaller than \x7bmin\x7d"
  | .max _ => "\x7bcontext\x7d cannot be greater than \x7bmax\x7d"
  | .pattern .. => "\x7bcontext\x7d does not match the pattern \x7bpattern\x7d"
  | .email => "\x7bcontext\x7d is not a valid email address"
  | .url => "\x7bcontext\x7d is not a valid URL"
  | .past => "\x7bcontext\x7d is not in the past"
  | .future => "\x7bcontext\x7d is not in the future"
  | .assertTrue => "\x7bcontext\x7d is not true"
  | .assertFalse => "\x7bcontext\x7d is not false"
  | .memberOf .. => "\x7bcontext\x7d must be one of \x7bmembers\x7d"
  | .notMemberOf .. => "\x7bcontext\x7d must not be one of \x7bmembers\x7d"
  | .expression .. => "\x7bcontext\x7d does not satisfy \x7bexpression\x7d"
  | .custom predicate => predicate.defaultMessage
  | .assertValid => "\x7bcontext\x7d is invalid"
  | .assertConstraintSet _ => "\x7bcontext\x7d does not satisfy the constraint set \x7bid\x7d"
  | .assertFieldConstraints .. => "\x7bcontext\x7d does not satisfy the field constraints"

/-- The targets a kind has by default. Kinds that look at a single text, number or object look into
containers; the others look at containers themselves. -/
def defaultTargets : CheckKind → Targets
  | .notBlank | .length .. | .minLength _ | .maxLength _ | .range .. | .min _ | .max _
  | .pattern .. | .email | .url | .memberOf .. | .notMemberOf .. | .assertValid => .onlyValues
  | .custom predicate => predicate.defaultTargets
  | _ => .onlyContainer

def joined (texts : List String) : String := ", ".intercalate texts

/-- The values of the placeholders a kind adds to the message. -/
def placeholders : CheckKind → List (String × String)
  | .length low high => [("min", toString low), ("max", toString high)]
  | .size low high => [("min", toString low), ("max", toString high)]
  | .minLength low => [("min", toString low)]
  | .minSize low => [("min", toString low)]
  | .maxLength high => [("max", toString high)]
  | .maxSize high => [("max", toString high)]
  | .range low high => [("min", low.text), ("max", high.text)]
  | .min bound => [("min", bound.text)]
  | .max bound => [("max", bound.text)]
  | .pattern sources _ _ => [("pattern", joined sources)]
  | .memberOf members _ => [("members", joined members)]
  | .notMemberOf members _ => [("members", joined members)]
  | .expression language written =>
    [("language", language), ("expression", language ++ ":" ++ written)]
  | .custom predicate => predicate.placeholders
  | .assertConstraintSet id => [("id", id)]
  | .assertFieldConstraints (some field) _ => [("field", field)]
  | _ => []

def isComposite : CheckKind → Bool
  | .assertValid | .assertConstraintSet _ | .assertFieldConstraints .. => true
  | _ => false

end CheckKind

namespace Check

def name (check : Check) : String := check.kind.name

def message (check : Check) : String := check.explicitMessage.getD check.kind.defaultMessage

def code (check : Check) : String := check.explicitCode.getD ("constraints." ++ check.name)

def targets (check : Check) : Targets := check.explicitTargets.getD check.kind.defaultTargets

def isComposite (check : Check) : Bool := check.kind.isComposite

/-- Gives the check a context unless it has one. -/
def stamp (check : Check) (context : Context) : Check :=
  { check with context := check.context.or (some context) }

theorem stamp_stamp (check : Check) (first second : Context) :
    (check.stamp first).stamp second = check.stamp first := by
  cases h : check.context <;> simp [stamp, h]

end Check

end ObjectConstraints
