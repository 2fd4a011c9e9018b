import ObjectConstraints.Address.Email
import ObjectConstraints.Address.Url
import ObjectConstraints.Language

/-!
# Satisfaction of checks

Whether one value satisfies one check, the contents of containers aside. Only the checks for null,
expressions and predicates from outside look at null; it satisfies every other check. Checks that
delegate to others are satisfied here and dealt with by the validation.
-/

namespace ObjectConstraints

namespace Value

def textLength (value : Value) : Nat := value.text.toList.length

/-- The value as a number: texts are read, other values are none. -/
def number? : Value → Option Double
  | .int n => some (Double.ofInt n)
  | .float x => some x
  | .string s => Double.ofText? (Unicode.trim s)
  | _ => none

/-- The value as a point in time: texts are read, other values are none. -/
def time? : Value → Option Instant
  | .instant t => some t
  | .string s => Instant.ofText? s
  | _ => none

def isMember (value : Value) (members : List String) (ignoreCase : Bool) : Bool :=
  if ignoreCase then (members.map Unicode.lowercase).contains (Unicode.lowercase value.text)
  else members.contains value.text

/-- Whether a value that is not null satisfies a kind of check. -/
def meets (value : Value) (now : Instant) : CheckKind → Bool
  | .null => false
  | .notEmpty =>
    match value.length? with
    | some length => 0 < length
    | none => !value.text.isEmpty
  | .notBlank => !(Unicode.trimChars value.text.toList).isEmpty
  | .length low high => low ≤ value.textLength && value.textLength ≤ high
  | .minLength low => low ≤ value.textLength
  | .maxLength high => value.textLength ≤ high
  | .size low high => value.length?.any fun n => low ≤ n && n ≤ high
  | .minSize low => value.length?.any (low ≤ ·)
  | .maxSize high => value.length?.any (· ≤ high)
  | .range low high => value.number?.any fun x => low.le x && x.le high
  | .min bound => value.number?.any bound.le
  | .max bound => value.number?.any (·.le bound)
  | .pattern _ patterns matchAll =>
    if matchAll then patterns.all (·.matchesIn value.text)
    else patterns.any (·.matchesIn value.text)
  | .email => Email.isValid value.text
  | .url => Url.isValid value.text
  | .past => value.time?.any (·.before now)
  | .future => value.time?.any now.before
  | .assertTrue => value.bool? == some true
  | .assertFalse => value.bool? == some false
  | .memberOf members ignoreCase => value.isMember members ignoreCase
  | .notMemberOf members ignoreCase => !value.isMember members ignoreCase
  | _ => true

end Value

def Check.isSatisfied (check : Check) (languages : Languages) (now : Instant)
    (owner : Option Object) (value : Value) (context : Context) (store : Store) :
    Except ValidationError Bool :=
  match check.kind with
  | .notNull => .ok !value.isNull
  | .null => .ok value.isNull
  | .expression language expression =>
    languages.evaluate check.name language expression owner value store
  | .custom predicate =>
    (predicate.test owner value context store).mapError (.evaluationFailed check.name)
  | kind => .ok (value.isNull || value.meets now kind)

end ObjectConstraints
