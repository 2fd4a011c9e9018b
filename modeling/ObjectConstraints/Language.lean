import ObjectConstraints.Failure

/-!
# Expression languages

A language evaluates an expression to a truth value. Two values are bound in an expression: the
object that owns the validated member, if there is one, and the validated value.
-/

namespace ObjectConstraints

/-- Evaluates an expression for the owner and the value, or fails with a message. -/
abbrev Language := String → Option Object → Value → Store → Except String Bool

abbrev Languages := Table String Language

/-- Evaluates an expression of the language of that name, on behalf of a check. -/
def Languages.evaluate (languages : Languages) (check language expression : String)
    (owner : Option Object) (value : Value) (store : Store) : Except ValidationError Bool :=
  match languages.get? language with
  | none => .error (.languageNotAvailable language)
  | some evaluate => (evaluate expression owner value store).mapError (.evaluationFailed check)

/-- Whether the activation condition of a check holds. A check without one is always active. -/
def Check.isActive (check : Check) (languages : Languages) (owner : Option Object) (value : Value)
    (store : Store) : Except ValidationError Bool :=
  match check.condition with
  | none => .ok true
  | some condition =>
    languages.evaluate check.name condition.language condition.expression owner value store

end ObjectConstraints
