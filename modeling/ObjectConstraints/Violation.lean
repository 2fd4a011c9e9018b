import ObjectConstraints.Check

/-!
# Violations

A violation reports one failed check on one value. A check that cascades into an object nests the
violations of that object as causes.
-/

namespace ObjectConstraints

structure Violation where
  check : Check
  /-- The template the message was rendered from. -/
  template : String
  message : String
  object : Option Object
  value : Value
  context : Context
  causes : List Violation

namespace Violation

mutual

/-- The violation and all nested ones, each before its own causes. -/
def flatten : Violation → List Violation
  | ⟨check, template, message, object, value, context, causes⟩ =>
    ⟨check, template, message, object, value, context, causes⟩ :: flattenAll causes

def flattenAll : List Violation → List Violation
  | [] => []
  | violation :: rest => flatten violation ++ flattenAll rest

end

theorem flatten_eq (violation : Violation) :
    violation.flatten = violation :: flattenAll violation.causes := by
  cases violation
  simp [flatten]

theorem flattenAll_append (first second : List Violation) :
    flattenAll (first ++ second) = flattenAll first ++ flattenAll second := by
  induction first with
  | nil => simp [flattenAll]
  | cons violation rest ih => simp [flattenAll, ih]

end Violation

end ObjectConstraints
