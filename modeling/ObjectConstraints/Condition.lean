import ObjectConstraints.Unicode.Blank

/-!
# Activation conditions

A condition names an expression language and an expression of it, written with a colon in between.
The first colon separates them, so the expression may hold more.
-/

namespace ObjectConstraints

structure Condition where
  language : String
  expression : String
  deriving DecidableEq, Repr

namespace Condition

/-- The parts of a text before and after its first colon. -/
def splitColon : List Char → Option (List Char × List Char)
  | [] => none
  | c :: cs => if c = ':' then some ([], cs) else (splitColon cs).map fun (a, b) => (c :: a, b)

/-- Reads a condition; blanks around its parts do not count, and neither part may be blank. -/
def ofText? (text : String) : Option Condition :=
  match splitColon text.toList with
  | none => none
  | some (before, after) =>
    let language := Unicode.trimChars before
    let expression := Unicode.trimChars after
    if language.isEmpty || expression.isEmpty then none
    else some ⟨String.ofList language, String.ofList expression⟩

def text (c : Condition) : String := c.language ++ ":" ++ c.expression

end Condition

end ObjectConstraints
