import ObjectConstraints.Check
import ObjectConstraints.Json

/-!
# Documents

A document declares the checks of classes and of constraint sets. Declarations hold what was
written; turning them into checks is another step.
-/

namespace ObjectConstraints

/-- The kind of a declared check. -/
inductive DeclaredKind where
  | notNull
  | null
  | notEmpty
  | notBlank
  | length (low high : Nat)
  | minLength (low : Nat)
  | maxLength (high : Nat)
  | size (low high : Nat)
  | minSize (low : Nat)
  | maxSize (high : Nat)
  | range (low high : Double)
  | min (bound : Double)
  | max (bound : Double)
  | pattern (first : Option String) (others : List String) (matchAll : Bool)
  | email
  | url
  | past
  | future
  | assertTrue
  | assertFalse
  | memberOf (members : List String) (ignoreCase : Bool)
  | notMemberOf (members : List String) (ignoreCase : Bool)
  | expression (language expression : String)
  | assertValid
  | assertConstraintSet (id : String)
  | assertFieldConstraints (field declaringClass : Option String)
  | custom (name : String)
  deriving Inhabited

structure CheckDeclaration where
  kind : DeclaredKind
  message : Option String := none
  errorCode : Option String := none
  severity : Option Int := none
  profiles : List String := []
  appliesTo : Option (List Target) := none
  condition : Option String := none
  target : Option String := none

/-- Checks, and whether they replace earlier ones. -/
structure SectionDeclaration where
  checks : List CheckDeclaration := []
  overwrite : Option Bool := none

structure FieldDeclaration where
  name : String
  checks : List CheckDeclaration := []
  overwrite : Option Bool := none

structure MethodDeclaration where
  name : String
  /-- The number of parameters, where it is not that of the declared ones. -/
  arity : Option Nat := none
  isInvariant : Bool := false
  parameters : List SectionDeclaration := []
  result : Option SectionDeclaration := none
  overwrite : Option Bool := none

structure ConstructorDeclaration where
  index : Nat
  parameters : List SectionDeclaration := []
  overwrite : Option Bool := none

structure ClassDeclaration where
  className : String
  fieldsToSetters : Option Bool := none
  fieldsToConstructors : Option Bool := none
  checkInvariants : Option Bool := none
  parametersNotNull : Option Bool := none
  inspectInterfaces : Option Bool := none
  overwrite : Option Bool := none
  fields : List FieldDeclaration := []
  methods : List MethodDeclaration := []
  constructors : List ConstructorDeclaration := []
  object : Option SectionDeclaration := none

structure SetDeclaration where
  id : String
  checks : List CheckDeclaration := []
  overwrite : Option Bool := none

structure Document where
  classes : List ClassDeclaration := []
  sets : List SetDeclaration := []
  deriving Inhabited

def Target.word : Target → String
  | .keys => "keys"
  | .values => "values"
  | .container => "container"

def Target.ofWord? (word : String) : Option Target :=
  [Target.keys, .values, .container].find? (·.word == word)

theorem Target.ofWord?_word (target : Target) : Target.ofWord? target.word = some target := by
  cases target <;> decide

end ObjectConstraints
