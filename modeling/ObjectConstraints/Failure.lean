import ObjectConstraints.Violation

/-!
# Failures

What keeps a configuration from being used and a validation from being completed. A failed check is
not a failure but a violation.
-/

namespace ObjectConstraints

inductive MemberKind where
  | field
  | method
  | constructor
  deriving DecidableEq, Repr

def MemberKind.text : MemberKind → String
  | .field => "Field"
  | .method => "Method"
  | .constructor => "Constructor"

/-- What is wrong with the configuration of checks. -/
inductive ConfigError where
  | invalidCondition (text : String)
  | invalidPattern (source : String)
  | voidMethod (className method : String)
  | memberNotFound (className : String) (kind : MemberKind) (name : String)
  | parameterOutOfRange (member : String) (index count : Nat)
  | invariantTakesParameters (className method : String)
  /-- A target path leads on from a value that has no parts of that kind. -/
  | unresolvedTarget (segment path typeName : String)
  | invalid (text : String)
  deriving DecidableEq, Repr

def ConfigError.invalidText (details : String) : String := "Invalid configuration: " ++ details

def ConfigError.invalidPatternText (source : String) : String :=
  "Invalid regex pattern '" ++ source ++ "'"

def ConfigError.message : ConfigError → String
  | .invalidCondition text =>
    "Invalid activation condition '" ++ text ++ "': expected 'language:expression'"
  | .invalidPattern source => invalidPatternText source
  | .voidMethod className method =>
    "Cannot add return value constraints to void method '" ++ className ++ "." ++ method ++ "'"
  | .memberNotFound className kind name =>
    kind.text ++ " '" ++ name ++ "' not found on class '" ++ className ++ "'"
  | .parameterOutOfRange member index count =>
    "Parameter index " ++ toString index ++ " out of range for '" ++ member ++ "' with " ++
      toString count ++ " parameter(s)"
  | .invariantTakesParameters className method =>
    invalidText ("invariant method '" ++ className ++ "." ++ method ++ "' must not take parameters")
  | .unresolvedTarget segment path typeName =>
    invalidText ("cannot resolve '" ++ segment ++ "' of target path '" ++ path ++ "' on a " ++
      typeName ++ " value")
  | .invalid text => invalidText text

/-- What is wrong with the arguments of a request. -/
inductive ArgumentError where
  | noField (className field : String)
  | noMethod (className method : String) (arity : Nat)
  | noConstructor (className : String) (index : Nat)
  | argumentCount (className : String) (index expected given : Nat)
  | parameterOutOfRange (member : String) (index count : Nat)
  | other (text : String)
  deriving DecidableEq, Repr

def ArgumentError.details : ArgumentError → String
  | .noField className field => "class " ++ className ++ " has no field '" ++ field ++ "'"
  | .noMethod className method arity =>
    "class " ++ className ++ " has no method '" ++ method ++ "' with " ++ toString arity ++
      " parameter(s)"
  | .noConstructor className index =>
    "class " ++ className ++ " has no constructor #" ++ toString index
  | .argumentCount className index expected given =>
    "constructor #" ++ toString index ++ " of " ++ className ++ " takes " ++ toString expected ++
      " argument(s), got " ++ toString given
  | .parameterOutOfRange member index count =>
    (ConfigError.parameterOutOfRange member index count).message
  | .other text => text

inductive ValidationError where
  /-- The validation of a target was aborted by another error. -/
  | failed (target : String) (source : ValidationError)
  | configuration (error : ConfigError)
  | access (error : AccessError)
  | undefinedSet (id : String)
  | setAlreadyDefined (id : String)
  | fieldNotResolved (field context : String)
  | languageNotAvailable (id : String)
  | evaluationFailed (check message : String)
  /-- A source of configuration failed, for a chain of reasons, the outermost first. -/
  | configurerFailed (reasons : List String)
  | invalidArgument (error : ArgumentError)
  | violated (violations : List Violation)

namespace ValidationError

def message : ValidationError → String
  | .failed target source => "Validation of " ++ target ++ " failed: " ++ source.message
  | .configuration error => error.message
  | .access error => error.message
  | .undefinedSet id => "Constraint set '" ++ id ++ "' is not defined"
  | .setAlreadyDefined id => "Constraint set '" ++ id ++ "' is already defined"
  | .fieldNotResolved field context =>
    "Cannot resolve field constraints of '" ++ field ++ "' in context " ++ context
  | .languageNotAvailable id => "Expression language '" ++ id ++ "' is not available"
  | .evaluationFailed check message => "Evaluation of check '" ++ check ++ "' failed: " ++ message
  | .configurerFailed reasons => "Configurer failed: " ++ ": ".intercalate reasons
  | .invalidArgument error => "Invalid argument: " ++ error.details
  | .violated [] => "constraints violated"
  | .violated (first :: _) => first.message

/-- Says of an error what was being validated. Bad arguments are not failures of a validation, and
an error that says its target keeps it. -/
def wrap (target : String) : ValidationError → ValidationError
  | .invalidArgument error => .invalidArgument error
  | .failed inner source => .failed inner source
  | error => .failed target error

def rootCause : ValidationError → ValidationError
  | .failed _ source => source.rootCause
  | error => error

/-- The error that a refused registration is reported as. A parameter that does not exist is a bad
argument. -/
def ofRegistration : ConfigError → ValidationError
  | .parameterOutOfRange member index count =>
    .invalidArgument (.parameterOutOfRange member index count)
  | error => .configuration error

theorem wrap_wrap (inner outer : String) (error : ValidationError) :
    (error.wrap inner).wrap outer = error.wrap inner := by
  cases error <;> rfl

theorem rootCause_wrap (target : String) (error : ValidationError) :
    (error.wrap target).rootCause = error.rootCause := by
  cases error <;> simp [wrap, rootCause]

end ValidationError

namespace CheckKind

/-- The kind that asks for a full match of all of the texts, or of any of them. Every text has to be
a pattern; it is matched in full by anchoring it at both ends. -/
def ofPatterns (sources : List String) (matchAll : Bool) : Except ConfigError CheckKind := do
  let patterns ← sources.mapM fun source =>
    match Pattern.ofText? ("^(?:" ++ source ++ ")$") with
    | some anchored => .ok anchored
    | none => .error (.invalidPattern source)
  .ok (.pattern sources patterns matchAll)

end CheckKind

def Condition.ofText (text : String) : Except ConfigError Condition :=
  match Condition.ofText? text with
  | some condition => .ok condition
  | none => .error (.invalidCondition text)

end ObjectConstraints
