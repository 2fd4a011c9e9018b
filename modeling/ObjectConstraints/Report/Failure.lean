import ObjectConstraints.Document.Catalog
import ObjectConstraints.Report.Violation

/-!
# Failures in JSON

A failure is written as the name of its kind and its message. The messages of texts that are not
documents at all are left to whoever reads them.
-/

namespace ObjectConstraints

/-- A failure of some kind with a message. -/
def failureJson (kind message : String) : List (String × Json) :=
  [("error", .string kind), ("message", .string message)]

def ConfigError.kindName : ConfigError → String
  | .invalidCondition _ => "InvalidWhen"
  | .invalidPattern _ => "InvalidPattern"
  | .voidMethod .. => "VoidMethod"
  | .memberNotFound .. => "MemberNotFound"
  | .parameterOutOfRange .. => "ParameterIndexOutOfRange"
  | .invariantTakesParameters .. | .unresolvedTarget .. | .invalid _ => "Invalid"

def ConfigError.toJson (error : ConfigError) : Json :=
  .ofMembers (failureJson error.kindName error.message)

def AccessError.kindName : AccessError → String
  | .noSuchField .. => "NoSuchField"
  | .noSuchMethod .. => "NoSuchMethod"
  | .notInvocable .. => "NotInvocable"
  | .invocationFailed .. => "InvocationFailed"

def AccessError.toJson (error : AccessError) : Json :=
  .ofMembers (failureJson error.kindName error.message)

namespace ValidationError

/-- The name of an error's kind. Errors of configurations and of accesses keep theirs. -/
def kindName : ValidationError → String
  | .failed .. => "ValidationFailed"
  | .configuration error => error.kindName
  | .access error => error.kindName
  | .undefinedSet _ => "UndefinedConstraintSet"
  | .setAlreadyDefined _ => "ConstraintSetAlreadyDefined"
  | .fieldNotResolved .. => "FieldNotResolved"
  | .languageNotAvailable _ => "ExpressionLanguageNotAvailable"
  | .evaluationFailed .. => "EvaluationFailed"
  | .configurerFailed _ => "Configurer"
  | .invalidArgument _ => "InvalidArgument"
  | .violated _ => "ConstraintsViolated"

def details (objectName : Object → String) : ValidationError → List (String × Json)
  | .violated violations => [("violations", .ofList (Violation.toJson objectName) violations)]
  | _ => []

/-- An error in JSON; an aborted validation has its target and the error at the root. -/
def toJson (objectName : Object → String) (error : ValidationError) : Json :=
  let root := error.rootCause
  let rootMembers := failureJson root.kindName root.message ++ root.details objectName
  match error with
  | .failed target _ =>
    .ofMembers (failureJson error.kindName error.message ++
      [("target", .string target), ("root", .ofMembers rootMembers)])
  | _ => .ofMembers rootMembers

end ValidationError

def DocumentError.toJson (error : DocumentError) : Json :=
  match error with
  | .unreadable .yaml => .object [("error", .string "YamlError")]
  | .unreadable .toml => .object [("error", .string "TomlError")]
  | .unreadable .file => .object [("error", .string "IoError")]
  | .unreadable (.unsupportedFormat _) =>
    .ofMembers (failureJson "UnsupportedFormat" error.message)
  | .unreadable .noExtension => .ofMembers (failureJson "InvalidExtension" error.message)
  | .invalidCheck location _ =>
    .ofMembers (("location", .string location) :: failureJson "InvalidCheck" error.message)

end ObjectConstraints
