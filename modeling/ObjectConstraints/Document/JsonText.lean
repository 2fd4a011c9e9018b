import ObjectConstraints.Document

/-!
# Writing documents as JSON

What is left out of a document is left out of its JSON too. How bounds are written is up to the
caller, as JSON has no numbers that are not finite.
-/

namespace ObjectConstraints

/-- A member for what is given. -/
def Json.given {α : Type} (name : String) (encode : α → Json) : Option α → List (String × Json)
  | some a => [(name, encode a)]
  | none => []

/-- A member for a list that is not empty. -/
def Json.givenTexts (name : String) (texts : List String) : List (String × Json) :=
  if texts.isEmpty then [] else [(name, .ofTexts texts)]

/-- The word the kind of a check is told by. -/
def DeclaredKind.word : DeclaredKind → String
  | .notNull => "not_null"
  | .null => "null"
  | .notEmpty => "not_empty"
  | .notBlank => "not_blank"
  | .length .. => "length"
  | .minLength _ => "min_length"
  | .maxLength _ => "max_length"
  | .size .. => "size"
  | .minSize _ => "min_size"
  | .maxSize _ => "max_size"
  | .range .. => "range"
  | .min _ => "min"
  | .max _ => "max"
  | .pattern .. => "pattern"
  | .email => "email"
  | .url => "url"
  | .past => "past"
  | .future => "future"
  | .assertTrue => "assert_true"
  | .assertFalse => "assert_false"
  | .memberOf .. => "member_of"
  | .notMemberOf .. => "not_member_of"
  | .expression .. => "expression"
  | .assertValid => "assert_valid"
  | .assertConstraintSet _ => "assert_constraint_set"
  | .assertFieldConstraints .. => "assert_field_constraints"
  | .custom _ => "custom"

/-- What the kind of a check is given. -/
def DeclaredKind.members (bound : Double → Json) : DeclaredKind → List (String × Json)
  | .length low high | .size low high => [("min", .ofNat low), ("max", .ofNat high)]
  | .minLength low | .minSize low => [("min", .ofNat low)]
  | .maxLength high | .maxSize high => [("max", .ofNat high)]
  | .range low high => [("min", bound low), ("max", bound high)]
  | .min low => [("min", bound low)]
  | .max high => [("max", bound high)]
  | .pattern first others matchAll =>
    ("match_all", .bool matchAll) :: Json.given "pattern" .string first ++
      Json.givenTexts "patterns" others
  | .memberOf members ignoreCase | .notMemberOf members ignoreCase =>
    [("values", .ofTexts members), ("ignore_case", .bool ignoreCase)]
  | .expression language written =>
    [("language", .string language), ("expression", .string written)]
  | .assertConstraintSet id => [("id", .string id)]
  | .assertFieldConstraints name declaringClass =>
    Json.given "field" .string name ++ Json.given "declaring_class" .string declaringClass
  | .custom name => [("name", .string name)]
  | _ => []

def CheckDeclaration.toJson (bound : Double → Json) (check : CheckDeclaration) : Json :=
  .ofMembers (("type", .string check.kind.word) :: check.kind.members bound ++
    Json.given "message" .string check.message ++ Json.given "error_code" .string check.errorCode ++
    Json.given "severity" .int check.severity ++ Json.givenTexts "profiles" check.profiles ++
    Json.given "applies_to" (.ofList fun t => .string (Target.word t)) check.appliesTo ++
    Json.given "when" .string check.condition ++ Json.given "target" .string check.target)

def sectionDeclarationMembers (bound : Double → Json) (checks : List CheckDeclaration)
    (overwrite : Option Bool) : List (String × Json) :=
  ("checks", .ofList (CheckDeclaration.toJson bound) checks) ::
    Json.given "overwrite" .bool overwrite

def SectionDeclaration.toJson (bound : Double → Json) (part : SectionDeclaration) : Json :=
  .ofMembers (sectionDeclarationMembers bound part.checks part.overwrite)

def FieldDeclaration.toJson (bound : Double → Json) (field : FieldDeclaration) : Json :=
  .ofMembers (("name", .string field.name) ::
    sectionDeclarationMembers bound field.checks field.overwrite)

def MethodDeclaration.toJson (bound : Double → Json) (method : MethodDeclaration) : Json :=
  .ofMembers ([("name", .string method.name), ("invariant", .bool method.isInvariant),
    ("parameters", .ofList (SectionDeclaration.toJson bound) method.parameters)] ++
    Json.given "arity" .ofNat method.arity ++
    Json.given "return_value" (SectionDeclaration.toJson bound) method.result ++
    Json.given "overwrite" .bool method.overwrite)

def ConstructorDeclaration.toJson (bound : Double → Json) (made : ConstructorDeclaration) : Json :=
  .ofMembers ([("index", .ofNat made.index),
    ("parameters", .ofList (SectionDeclaration.toJson bound) made.parameters)] ++
    Json.given "overwrite" .bool made.overwrite)

def ClassDeclaration.toJson (bound : Double → Json) (c : ClassDeclaration) : Json :=
  .ofMembers ([
    ("class", .string c.className),
    ("fields", .ofList (FieldDeclaration.toJson bound) c.fields),
    ("methods", .ofList (MethodDeclaration.toJson bound) c.methods),
    ("constructors", .ofList (ConstructorDeclaration.toJson bound) c.constructors)] ++
    Json.given "apply_field_constraints_to_setters" .bool c.fieldsToSetters ++
    Json.given "apply_field_constraints_to_constructors" .bool c.fieldsToConstructors ++
    Json.given "check_invariants" .bool c.checkInvariants ++
    Json.given "assert_parameters_not_null" .bool c.parametersNotNull ++
    Json.given "inspect_interfaces" .bool c.inspectInterfaces ++
    Json.given "overwrite" .bool c.overwrite ++
    Json.given "object" (SectionDeclaration.toJson bound) c.object)

def SetDeclaration.toJson (bound : Double → Json) (set : SetDeclaration) : Json :=
  .ofMembers (("id", .string set.id) :: sectionDeclarationMembers bound set.checks set.overwrite)

/-- A document in JSON, its bounds written by the given function. -/
def Document.toJson (bound : Double → Json) (document : Document) : Json :=
  .ofMembers [("classes", .ofList (ClassDeclaration.toJson bound) document.classes),
    ("constraint_sets", .ofList (SetDeclaration.toJson bound) document.sets)]

end ObjectConstraints
