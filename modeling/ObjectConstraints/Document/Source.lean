import ObjectConstraints.Document
import ObjectConstraints.Number.Width

/-!
# Reading documents

A document is read in the same way from every notation; a source says how the values of a notation
are read as texts, numbers, lists and records. A check is read in two ways: its metadata as the
notation reads it, and what belongs to its kind from contents, which are values of no notation in
particular.
-/

namespace ObjectConstraints.Document

/-- A value by itself, as a notation presents it to a reader that expects nothing. -/
inductive Content where
  | null
  | bool (b : Bool)
  | natural (n : Nat)
  | signed (n : Int)
  | double (x : Double)
  | text (s : String)
  | list (items : List Content)
  | map (entries : List (Content × Content))
  deriving Inhabited

/-- How the values of a notation are read. -/
structure Source (ν : Type) where
  text? : ν → Option String
  bool? : ν → Option Bool
  natural? : ν → Option Nat
  integer? : ν → Option Int
  /-- Where a value may be left out, whether it is there. -/
  optional? : ν → Option (Option ν)
  items? : ν → Option (List ν)
  word? : ν → Option String
  /-- The members of a record that have the given names. -/
  record? : List String → ν → Option (List (String × ν))
  members? : ν → Option (List (String × ν))
  content? : ν → Option Content

/-- Members that have some of the given names, if none of those occurs twice. -/
def pickMembers {α : Type} (names : List String) (members : List (String × α)) :
    Option (List (String × α)) :=
  let picked := members.filter fun m => names.contains m.1
  if (picked.map (·.1)).Nodup then some picked else none

def member? {α : Type} (name : String) (members : List (String × α)) : Option α :=
  (members.find? (·.1 == name)).map (·.2)

namespace Content

def text? : Content → Option String
  | .text s => some s
  | _ => none

def bool? : Content → Option Bool
  | .bool b => some b
  | _ => none

/-- Counts are non-negative integers. -/
def natural? : Content → Option Nat
  | .natural n => some n
  | .signed n => if 0 ≤ n then some n.toNat else none
  | _ => none

/-- Numbers may be written as integers. -/
def double? : Content → Option Double
  | .double x => some x
  | .natural n => some (Double.ofInt n)
  | .signed n => some (Double.ofInt n)
  | _ => none

def texts? : Content → Option (List String)
  | .list items => items.mapM text?
  | _ => none

/-- A text, or null for none. -/
def optionalText? : Content → Option (Option String)
  | .null => some none
  | content => content.text?.map some

end Content

/-- The members of a kind of check. -/
abbrev Members := List (String × Content)

namespace Members

def required {α : Type} (read : Content → Option α) (name : String) (members : Members) :
    Option α :=
  (member? name members).bind read

def withDefault {α : Type} (read : Content → Option α) (default : α) (name : String)
    (members : Members) : Option α :=
  match member? name members with
  | none => some default
  | some content => read content

end Members

/-- A word for a kind of check, the names of the kind's members and how they make it. -/
structure KindReader where
  word : String
  names : List String := []
  read : Members → Option DeclaredKind

namespace KindReader

def plain (word : String) (kind : DeclaredKind) : KindReader := ⟨word, [], fun _ => some kind⟩

def oneCount (word name : String) (kind : Nat → DeclaredKind) : KindReader :=
  ⟨word, [name], fun m => return kind (← m.required Content.natural? name)⟩

def twoCounts (word : String) (kind : Nat → Nat → DeclaredKind) : KindReader :=
  ⟨word, ["min", "max"], fun m =>
    return kind (← m.required Content.natural? "min") (← m.required Content.natural? "max")⟩

def bound (word name : String) (kind : Double → DeclaredKind) : KindReader :=
  ⟨word, [name], fun m => return kind (← m.required Content.double? name)⟩

def membership (word : String) (kind : List String → Bool → DeclaredKind) : KindReader :=
  ⟨word, ["values", "ignore_case"], fun m =>
    return kind (← m.required Content.texts? "values")
      (← m.withDefault Content.bool? false "ignore_case")⟩

end KindReader

open KindReader in
/-- The kinds of checks, in the order of their numbers. -/
def kindReaders : List KindReader :=
  [plain "not_null" .notNull,
   plain "null" .null,
   plain "not_empty" .notEmpty,
   plain "not_blank" .notBlank,
   twoCounts "length" .length,
   oneCount "min_length" "min" .minLength,
   oneCount "max_length" "max" .maxLength,
   twoCounts "size" .size,
   oneCount "min_size" "min" .minSize,
   oneCount "max_size" "max" .maxSize,
   ⟨"range", ["min", "max"], fun m =>
     return .range (← m.required Content.double? "min") (← m.required Content.double? "max")⟩,
   bound "min" "min" .min,
   bound "max" "max" .max,
   ⟨"pattern", ["pattern", "patterns", "match_all"], fun m =>
     return .pattern (← m.withDefault Content.optionalText? none "pattern")
       (← m.withDefault Content.texts? [] "patterns")
       (← m.withDefault Content.bool? true "match_all")⟩,
   plain "email" .email,
   plain "url" .url,
   plain "past" .past,
   plain "future" .future,
   plain "assert_true" .assertTrue,
   plain "assert_false" .assertFalse,
   membership "member_of" .memberOf,
   membership "not_member_of" .notMemberOf,
   ⟨"expression", ["language", "expression"], fun m =>
     return .expression (← m.required Content.text? "language")
       (← m.required Content.text? "expression")⟩,
   plain "assert_valid" .assertValid,
   ⟨"assert_constraint_set", ["id"], fun m =>
     return .assertConstraintSet (← m.required Content.text? "id")⟩,
   ⟨"assert_field_constraints", ["field", "declaring_class"], fun m =>
     return .assertFieldConstraints (← m.withDefault Content.optionalText? none "field")
       (← m.withDefault Content.optionalText? none "declaring_class")⟩,
   ⟨"custom", ["name"], fun m => return .custom (← m.required Content.text? "name")⟩]

/-- The reader of the kind that a content tells, by its word or by its number. -/
def kindReader? : Content → Option KindReader
  | .text word => kindReaders.find? (·.word == word)
  | .natural n => kindReaders[n]?
  | _ => none

/-- The kind of a check, from all members of the check but its metadata. -/
def kind? (members : Members) : Option DeclaredKind :=
  match members.filter (·.1 == "type") with
  | [(_, tag)] => do
    let reader ← kindReader? tag
    reader.read (← pickMembers reader.names members)
  | _ => none

/-- Integers of 32 bits. -/
def fitsSeverity (n : Int) : Bool := Width.holdsSigned 32 n

/-- The names of a check's metadata. -/
def metadataNames : List String :=
  ["message", "error_code", "severity", "profiles", "applies_to", "when", "target"]

namespace Source

variable {ν : Type} (source : Source ν)

/-- A member that has to be there. -/
def required {α : Type} (read : ν → Option α) (name : String) (members : List (String × ν)) :
    Option α :=
  (member? name members).bind read

/-- A member with a value for when it is not there. -/
def withDefault {α : Type} (read : ν → Option α) (default : α) (name : String)
    (members : List (String × ν)) : Option α :=
  match member? name members with
  | none => some default
  | some value => read value

/-- A member that may be missing or left out. -/
def optional {α : Type} (read : ν → Option α) (name : String) (members : List (String × ν)) :
    Option (Option α) :=
  match member? name members with
  | none => some none
  | some value => do
    match ← source.optional? value with
    | none => some none
    | some value => (read value).map some

def list {α : Type} (read : ν → Option α) (value : ν) : Option (List α) := do
  (← source.items? value).mapM read

def severity (value : ν) : Option Int := (source.integer? value).filter fitsSeverity

def target (value : ν) : Option Target := do Target.ofWord? (← source.word? value)

def check (value : ν) : Option CheckDeclaration := do
  let members ← source.members? value
  let metadata ← pickMembers metadataNames members
  let message ← source.optional source.text? "message" metadata
  let errorCode ← source.optional source.text? "error_code" metadata
  let severity ← source.optional source.severity "severity" metadata
  let profiles ← withDefault (source.list source.text?) [] "profiles" metadata
  let appliesTo ← source.optional (source.list source.target) "applies_to" metadata
  let condition ← source.optional source.text? "when" metadata
  let target ← source.optional source.text? "target" metadata
  let others ← (members.filter fun m => !metadataNames.contains m.1).mapM fun m =>
    (source.content? m.2).map fun content => (m.1, content)
  return {
    kind := ← kind? others
    message, errorCode, severity, profiles, appliesTo, condition, target }

/-- Reads the checks and the overwrite switch of a record. -/
def checksOf (members : List (String × ν)) : Option (List CheckDeclaration × Option Bool) := do
  let checks ← withDefault (source.list source.check) [] "checks" members
  let overwrite ← source.optional source.bool? "overwrite" members
  return (checks, overwrite)

def part (value : ν) : Option SectionDeclaration := do
  let members ← source.record? ["checks", "overwrite"] value
  let (checks, overwrite) ← source.checksOf members
  return { checks, overwrite }

def field (value : ν) : Option FieldDeclaration := do
  let members ← source.record? ["name", "checks", "overwrite"] value
  let name ← required source.text? "name" members
  let (checks, overwrite) ← source.checksOf members
  return { name, checks, overwrite }

def method (value : ν) : Option MethodDeclaration := do
  let members ← source.record?
    ["name", "arity", "invariant", "parameters", "return_value", "overwrite"] value
  let name ← required source.text? "name" members
  let arity ← source.optional source.natural? "arity" members
  let isInvariant ← withDefault source.bool? false "invariant" members
  let parameters ← withDefault (source.list source.part) [] "parameters" members
  let result ← source.optional source.part "return_value" members
  let overwrite ← source.optional source.bool? "overwrite" members
  return { name, arity, isInvariant, parameters, result, overwrite }

def constructor (value : ν) : Option ConstructorDeclaration := do
  let members ← source.record? ["index", "parameters", "overwrite"] value
  let index ← required source.natural? "index" members
  let parameters ← withDefault (source.list source.part) [] "parameters" members
  let overwrite ← source.optional source.bool? "overwrite" members
  return { index, parameters, overwrite }

def «class» (value : ν) : Option ClassDeclaration := do
  let members ← source.record?
    ["class", "apply_field_constraints_to_setters", "apply_field_constraints_to_constructors",
      "check_invariants", "assert_parameters_not_null", "inspect_interfaces", "overwrite", "fields",
      "methods", "constructors", "object"] value
  let className ← required source.text? "class" members
  let switch (name : String) := source.optional source.bool? name members
  let fieldsToSetters ← switch "apply_field_constraints_to_setters"
  let fieldsToConstructors ← switch "apply_field_constraints_to_constructors"
  let checkInvariants ← switch "check_invariants"
  let parametersNotNull ← switch "assert_parameters_not_null"
  let inspectInterfaces ← switch "inspect_interfaces"
  let overwrite ← switch "overwrite"
  let fields ← withDefault (source.list source.field) [] "fields" members
  let methods ← withDefault (source.list source.method) [] "methods" members
  let constructors ← withDefault (source.list source.constructor) [] "constructors" members
  let object ← source.optional source.part "object" members
  return {
    className, fieldsToSetters, fieldsToConstructors, checkInvariants, parametersNotNull,
    inspectInterfaces, overwrite, fields, methods, constructors, object }

def set (value : ν) : Option SetDeclaration := do
  let members ← source.record? ["id", "checks", "overwrite"] value
  let id ← required source.text? "id" members
  let (checks, overwrite) ← source.checksOf members
  return { id, checks, overwrite }

def document (value : ν) : Option Document := do
  let members ← source.record? ["classes", "constraint_sets"] value
  let classes ← withDefault (source.list source.class) [] "classes" members
  let sets ← withDefault (source.list source.set) [] "constraint_sets" members
  return { classes, sets }

end Source

end ObjectConstraints.Document
