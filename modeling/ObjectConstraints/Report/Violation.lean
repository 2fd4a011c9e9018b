import ObjectConstraints.Document
import ObjectConstraints.Report.Value
import ObjectConstraints.Violation

/-!
# Checks and violations in JSON

A check is written with what it resolves to: a message or an error code that is not given is that of
its kind.
-/

namespace ObjectConstraints

/-- What a kind has beyond the values of its placeholders. -/
def CheckKind.details : CheckKind → List (String × Json)
  | .pattern _ _ matchAll => [("match_all", .bool matchAll)]
  | .memberOf _ ignoreCase => [("ignore_case", .bool ignoreCase)]
  | .notMemberOf _ ignoreCase => [("ignore_case", .bool ignoreCase)]
  | .assertFieldConstraints _ declaringClass =>
    [("declaring_class", .ofOption .string declaringClass)]
  | _ => []

namespace Check

/-- What a check and the violations of it have in common. -/
def sharedMembers (check : Check) : List (String × Json) :=
  [("code", .string check.code), ("severity", .int check.severity),
    ("profiles", .ofTexts check.profiles)]

def contextText (check : Check) : Json := .ofOption (fun c => .string c.text) check.context

def toJson (check : Check) : Json :=
  .ofMembers (check.sharedMembers ++ check.kind.details ++ [
    ("name", .string check.name),
    ("message", .string check.message),
    ("applies_to", .ofTexts (check.targets.toList.map (·.word))),
    ("when", .ofOption (fun c => .string c.text) check.condition),
    ("target", .ofOption .string check.target),
    ("context", check.contextText),
    ("composite", .bool check.isComposite),
    ("vars", .ofList (fun (name, value) => .array [.string name, .string value])
      check.kind.placeholders)])

end Check

namespace Violation

mutual

/-- A violation with the nested ones; if there are any, their messages are also in a flat list. -/
def toJson (objectName : Object → String) : Violation → Json
  | ⟨check, template, message, object, value, context, causes⟩ =>
    let nested := if causes.isEmpty then [] else
      [("causes", Json.array (listToJson objectName causes)),
       ("flat", .ofTexts (message :: (flattenAll causes).map (·.message)))]
    .ofMembers (check.sharedMembers ++ [
      ("check", .string check.name),
      ("message", .string message),
      ("template", .string template),
      ("object", .ofOption (fun o => .string (objectName o)) object),
      ("value", value.toTagged objectName),
      ("context", context.toJson),
      ("registered", check.contextText)] ++ nested)

def listToJson (objectName : Object → String) : List Violation → List Json
  | [] => []
  | violation :: rest => toJson objectName violation :: listToJson objectName rest

end

end Violation

end ObjectConstraints
