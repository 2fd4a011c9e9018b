import ObjectConstraints.Registry
import ObjectConstraints.Report.Violation

/-!
# Classes and their checks in JSON
-/

namespace ObjectConstraints

def ContainerKind.word : ContainerKind → String
  | .collection => "Collection"
  | .map => "Map"
  | .array => "Array"

def Field.toJson (f : Field) : Json :=
  .array [.string f.name, .bool f.isStatic, .ofOption (fun k => .string k.word) f.kind.container?]

def Method.toJson (m : Method) : Json :=
  .ofMembers [("name", .string m.name), ("arity", .ofNat m.arity), ("void", .bool m.isVoid),
    ("getter", .bool m.isGetter), ("static", .bool m.isStatic)]

/-- What a class declares, and the names of the classes above it. -/
def Class.members (c : Class) : List (String × Json) := [
  ("name", .string c.name),
  ("superclass", .ofOption (fun (p : Class) => .string p.name) c.superclass),
  ("interface", .bool c.isInterface),
  ("interfaces", .ofTexts (c.interfaces.map (·.name))),
  ("fields", .ofList Field.toJson c.fields),
  ("methods", .ofList Method.toJson c.methods),
  ("constructors", .ofList (fun parameters => .ofNat parameters.length) c.constructors),
  ("hierarchy", .ofTexts (c.hierarchy.map (·.name)))]

/-- What a member is called among those of its class. -/
def Member.label : Member → String
  | .field name => "field " ++ name
  | .result method arity => "return " ++ method ++ "/" ++ toString arity
  | .parameter method arity index =>
    "param " ++ method ++ "/" ++ toString arity ++ "#" ++ toString index
  | .constructorParameter constructor index =>
    "ctor " ++ toString constructor ++ "#" ++ toString index
  | .object => "object"

/-- The members of a class that can have checks: fields, every method's result and parameters, the
parameters of constructors and the object itself. -/
def Class.checkable (c : Class) : List Member :=
  c.fields.map (fun f => .field f.name) ++
    c.methods.flatMap (fun m =>
      .result m.name m.arity :: (List.range m.arity).map (.parameter m.name m.arity)) ++
    c.constructors.zipIdx.flatMap (fun (parameters, k) =>
      (List.range parameters.length).map (.constructorParameter k)) ++
    [.object]

def Flags.toJson (flags : Flags) : Json :=
  .ofList .bool [flags.checkInvariants, flags.fieldsToSetters, flags.fieldsToConstructors,
    flags.parametersNotNull, flags.inspectInterfaces]

/-- The checks of a class: members without checks are left out. -/
def ClassChecks.toJson (checks : ClassChecks) : Json :=
  let members := checks.cls.checkable.filter fun member => !(checks.of member).isEmpty
  .ofMembers [
    ("class", .string checks.cls.name),
    ("flags", checks.flags.toJson),
    ("fields", .ofTexts checks.constrainedFields),
    ("static_fields", .ofTexts checks.constrainedStatics),
    ("invariants", .ofTexts checks.invariants),
    ("static_invariants", .ofTexts checks.staticInvariants),
    ("members", .ofList (fun (member : Member) =>
      .array [.string member.label, .ofList Check.toJson (checks.of member)]) members)]

end ObjectConstraints
