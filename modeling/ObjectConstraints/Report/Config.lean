import ObjectConstraints.Config
import ObjectConstraints.Report.Violation

/-!
# Configurations in JSON
-/

namespace ObjectConstraints

/-- The checks of a section and whether they replace others. -/
def sectionMembers (checks : List Check) (overwrite : Option Bool) : List (String × Json) :=
  [("checks", .ofList Check.toJson checks), ("overwrite", .ofOption .bool overwrite)]

def Section.toJson (part : Section) : Json := .ofMembers (sectionMembers part.checks part.overwrite)

def FieldConfig.toJson (config : FieldConfig) : Json :=
  .ofMembers (("name", .string config.name) :: sectionMembers config.checks config.overwrite)

def MethodConfig.toJson (config : MethodConfig) : Json :=
  .ofMembers [("name", .string config.name), ("arity", .ofNat config.arity),
    ("invariant", .bool config.isInvariant),
    ("parameters", .ofList Section.toJson config.parameters),
    ("overwrite", .ofOption .bool config.overwrite),
    ("return_value", .ofOption Section.toJson config.result)]

def ConstructorConfig.toJson (config : ConstructorConfig) : Json :=
  .ofMembers [("index", .ofNat config.index),
    ("parameters", .ofList Section.toJson config.parameters),
    ("overwrite", .ofOption .bool config.overwrite)]

/-- The configuration of a class; its switches are given in a row, with the one for overwriting
last. -/
def ClassConfig.toJson (config : ClassConfig) : Json :=
  let flags := config.flags
  .ofMembers [
    ("class", .string config.className),
    ("flags", .ofList (.ofOption .bool) [flags.fieldsToSetters, flags.fieldsToConstructors,
      flags.checkInvariants, flags.parametersNotNull, flags.inspectInterfaces, config.overwrite]),
    ("fields", .ofList FieldConfig.toJson config.fields),
    ("methods", .ofList MethodConfig.toJson config.methods),
    ("constructors", .ofList ConstructorConfig.toJson config.constructors),
    ("object", .ofOption Section.toJson config.object)]

def SetConfig.toJson (config : SetConfig) : Json :=
  .ofMembers (("id", .string config.id) :: sectionMembers config.checks config.overwrite)

end ObjectConstraints
