import ObjectConstraints.Config
import ObjectConstraints.Document.Path

/-!
# Catalogs of documents

A catalog gathers what documents declare, by name of class and of constraint set. A document is
turned into checks when it is loaded; if one of its checks is wrong, it changes nothing. What a
class or a set already has is extended, unless the document overwrites it.
-/

namespace ObjectConstraints

/-- What is wrong with a declared check. -/
inductive CheckFault where
  | noPattern
  | classWithoutField
  | unknownPredicate (name : String)
  | config (error : ConfigError)
  deriving DecidableEq, Repr

def CheckFault.message : CheckFault → String
  | .noPattern => "pattern check without a pattern"
  | .classWithoutField => "declaring_class requires an explicit field"
  | .unknownPredicate name => "unknown custom predicate '" ++ name ++ "'"
  | .config error => error.message

/-- Why a document could not be loaded. -/
inductive DocumentError where
  | unreadable (error : Document.ReadError)
  | invalidCheck (location : String) (fault : CheckFault)
  deriving DecidableEq, Repr

def DocumentError.message : DocumentError → String
  | .unreadable .yaml => "Failed to parse YAML"
  | .unreadable .toml => "Failed to parse TOML"
  | .unreadable .file => "File I/O error"
  | .unreadable (.unsupportedFormat extension) => "Unsupported file format: " ++ extension
  | .unreadable .noExtension => "Invalid or missing file extension"
  | .invalidCheck location fault => "Invalid check at " ++ location ++ ": " ++ fault.message

/-- The predicates that declared checks may refer to, by name. -/
abbrev Predicates := Table String Predicate

namespace DeclaredKind

/-- The kind of check that a declared kind stands for. -/
def resolve (predicates : Predicates) : DeclaredKind → Except CheckFault CheckKind
  | .notNull => .ok .notNull
  | .null => .ok .null
  | .notEmpty => .ok .notEmpty
  | .notBlank => .ok .notBlank
  | .length low high => .ok (.length low high)
  | .minLength low => .ok (.minLength low)
  | .maxLength high => .ok (.maxLength high)
  | .size low high => .ok (.size low high)
  | .minSize low => .ok (.minSize low)
  | .maxSize high => .ok (.maxSize high)
  | .range low high => .ok (.range low high)
  | .min bound => .ok (.min bound)
  | .max bound => .ok (.max bound)
  | .pattern first others matchAll =>
    let sources := first.toList ++ others
    if sources.isEmpty then .error .noPattern
    else (CheckKind.ofPatterns sources matchAll).mapError .config
  | .email => .ok .email
  | .url => .ok .url
  | .past => .ok .past
  | .future => .ok .future
  | .assertTrue => .ok .assertTrue
  | .assertFalse => .ok .assertFalse
  | .memberOf members ignoreCase => .ok (.memberOf members ignoreCase)
  | .notMemberOf members ignoreCase => .ok (.notMemberOf members ignoreCase)
  | .expression language written => .ok (.expression language written)
  | .assertValid => .ok .assertValid
  | .assertConstraintSet id => .ok (.assertConstraintSet id)
  | .assertFieldConstraints none (some _) => .error .classWithoutField
  | .assertFieldConstraints field declaringClass =>
    .ok (.assertFieldConstraints field declaringClass)
  | .custom name =>
    match predicates.get? name with
    | some predicate => .ok (.custom predicate)
    | none => .error (.unknownPredicate name)

end DeclaredKind

namespace CheckDeclaration

/-- The check that a declaration stands for. The kind is looked at before the condition. -/
def resolve (predicates : Predicates) (declared : CheckDeclaration) : Except CheckFault Check := do
  let kind ← declared.kind.resolve predicates
  let condition ← declared.condition.mapM fun text => (Condition.ofText text).mapError .config
  return {
    kind, condition
    explicitMessage := declared.message
    explicitCode := declared.errorCode
    severity := declared.severity.getD 1
    profiles := declared.profiles
    explicitTargets := declared.appliesTo.map Targets.ofList
    target := declared.target }

end CheckDeclaration

namespace Document

/-- A location with a position in a list. -/
def indexed (location : String) (index : Nat) : String := location ++ "[" ++ toString index ++ "]"

def checksFrom (predicates : Predicates) (location : String) (index : Nat) :
    List CheckDeclaration → Except DocumentError (List Check)
  | [] => .ok []
  | declared :: rest => do
    let check ← (declared.resolve predicates).mapError (.invalidCheck (indexed location index))
    let others ← checksFrom predicates location (index + 1) rest
    return check :: others

def sectionOf (predicates : Predicates) (location : String) (declared : SectionDeclaration) :
    Except DocumentError Section := do
  return { checks := ← checksFrom predicates location 0 declared.checks
           overwrite := declared.overwrite }

def parametersFrom (predicates : Predicates) (location : String) (index : Nat) :
    List SectionDeclaration → Except DocumentError (List Section)
  | [] => .ok []
  | declared :: rest => do
    let part ← sectionOf predicates (indexed (location ++ ".parameters") index) declared
    let others ← parametersFrom predicates location (index + 1) rest
    return part :: others

def fieldOf (predicates : Predicates) (className : String) (declared : FieldDeclaration) :
    Except DocumentError FieldConfig := do
  return { name := declared.name
           checks := ← checksFrom predicates (className ++ "." ++ declared.name) 0 declared.checks
           overwrite := declared.overwrite }

/-- The configuration of a method. Its result comes before its parameters. -/
def methodOf (predicates : Predicates) (className : String) (declared : MethodDeclaration) :
    Except DocumentError MethodConfig := do
  let location := className ++ "." ++ declared.name ++ "()"
  let result ← declared.result.mapM (sectionOf predicates location)
  let parameters ← parametersFrom predicates location 0 declared.parameters
  return { name := declared.name
           arity := declared.arity.getD declared.parameters.length
           isInvariant := declared.isInvariant
           parameters, result
           overwrite := declared.overwrite }

def constructorOf (predicates : Predicates) (className : String)
    (declared : ConstructorDeclaration) : Except DocumentError ConstructorConfig := do
  let location := className ++ "#" ++ toString declared.index
  return { index := declared.index
           parameters := ← parametersFrom predicates location 0 declared.parameters
           overwrite := declared.overwrite }

def classOf (predicates : Predicates) (declared : ClassDeclaration) :
    Except DocumentError ClassConfig := do
  let name := declared.className
  let fields ← declared.fields.mapM (fieldOf predicates name)
  let methods ← declared.methods.mapM (methodOf predicates name)
  let constructors ← declared.constructors.mapM (constructorOf predicates name)
  let object ← declared.object.mapM (sectionOf predicates name)
  return { className := name
           flags := {
             checkInvariants := declared.checkInvariants
             fieldsToSetters := declared.fieldsToSetters
             fieldsToConstructors := declared.fieldsToConstructors
             parametersNotNull := declared.parametersNotNull
             inspectInterfaces := declared.inspectInterfaces }
           overwrite := declared.overwrite
           fields, methods, constructors, object }

def setOf (predicates : Predicates) (declared : SetDeclaration) :
    Except DocumentError SetConfig := do
  return { id := declared.id
           checks := ← checksFrom predicates declared.id 0 declared.checks
           overwrite := declared.overwrite }

end Document

namespace ClassConfig

/-- A configuration extended by a later one. Switches set later count. What the later one says about
overwriting of the class or of its objects does not. -/
def extend (config next : ClassConfig) : ClassConfig where
  className := config.className
  flags := config.flags.followedBy next.flags
  overwrite := config.overwrite
  fields := config.fields ++ next.fields
  methods := config.methods ++ next.methods
  constructors := config.constructors ++ next.constructors
  object :=
    match config.object, next.object with
    | some part, some more => some { part with checks := part.checks ++ more.checks }
    | none, more => more
    | part, none => part

end ClassConfig

/-- What the documents loaded so far declare, and the predicates they may refer to. -/
structure Catalog where
  predicates : Predicates := {}
  configs : ConfigTable := {}
  deriving Inhabited

namespace Catalog

def addClass (configs : ConfigTable) (config : ClassConfig) : ConfigTable :=
  match configs.class? config.className with
  | some earlier =>
    if config.overwrite.getD false then configs.addClass config
    else configs.addClass (earlier.extend config)
  | none => configs.addClass config

def addSet (configs : ConfigTable) (config : SetConfig) : ConfigTable :=
  match configs.set? config.id with
  | some earlier =>
    if config.overwrite.getD false then configs.addSet config
    else configs.addSet { earlier with checks := earlier.checks ++ config.checks }
  | none => configs.addSet config

def load (catalog : Catalog) (document : Document) : Except DocumentError Catalog := do
  let classes ← document.classes.mapM (Document.classOf catalog.predicates)
  let sets ← document.sets.mapM (Document.setOf catalog.predicates)
  return { catalog with configs := sets.foldl addSet (classes.foldl addClass catalog.configs) }

def loadRead (catalog : Catalog) (read : Except Document.ReadError Document) :
    Except DocumentError Catalog :=
  match read with
  | .ok document => catalog.load document
  | .error e => .error (.unreadable e)

/-- Makes a predicate known to the documents that are loaded from now on. -/
def addPredicate (catalog : Catalog) (name : String) (predicate : Predicate) : Catalog :=
  { catalog with predicates := catalog.predicates.insert name predicate }

def configurer (catalog : Catalog) : Configurer := catalog.configs.configurer

end Catalog

end ObjectConstraints
