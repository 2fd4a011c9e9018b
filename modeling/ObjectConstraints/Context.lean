import ObjectConstraints.Unicode.Case

/-!
# Contexts

Where a value stands: at a member of a class, or at a position inside of the container a member
holds. Also the names of properties that accessors stand for.
-/

namespace ObjectConstraints

inductive Context where
  | field (className field : String)
  | result (className method : String)
  | parameter (className method : String) (index : Nat) (name : Option String)
  | constructorParameter (className : String) (index : Nat) (name : Option String)
  | object (className : String)
  | element (parent : Context) (index : Nat)
  | mapKey (parent : Context) (index : Nat)
  | mapValue (parent : Context) (key : String)
  deriving DecidableEq, Repr, Inhabited

/-- The first of the given marks that a name starts with is dropped. -/
def dropMark (name : List Char) : List (List Char) → Option (List Char)
  | [] => none
  | mark :: marks =>
    if mark.isPrefixOf name then some (name.drop mark.length) else dropMark name marks

/-- The property of an accessor's name: what follows `get`, `set` or `is`, with its first letter,
which has to be uppercase, lowered. -/
def propertyName (accessor : String) : Option String :=
  match dropMark accessor.toList ["get".toList, "set".toList, "is".toList] with
  | some (first :: rest) =>
    if Unicode.isUppercase first then some (String.ofList (Unicode.lowerChar first ++ rest))
    else none
  | _ => none

def setterName (property : String) : String :=
  match property.toList with
  | [] => "set"
  | first :: rest => String.ofList ("set".toList ++ (Unicode.upperChar first ++ rest))

namespace Context

/-- The member at which the value stands, without positions in containers. -/
def root : Context → Context
  | .element parent _ => parent.root
  | .mapKey parent _ => parent.root
  | .mapValue parent _ => parent.root
  | context => context

def className : Context → String
  | .field c _ => c
  | .result c _ => c
  | .parameter c _ _ _ => c
  | .constructorParameter c _ _ => c
  | .object c => c
  | .element parent _ => parent.className
  | .mapKey parent _ => parent.className
  | .mapValue parent _ => parent.className

/-- The name of a parameter, or its position where it has no name. -/
def parameterText (index : Nat) : Option String → String
  | some name => name
  | none => "arg" ++ toString index

def text : Context → String
  | .field c member => c ++ "." ++ member
  | .result c method => c ++ "." ++ method ++ "()"
  | .parameter c method index name => c ++ "." ++ method ++ "(" ++ parameterText index name ++ ")"
  | .constructorParameter c index name => c ++ "(" ++ parameterText index name ++ ")"
  | .object c => c
  | .element parent index => parent.text ++ "[" ++ toString index ++ "]"
  | .mapKey parent index => parent.text ++ ".keys[" ++ toString index ++ "]"
  | .mapValue parent key => parent.text ++ "[" ++ key ++ "]"

/-- The field the member most likely corresponds to: a field itself, a parameter's name, or the
property of the accessor. -/
def inferredField (context : Context) : Option String :=
  match context.root with
  | .field _ member => some member
  | .constructorParameter _ _ name => name
  | .parameter _ method _ name => name.or (propertyName method)
  | .result _ method => propertyName method
  | _ => none

theorem root_root (context : Context) : context.root.root = context.root := by
  induction context <;> simp_all [root]

theorem className_root (context : Context) : context.root.className = context.className := by
  induction context <;> simp_all [root, className]

end Context

end ObjectConstraints
