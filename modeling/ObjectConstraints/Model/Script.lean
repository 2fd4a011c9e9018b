import ObjectConstraints.Model.Store

/-!
# Scripted methods

Methods that are given by short scripts: they read or write fields of what they are invoked on,
invoke another method or make an object. Scripts may invoke each other without end, so a bound is
set on how many of them run inside of one another.
-/

namespace ObjectConstraints

inductive Script where
  /-- The value of a field. -/
  | read (field : String)
  | constant (value : Value)
  | failure (message : String)
  /-- One of the arguments. -/
  | argument (index : Nat)
  /-- Whether the integer in one field is at most that in another. What is no integer counts as
  zero. -/
  | atMost (first second : String)
  /-- The texts of fields, separated by spaces. -/
  | join (fields : List String)
  /-- Writes the first argument to a field. -/
  | write (field : String)
  /-- Invokes a method without arguments. -/
  | call (method : String)
  /-- A new object of a class with some of its fields set. -/
  | make (cls : Class) (values : List (String × Value))

/-- The script of a method that a class declares. -/
structure ScriptedMethod where
  classId : Nat
  name : String
  arity : Nat
  script : Script

namespace Receiver

def get (receiver : Receiver) (field : String) (store : Store) : Except AccessError Value :=
  match receiver with
  | .object o => o.get field store
  | .cls c => c.getStatic field store

def set (receiver : Receiver) (field : String) (value : Value) (store : Store) :
    Except AccessError Store :=
  match receiver with
  | .object o => o.set field value store
  | .cls c => c.setStatic field value store

def invoke (implementation : Implementation) (receiver : Receiver) (method : String)
    (store : Store) : Except AccessError Value × Store :=
  match receiver with
  | .object o => o.invoke implementation method [] store
  | .cls c => c.invokeStatic implementation method [] store

/-- The integer in a field. -/
def getInt (receiver : Receiver) (field : String) (store : Store) : Except AccessError Int := do
  return ((← receiver.get field store).int?).getD 0

end Receiver

/-- Runs a script for a method; `implementation` is what other methods do. -/
def Script.run (implementation : Implementation) (script : Script) : Implementation :=
  fun c m receiver args store =>
    match script with
    | .read field => (receiver.get field store, store)
    | .constant value => (.ok value, store)
    | .failure message => (.error (.invocationFailed c.name m.name message), store)
    | .argument index => (.ok ((args[index]?).getD .null), store)
    | .atMost first second =>
      (do
        let a ← receiver.getInt first store
        let b ← receiver.getInt second store
        return .bool (a ≤ b), store)
    | .join fields =>
      (do
        let values ← fields.mapM fun field => receiver.get field store
        return .string (" ".intercalate (values.map (·.text))), store)
    | .write field =>
      match receiver.set field ((args[0]?).getD .null) store with
      | .ok after => (.ok .null, after)
      | .error e => (.error e, store)
    | .call method => receiver.invoke implementation method store
    | .make cls values =>
      let (made, after) := cls.make store
      match made.setAll values after with
      | (.ok _, after) => (.ok (.object made), after)
      | (.error e, _) => (.error e, store)

/-- What scripted methods do, with at most so many inside of one another. -/
def ScriptedMethod.implementation (methods : List ScriptedMethod) : Nat → Implementation
  | 0 => fun c m _ _ store => (.error (.notInvocable c.name m.name), store)
  | depth + 1 => fun c m receiver args store =>
    match methods.find? fun s => s.classId == c.id && s.name == m.name && s.arity == m.arity with
    | some scripted => scripted.script.run (implementation methods depth) c m receiver args store
    | none => (.error (.notInvocable c.name m.name), store)

end ObjectConstraints
