import ObjectConstraints.Config

/-!
# The checks of a class

The checks of the members that one class declares, and the members that are to be visited because
they have checks. Checks registered one by one carry tickets by which they can be removed again, and
any check can be removed by its place in the list of its member.
-/

namespace ObjectConstraints

/-- A member that can have checks. Methods are told by name and number of parameters, constructors
by position. -/
inductive Member where
  | field (name : String)
  | result (method : String) (arity : Nat)
  | parameter (method : String) (arity index : Nat)
  | constructorParameter (constructor index : Nat)
  | object
  deriving DecidableEq, Repr

/-- The context of a member of a class, or why checks cannot be registered for it. -/
def Class.place (c : Class) : Member → Except ConfigError Context
  | .field name =>
    match c.field? name with
    | none => .error (.memberNotFound c.name .field name)
    | some _ => .ok (.field c.name name)
  | .result method arity =>
    match c.method? method arity with
    | none => .error (.memberNotFound c.name .method (method ++ "/" ++ toString arity))
    | some m => if m.isVoid then .error (.voidMethod c.name method) else .ok (.result c.name method)
  | .parameter method arity index =>
    match c.method? method arity with
    | none => .error (.memberNotFound c.name .method (method ++ "/" ++ toString arity))
    | some m =>
      match m.parameters[index]? with
      | none => .error (.parameterOutOfRange (c.name ++ "." ++ method) index m.arity)
      | some p => .ok (.parameter c.name method index p.name)
  | .constructorParameter constructor index =>
    match c.constructor? constructor with
    | none => .error (.memberNotFound c.name .constructor ("#" ++ toString constructor))
    | some parameters =>
      match parameters[index]? with
      | none =>
        .error
          (.parameterOutOfRange (c.name ++ "#" ++ toString constructor) index parameters.length)
      | some p => .ok (.constructorParameter c.name index p.name)
  | .object => .ok (.object c.name)

/-- A registered check. Those that come from configurations or are derived carry no ticket. -/
structure Registered where
  ticket : Option Nat
  check : Check

namespace Registered

def untracked (checks : List Check) : List Registered := checks.map (⟨none, ·⟩)

def numbered (first : Nat) : List Check → List Registered
  | [] => []
  | check :: rest => ⟨some first, check⟩ :: numbered (first + 1) rest

def stamp (context : Context) (registered : Registered) : Registered :=
  { registered with check := registered.check.stamp context }

end Registered

/-- What the checks of a member are removed by: the tickets they were registered with, or the places
where they stand in its list, which tell those apart that carry no ticket. -/
inductive Handles where
  | tickets (given : List Nat)
  | places (standing : List Nat)

namespace Handles

instance : Coe (List Nat) Handles := ⟨tickets⟩

/-- The checks that stay when those with the handles are removed. -/
def kept (handles : Handles) (list : List Registered) : List Registered :=
  match handles with
  | tickets given => list.filter fun r => !(r.ticket.any given.contains)
  | places standing => (list.zipIdx.filter fun r => !standing.contains r.2).map (·.1)

theorem kept_tickets (given : List Nat) (list : List Registered) :
    (tickets given).kept list = list.filter fun r => !(r.ticket.any given.contains) := rfl

theorem kept_sublist (handles : Handles) (list : List Registered) :
    (handles.kept list).Sublist list := by
  cases handles with
  | tickets given => exact List.filter_sublist
  | places standing =>
    have hsub := (List.filter_sublist (p := fun r => !standing.contains r.2) (l := list.zipIdx)).map (·.1)
    rwa [List.zipIdx_map_fst] at hsub

end Handles

structure ClassChecks where
  cls : Class
  flags : Flags := {}
  lists : Table Member (List Registered) := {}
  /-- The instance fields with checks, in the order in which they got them. -/
  constrainedFields : List String := []
  constrainedStatics : List String := []
  /-- The getters whose results are checked whenever an object is validated. -/
  invariants : List String := []
  /-- The getters whose results are checked whenever the class is validated. -/
  staticInvariants : List String := []
  deriving Inhabited

namespace ClassChecks

def registered (checks : ClassChecks) (member : Member) : List Registered :=
  (checks.lists.get? member).getD []

def of (checks : ClassChecks) (member : Member) : List Check :=
  (checks.registered member).map (·.check)

/-- Adds a name at the end unless it is there. -/
def remember (name : String) (names : List String) : List String :=
  if names.contains name then names else names ++ [name]

def forget (name : String) (names : List String) : List String := names.filter (· != name)

/-- Notes that a member has checks. Results are noted for invariants only. -/
def rememberMember (checks : ClassChecks) (isInvariant : Bool) : Member → ClassChecks
  | .field name =>
    if ((checks.cls.field? name).map (·.isStatic)).getD false then
      { checks with constrainedStatics := remember name checks.constrainedStatics }
    else { checks with constrainedFields := remember name checks.constrainedFields }
  | .result method arity =>
    if !isInvariant then checks
    else if ((checks.cls.method? method arity).map (·.isStatic)).getD false then
      { checks with staticInvariants := remember method checks.staticInvariants }
    else { checks with invariants := remember method checks.invariants }
  | _ => checks

/-- Notes that a member has no checks any more. -/
def forgetMember (checks : ClassChecks) : Member → ClassChecks
  | .field name =>
    { checks with
      constrainedFields := forget name checks.constrainedFields
      constrainedStatics := forget name checks.constrainedStatics }
  | .result method 0 =>
    { checks with
      invariants := forget method checks.invariants
      staticInvariants := forget method checks.staticInvariants }
  | _ => checks

/-- What keeps the result of a method from being an invariant: its parameters. -/
def checkInvariant (checks : ClassChecks) (isInvariant : Bool) : Member → Except ConfigError Unit
  | .result method (_ + 1) =>
    if isInvariant then .error (.invariantTakesParameters checks.cls.name method) else .ok ()
  | _ => .ok ()

/-- Appends checks to those of a member, stamping them with its context. Answers the checks as they
were registered. -/
def add (checks : ClassChecks) (member : Member) (isInvariant : Bool) (added : List Registered) :
    Except ConfigError (List Registered × ClassChecks) := do
  let context ← checks.cls.place member
  checks.checkInvariant isInvariant member
  let added := added.map (·.stamp context)
  if added.isEmpty then return (added, checks)
  let lists := checks.lists.insert member (checks.registered member ++ added)
  return (added, { checks with lists }.rememberMember isInvariant member)

def clear (checks : ClassChecks) (member : Member) : ClassChecks :=
  { checks with lists := checks.lists.erase member }.forgetMember member

/-- Removes the checks with the given handles from those of a member. -/
def remove (checks : ClassChecks) (member : Member) (handles : Handles) : ClassChecks :=
  let kept := handles.kept (checks.registered member)
  if kept.isEmpty then checks.clear member
  else { checks with lists := checks.lists.insert member kept }

def clearAll (checks : ClassChecks) : ClassChecks := { cls := checks.cls }

def setFlags (checks : ClassChecks) (settings : FlagSettings) : ClassChecks :=
  { checks with flags := settings.apply checks.flags }

end ClassChecks

end ObjectConstraints
