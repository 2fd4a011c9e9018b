import ObjectConstraints.Failure

/-!
# Target paths

A check can look at what is found from its value along a path: names of fields and keys of maps with
points in between. Empty segments do not count, and nothing is found beyond null.
-/

namespace ObjectConstraints.TargetPath

def segments (path : String) : List String :=
  (Unicode.splitChars (· == '.') path.toList).filterMap fun segment =>
    if segment.isEmpty then none else some (String.ofList segment)

/-- The value of a key of a map, null where the map lacks it. -/
def lookUp (key : String) : List (Value × Value) → Value
  | [] => .null
  | (k, value) :: rest => if k.string? == some key then value else lookUp key rest

/-- Follows segments from a value; `path` is quoted when one leads nowhere. -/
def follow (path : String) (store : Store) : Value → List String →
    Except ValidationError (Option Value)
  | value, [] => .ok (some value)
  | value, segment :: rest =>
    match value with
    | .null => .ok none
    | .object o =>
      match o.get segment store with
      | .ok next => follow path store next rest
      | .error e => .error (.access e)
    | .map entries => follow path store (lookUp segment entries) rest
    | other => .error (.configuration (.unresolvedTarget segment path other.typeName))

def navigate (path : String) (store : Store) (value : Value) :
    Except ValidationError (Option Value) :=
  follow path store value (segments path)

theorem follow_append (path : String) (store : Store) (value : Value) (first second : List String) :
    follow path store value (first ++ second) =
      (follow path store value first).bind fun
        | some reached => follow path store reached second
        | none => .ok none := by
  induction first generalizing value with
  | nil => rfl
  | cons segment rest ih =>
    cases value with
    | object o =>
      simp only [List.cons_append, follow]
      cases o.get segment store with
      | ok next => exact ih next
      | error e => rfl
    | map entries => exact ih _
    | _ => rfl

end ObjectConstraints.TargetPath
