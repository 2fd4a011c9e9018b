import ObjectConstraints.Pattern.Classes

/-!
# Sizes of regular expressions

How many bytes the states of a matcher would take that writes every repetition out and reads texts in
UTF-8, from the last byte of a character to the first. Expressions that are too large are refused.
-/

namespace ObjectConstraints.Pattern

open Unicode (CodeRange CodeSet)

/-- The bytes that the states of an expression may take, ten mebibytes. -/
def maxSize : Nat := 10 * 1024 * 1024

/-- The bytes of a state, of a transition where a state has several, and of a branch of a fork. -/
def stateSize : Nat := 32
def transitionSize : Nat := 8
def branchSize : Nat := 4

-- ---------------------------------------------------------------------------
-- Sets of characters
-- ---------------------------------------------------------------------------

/-- The ways to read a range of numbers unit by unit, where units of six bits follow the first one: each
a range for every unit. -/
def unitPaths : Nat → CodeRange → List (List CodeRange)
  | 0, range => [[range]]
  | units + 1, ⟨first, last⟩ =>
    let span := Nat.pow 64 (units + 1)
    let within (unit low high : Nat) := (unitPaths units ⟨low, high⟩).map (⟨unit, unit⟩ :: ·)
    let front := first / span
    let back := last / span
    if front = back then within front (first % span) (last % span)
    else
      -- Between the first unit and the last one, and with these where all of what follows them is in
      -- the range, what follows is the same for each unit.
      let low := if first % span = 0 then front else front + 1
      let high := if last % span + 1 = span then back + 1 else back
      let whole := List.replicate (units + 1) ⟨0, 63⟩
      (if front < low then within front (first % span) (span - 1) else []) ++
        (if low < high then [⟨low, high - 1⟩ :: whole] else []) ++
        (if high ≤ back then within back 0 (last % span) else [])

/-- The code points that are encoded in the same number of bytes, with how many follow the first. -/
def encodings : List (Nat × CodeRange) :=
  [(0, ⟨0, 0x7f⟩), (1, ⟨0x80, 0x7ff⟩), (2, ⟨0x800, 0xd7ff⟩), (2, ⟨0xe000, 0xffff⟩),
   (3, ⟨0x10000, 0x10ffff⟩)]

/-- The ways to read the encodings of the members of a set, by number of bytes. -/
def bytePaths (set : CodeSet) : List (List (List CodeRange)) :=
  encodings.map fun (units, encoded) => set.runs.flatMap fun run =>
    let first := max run.first encoded.first
    let last := min run.last encoded.last
    if first ≤ last then unitPaths units ⟨first, last⟩ else []

def commonLength : List CodeRange → List CodeRange → Nat
  | r :: rest, s :: others => if r = s then commonLength rest others + 1 else 0
  | _, _ => 0

/-- The states for paths in ascending order, which share those for what they have in common. -/
def pathStates (previous : List CodeRange) : List (List CodeRange) → Nat
  | [] => 0
  | path :: paths => path.length - commonLength previous path + pathStates path paths

/-- The size of what reads one character of a set. A set of one member is its bytes, one of ASCII has a
transition for each run, and any other one forks. -/
def setSize (set : CodeSet) : Nat :=
  let paths := bytePaths set
  let states := paths.foldl (fun count group => count + pathStates [] group) 0
  match set.runs with
  | [] => stateSize
  | [⟨first, last⟩] =>
    if first = last then states * stateSize
    else if last < 128 then 2 * stateSize
    else (states + 2) * stateSize + paths.flatten.length * branchSize
  | runs =>
    if runs.all (·.last < 128) then 2 * stateSize + runs.length * transitionSize
    else (states + 2) * stateSize + paths.flatten.length * branchSize

-- ---------------------------------------------------------------------------
-- Expressions
-- ---------------------------------------------------------------------------

/-- The size of a repetition. Before each optional round there is a fork. -/
def repeatedSize (least : Nat) (most : Option Nat) (body : Nat) : Nat :=
  let fork := stateSize + 2 * branchSize
  match most with
  | some most => max stateSize (least * body) + (most - least) * (body + fork)
  | none => max 1 least * body + fork

mutual

/-- The size of an expression under the flags in force, and the flags in force after it. -/
def Expression.sizeIn (modes : Modes) : Expression → Nat × Modes
  | .empty | .assertion _ => (stateSize, modes)
  | .flags settings => (stateSize, modes.set settings)
  | .repetition least most body =>
    let (size, modes) := body.sizeIn modes
    (repeatedSize least most size, modes)
  | .group settings body =>
    let captures := if settings.isNone then 2 * stateSize else 0
    ((body.sizeIn (modes.set (settings.getD []))).1 + captures, modes)
  | .alternation branches =>
    let (size, modes) := Expression.sizesIn modes branches
    (size + 2 * stateSize + branches.length * branchSize, modes)
  | .concat parts => Expression.sizesIn modes parts
  | expression => (((expression.set? modes).map setSize).getD 0, modes)

def Expression.sizesIn (modes : Modes) : List Expression → Nat × Modes
  | [] => (0, modes)
  | part :: parts =>
    let (first, modes) := part.sizeIn modes
    let (others, modes) := Expression.sizesIn modes parts
    (first + others, modes)

end

def Expression.size (expression : Expression) : Nat := (expression.sizeIn {}).1

end ObjectConstraints.Pattern
