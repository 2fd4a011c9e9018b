import ObjectConstraints.Model.Value

/-!
# Entered objects

The objects that a run has entered. Each is entered once, so that a run over a graph with cycles
ends and no object is reported twice.
-/

namespace ObjectConstraints

/-- A set of objects, by their numbers. -/
structure Entered where
  numbers : List Nat := []
  deriving Inhabited

namespace Entered

def contains (entered : Entered) (o : Object) : Bool := entered.numbers.contains o.id

def size (entered : Entered) : Nat := entered.numbers.length

/-- Enters an object, and says whether it is entered for the first time. -/
def enter (entered : Entered) (o : Object) : Bool × Entered :=
  if entered.contains o then (false, entered) else (true, ⟨o.id :: entered.numbers⟩)

theorem contains_enter (entered : Entered) (o other : Object) :
    (entered.enter o).2.contains other = (other.id == o.id || entered.contains other) := by
  unfold enter
  split
  · next h =>
    by_cases he : other.id = o.id
    · simp_all [contains]
    · simp [he]
  · simp [contains, Bool.beq_eq_decide_eq]

theorem size_enter (entered : Entered) (o : Object) :
    (entered.enter o).2.size = entered.size + (if entered.contains o then 0 else 1) := by
  unfold enter
  split <;> simp_all [size]

end Entered

end ObjectConstraints
