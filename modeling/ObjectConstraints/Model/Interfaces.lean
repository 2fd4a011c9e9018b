import ObjectConstraints.Model.Class

/-!
# Interfaces of a class

The interfaces that a class implements, directly or because others extend them, in the order in
which a depth-first walk along the declarations meets them, each once.
-/

namespace ObjectConstraints.Class

mutual

/-- The number of classes in the tree of a class and its interfaces. -/
def weight : Class → Nat
  | ⟨_, _, _, interfaces, _, _, _, _⟩ => 1 + totalWeight interfaces

def totalWeight : List Class → Nat
  | [] => 0
  | c :: rest => weight c + totalWeight rest

end

theorem weight_eq (c : Class) : c.weight = 1 + totalWeight c.interfaces := by
  cases c
  simp [weight]

theorem totalWeight_append (first second : List Class) :
    totalWeight (first ++ second) = totalWeight first + totalWeight second := by
  induction first with
  | nil => simp [totalWeight]
  | cons c rest ih =>
    simp only [List.cons_append, totalWeight, ih]
    omega

/-- Walks through pending interfaces. One that is new is noted, and those it extends come before the
others that are pending. -/
def walkInterfaces (found : List Class) : List Class → List Class
  | [] => found
  | c :: pending =>
    if found.any (·.id == c.id) then walkInterfaces found pending
    else walkInterfaces (found ++ [c]) (c.interfaces ++ pending)
  termination_by pending => totalWeight pending
  decreasing_by
    · simp only [totalWeight, weight_eq]; omega
    · simp only [totalWeight, totalWeight_append, weight_eq c]; omega

/-- All interfaces of a class. -/
def allInterfaces (c : Class) : List Class := walkInterfaces [] c.interfaces

end ObjectConstraints.Class
