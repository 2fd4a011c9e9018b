/-!
# Widths of integers

Which integers a number of bits holds: without a sign, with one, or in one of these two ways.
-/

namespace ObjectConstraints.Width

/-- Whether bits without a sign hold an integer. -/
def holdsNatural (bits : Nat) (n : Int) : Bool :=
  0 ≤ n && n < (Nat.pow 2 bits : Nat)

/-- Whether bits with a sign, which takes one of them, hold an integer. -/
def holdsSigned (bits : Nat) (n : Int) : Bool :=
  -(Nat.pow 2 (bits - 1) : Nat) ≤ n && n < (Nat.pow 2 (bits - 1) : Nat)

/-- Whether bits hold an integer with or without a sign. -/
def holds (bits : Nat) (n : Int) : Bool :=
  holdsNatural bits n || holdsSigned bits n

theorem holdsNatural_ofNat (bits n : Nat) :
    holdsNatural bits n = decide (n < Nat.pow 2 bits) := by
  simp only [holdsNatural, Int.natCast_nonneg, decide_true, Bool.true_and, Int.ofNat_lt]

end ObjectConstraints.Width
