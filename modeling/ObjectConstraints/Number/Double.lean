/-!
# Double-precision numbers

A finite double is a sign and a magnitude, counted in units of 2^-1074, the smallest positive
double. In that unit every finite double is an integer, so comparisons are comparisons of integers
and rounding is division. The only arithmetic is conversion: the library compares doubles, reads
them and writes them.
-/

namespace ObjectConstraints

inductive Double where
  | nan
  | infinite (negative : Bool)
  | finite (negative : Bool) (units : Nat)
  deriving Repr, DecidableEq, Inhabited

namespace Double

/-- The number of units in one. -/
def unit : Nat := Nat.pow 2 1074

/-- The least magnitude, in units, that rounds to infinity instead of a finite double. -/
def overflow : Nat := Nat.pow 2 2098

/-- The distance, in units, between neighbouring doubles at a magnitude: doubles have 53
significant bits. -/
def spacing (units : Nat) : Nat := Nat.pow 2 (units.log2 - 52)

/-- The magnitudes that doubles have. -/
def Representable (units : Nat) : Prop :=
  spacing units ∣ units ∧ units < overflow

instance (units : Nat) : Decidable (Representable units) :=
  inferInstanceAs (Decidable (_ ∧ _))

/-- The quotient rounded to the nearest integer, a half to the even one. -/
def divideRounded (numerator denominator : Nat) : Nat :=
  let quotient := numerator / denominator
  let twice := 2 * (numerator % denominator)
  if twice < denominator then quotient
  else if denominator < twice then quotient + 1
  else quotient + quotient % 2

/-- The double nearest to a ratio of units, half-way cases to the even neighbour. -/
def ofRatio (negative : Bool) (numerator denominator : Nat) : Double :=
  let step := spacing (numerator / denominator)
  let units := divideRounded numerator (denominator * step) * step
  if units < overflow then .finite negative units else .infinite negative

def ofInt (n : Int) : Double :=
  ofRatio (n < 0) (n.natAbs * unit) 1

/-- The double nearest to a decimal, `digits * 10 ^ exponent`. Exponents out of range of every
double are decided without computing the power. -/
def ofDecimal (negative : Bool) (digits : Nat) (exponent : Int) : Double :=
  if digits = 0 then .finite negative 0
  else
    let magnitude := (digits.log2 : Int) * 30103 / 100000 + exponent
    if 400 < magnitude then .infinite negative
    else if magnitude < -400 then .finite negative 0
    else if 0 ≤ exponent then ofRatio negative (digits * Nat.pow 10 exponent.toNat * unit) 1
    else ofRatio negative (digits * unit) (Nat.pow 10 (-exponent).toNat)

/-- The signed count of units of a finite double. -/
def signed (negative : Bool) (units : Nat) : Int :=
  if negative then -(units : Int) else units

/-- Numerical order; nothing is below or above a NaN. -/
def le : Double → Double → Bool
  | .nan, _ | _, .nan => false
  | .infinite true, _ => true
  | _, .infinite false => true
  | .infinite false, _ => false
  | _, .infinite true => false
  | .finite s u, .finite t v => signed s u ≤ signed t v

/-- Numerical equality: the two zeros are equal and a NaN differs from itself. -/
def equals (x y : Double) : Bool :=
  x.le y && y.le x

def isFinite : Double → Bool
  | .finite .. => true
  | _ => false

theorem equals_nan (x : Double) : x.equals .nan = false := by
  cases x <;> simp [equals, le]

theorem equals_zeros : (finite false 0).equals (finite true 0) = true := by decide

end Double

end ObjectConstraints
