import Mathlib.Algebra.Order.Group.Nat
import Mathlib.Algebra.Order.Ring.Nat
import ObjectConstraints.Number.Double
import ObjectConstraints.Number.Width

/-!
# Rounding to doubles

The doubles of one power of two are equally far apart, and those of the next one are as far apart or
twice as far (`below_or_above`). So a magnitude is rounded to the nearest double, half-way cases to the
even one (`nearest_rounded`), and there is but one such double (`Nearest.unique`). An integer of 64 bits
is converted to the double nearest to it (`ofInt_nearest`).
-/

namespace ObjectConstraints.Double

variable {n m : Nat}

-- ---------------------------------------------------------------------------
-- Spacings
-- ---------------------------------------------------------------------------

theorem pow_pos (k : Nat) : 0 < Nat.pow 2 k := Nat.two_pow_pos k

theorem spacing_pos (n : Nat) : 0 < spacing n := pow_pos _

theorem spacing_zero : spacing 0 = 1 := rfl

theorem pow_log2_le (hn : n ≠ 0) : Nat.pow 2 n.log2 ≤ n := Nat.log2_self_le hn

theorem lt_pow_log2 (n : Nat) : n < Nat.pow 2 (n.log2 + 1) := Nat.lt_log2_self

/-- The doubles from one power of two to the next are equally far apart. -/
theorem spacing_eq_of_lt {k : Nat} (hlow : Nat.pow 2 k ≤ n) (hhigh : n < Nat.pow 2 (k + 1)) :
    spacing n = Nat.pow 2 (k - 52) := by
  have hn : n ≠ 0 := fun h => absurd hlow (by rw [h]; exact Nat.not_le.mpr (Nat.two_pow_pos k))
  rw [spacing, (Nat.log2_eq_iff hn).mpr ⟨hlow, hhigh⟩]

theorem spacing_dvd_spacing (h : n ≤ m) : spacing n ∣ spacing m := by
  rcases Nat.eq_zero_or_pos n with rfl | hn
  · exact ⟨spacing m, by rw [spacing_zero, one_mul]⟩
  · refine Nat.pow_dvd_pow 2 (Nat.sub_le_sub_right ?_ 52)
    exact (Nat.le_log2 (by omega)).mpr ((Nat.log2_self_le (by omega)).trans h)

theorem spacing_dvd_pow_log2 (n : Nat) : spacing n ∣ Nat.pow 2 n.log2 :=
  Nat.pow_dvd_pow 2 (Nat.sub_le n.log2 52)

theorem spacing_dvd_pow (k : Nat) : spacing (Nat.pow 2 k) ∣ Nat.pow 2 k := by
  have hlog : (Nat.pow 2 k).log2 = k := Nat.log2_two_pow
  rw [spacing, hlog]
  exact Nat.pow_dvd_pow 2 (Nat.sub_le k 52)

/-- Multiples of a spacing are representable up to the next power of two, and that as well. -/
theorem spacing_dvd_of_le {v : Nat} (hv : spacing n ∣ v) (hlow : Nat.pow 2 n.log2 ≤ v)
    (hhigh : v ≤ Nat.pow 2 (n.log2 + 1)) : spacing v ∣ v := by
  rcases Nat.lt_or_eq_of_le hhigh with hlt | rfl
  · rwa [spacing_eq_of_lt hlow hlt]
  · exact spacing_dvd_pow _

-- ---------------------------------------------------------------------------
-- Neighbours
-- ---------------------------------------------------------------------------

/-- The greatest magnitude of a double that is not above a number. -/
def below (n : Nat) : Nat := n / spacing n * spacing n

theorem below_add_rest (n : Nat) : below n + n % spacing n = n := by
  rw [below, Nat.mul_comm]
  exact Nat.div_add_mod n _

theorem rest_lt (n : Nat) : n % spacing n < spacing n := Nat.mod_lt _ (spacing_pos n)

theorem le_below_of_dvd {v : Nat} (hv : spacing n ∣ v) (h : v ≤ n) : v ≤ below n := by
  rw [← Nat.div_mul_cancel hv]
  exact Nat.mul_le_mul_right _ (Nat.div_le_div_right h)

theorem pow_log2_le_below (hn : n ≠ 0) : Nat.pow 2 n.log2 ≤ below n :=
  le_below_of_dvd (spacing_dvd_pow_log2 n) (pow_log2_le hn)

/-- No double has a magnitude between a number and the one below it. -/
theorem le_below {v : Nat} (hv : spacing v ∣ v) (h : v ≤ n) : v ≤ below n := by
  rcases Nat.eq_zero_or_pos n with rfl | hn
  · omega
  by_cases hlow : Nat.pow 2 n.log2 ≤ v
  · have hspacing : spacing v = spacing n := spacing_eq_of_lt hlow (h.trans_lt (lt_pow_log2 n))
    exact le_below_of_dvd (hspacing ▸ hv) h
  · exact (Nat.le_of_not_le hlow).trans (pow_log2_le_below (by omega))

/-- No double has a magnitude between a number and the one above it. -/
theorem above_le {v : Nat} (hv : spacing v ∣ v) (h : n < v) : below n + spacing n ≤ v := by
  have hdvd : spacing n ∣ v := (spacing_dvd_spacing h.le).trans hv
  rw [below, ← Nat.succ_mul, ← Nat.div_mul_cancel hdvd]
  exact Nat.mul_le_mul_right _ (Nat.div_lt_div_of_lt_of_dvd hdvd h)

theorem above_le_pow (n : Nat) : below n + spacing n ≤ Nat.pow 2 (n.log2 + 1) := by
  refine above_le (spacing_dvd_pow _) (lt_pow_log2 n)

theorem spacing_dvd_below (n : Nat) : spacing (below n) ∣ below n := by
  rcases Nat.eq_zero_or_pos n with rfl | hn
  · decide
  refine spacing_dvd_of_le (Nat.dvd_mul_left ..) (pow_log2_le_below (by omega)) ?_
  exact (Nat.le_add_right ..).trans (above_le_pow n)

theorem spacing_dvd_above (n : Nat) : spacing (below n + spacing n) ∣ below n + spacing n := by
  rcases Nat.eq_zero_or_pos n with rfl | hn
  · decide
  have hlow := pow_log2_le_below (n := n) (by omega)
  exact spacing_dvd_of_le (Nat.dvd_add (Nat.dvd_mul_left ..) (Nat.dvd_refl _))
    (hlow.trans (Nat.le_add_right ..)) (above_le_pow n)

theorem below_of_dvd (h : spacing n ∣ n) : below n = n := Nat.div_mul_cancel h

theorem overflow_pos : 0 < overflow := by decide +kernel

theorem representable_zero : Representable (Int.natAbs 0) := ⟨Nat.dvd_zero _, overflow_pos⟩

/-- Every double is below a number or above it. -/
theorem below_or_above {y : Int} (hy : Representable y.natAbs) (n : Nat) :
    y ≤ below n ∨ (below n : Int) + spacing n ≤ y := by
  rcases lt_or_ge (n : Int) y with hlt | hle
  · have habove := above_le hy.1 (show n < y.natAbs by omega)
    omega
  · rcases lt_or_ge y 0 with hneg | hpos
    · omega
    · have hbelow := le_below hy.1 (show y.natAbs ≤ n by omega)
      omega

-- ---------------------------------------------------------------------------
-- The nearest double
-- ---------------------------------------------------------------------------

/-- Whether a number, in units, is that of a double nearest to another number, and the even one where
another double is as near. -/
structure Nearest (target x : Int) : Prop where
  representable : Representable x.natAbs
  least : ∀ y : Int, Representable y.natAbs → (target - x).natAbs ≤ (target - y).natAbs
  even : ∀ y : Int, Representable y.natAbs → (target - y).natAbs = (target - x).natAbs → y ≠ x →
    2 * spacing x.natAbs ∣ x.natAbs

namespace Nearest

variable {target x y : Int}

theorem neg (h : Nearest target x) : Nearest (-target) (-x) where
  representable := by rw [Int.natAbs_neg]; exact h.representable
  least y hy := by
    have hleast := h.least (-y) (by rwa [Int.natAbs_neg])
    omega
  even y hy hsame hne := by
    rw [Int.natAbs_neg]
    exact h.even (-y) (by rwa [Int.natAbs_neg]) (by omega) (by omega)

/-- Of two doubles next to each other, only one is even. -/
theorem not_lt_of_nonneg (h : Nearest target x) (h' : Nearest target y) (hx : 0 ≤ x) : ¬ x < y := by
  intro hlt
  have hfar := h.least y h'.representable
  have hfar' := h'.least x h.representable
  have heven := h.even y h'.representable (by omega) (by omega)
  have heven' := h'.even x h.representable (by omega) (by omega)
  -- The double that follows the first one is not nearer than the other one.
  have hnext : y.natAbs ≤ x.natAbs + spacing x.natAbs := by
    by_contra hbetween
    have hdvd : spacing (x.natAbs + spacing x.natAbs) ∣ x.natAbs + spacing x.natAbs := by
      have habove := spacing_dvd_above x.natAbs
      rwa [below_of_dvd h.representable.1] at habove
    have hbound := h'.representable.2
    have hpos := spacing_pos x.natAbs
    have hnear := h.least (x.natAbs + spacing x.natAbs : Nat) ⟨hdvd, by omega⟩
    omega
  have hcommon : 2 * spacing x.natAbs ∣ y.natAbs :=
    (Nat.mul_dvd_mul_left 2 (spacing_dvd_spacing (by omega))).trans heven'
  have hdifference := Nat.le_of_dvd (by omega) (Nat.dvd_sub hcommon heven)
  have hpos := spacing_pos x.natAbs
  omega

theorem not_lt (h : Nearest target x) (h' : Nearest target y) : ¬ x < y := by
  intro hlt
  rcases lt_or_ge x 0 with hneg | hpos
  · rcases lt_or_ge 0 y with hpos | hneg'
    · have hleast := h.least 0 representable_zero
      have hleast' := h'.least 0 representable_zero
      omega
    · exact h'.neg.not_lt_of_nonneg h.neg (by omega) (by omega)
  · exact h.not_lt_of_nonneg h' hpos hlt

theorem unique (h : Nearest target x) (h' : Nearest target y) : x = y :=
  Int.le_antisymm (Int.not_lt.mp (h'.not_lt h)) (Int.not_lt.mp (h.not_lt h'))

end Nearest

-- ---------------------------------------------------------------------------
-- Rounding
-- ---------------------------------------------------------------------------

/-- The magnitude that a magnitude is rounded to. -/
def rounded (n : Nat) : Nat := divideRounded n (spacing n) * spacing n

theorem rounded_cases (n : Nat) :
    (2 * (n % spacing n) < spacing n ∧ rounded n = below n) ∨
      (spacing n < 2 * (n % spacing n) ∧ rounded n = below n + spacing n) ∨
      (2 * (n % spacing n) = spacing n ∧
        rounded n = (n / spacing n + n / spacing n % 2) * spacing n) := by
  unfold rounded divideRounded below
  dsimp only
  split
  · next hlow => exact .inl ⟨hlow, rfl⟩
  · split
    · next hhigh => exact .inr (.inl ⟨hhigh, Nat.succ_mul ..⟩)
    · next hlow hhigh => exact .inr (.inr ⟨by omega, rfl⟩)

/-- Rounding leads to the double below or to the one above. -/
theorem rounded_eq (n : Nat) : rounded n = below n ∨ rounded n = below n + spacing n := by
  rcases rounded_cases n with ⟨-, h⟩ | ⟨-, h⟩ | ⟨-, h⟩
  · exact .inl h
  · exact .inr h
  · rcases Nat.mod_two_eq_zero_or_one (n / spacing n) with heven | hodd
    · rw [heven, Nat.add_zero] at h
      exact .inl h
    · rw [hodd, Nat.succ_mul] at h
      exact .inr h

theorem spacing_dvd_rounded (n : Nat) : spacing (rounded n) ∣ rounded n := by
  rcases rounded_eq n with h | h <;> rw [h]
  · exact spacing_dvd_below n
  · exact spacing_dvd_above n

/-- What is half-way is rounded to the even double. -/
theorem even_rounded (h : 2 * (n % spacing n) = spacing n) :
    2 * spacing (rounded n) ∣ rounded n := by
  obtain ⟨-, hvalue⟩ : 2 * (n % spacing n) = spacing n ∧
      rounded n = (n / spacing n + n / spacing n % 2) * spacing n := by
    rcases rounded_cases n with ⟨hlow, -⟩ | ⟨hhigh, -⟩ | htie
    · omega
    · omega
    · exact htie
  have hn : n ≠ 0 := by
    rintro rfl
    rw [spacing_zero] at h
    omega
  have htwice : 2 * spacing n ∣ rounded n := by
    rw [hvalue]
    exact Nat.mul_dvd_mul (by omega) (Nat.dvd_refl _)
  have hlow : Nat.pow 2 n.log2 ≤ rounded n := by
    have hbelow := pow_log2_le_below hn
    rcases rounded_eq n with h | h <;> omega
  have hhigh : rounded n ≤ Nat.pow 2 (n.log2 + 1) := by
    have habove := above_le_pow n
    rcases rounded_eq n with h | h <;> omega
  rcases Nat.lt_or_eq_of_le hhigh with hlt | heq
  · rwa [spacing_eq_of_lt hlow hlt]
  -- The next power of two is even, as doubles have more than two significant bits.
  · have hlog : (Nat.pow 2 (n.log2 + 1)).log2 = n.log2 + 1 := Nat.log2_two_pow
    have hspacing : 2 * spacing (Nat.pow 2 (n.log2 + 1)) = Nat.pow 2 (n.log2 + 1 - 52 + 1) := by
      rw [spacing, hlog, Nat.mul_comm]
      rfl
    rw [heq, hspacing]
    exact Nat.pow_dvd_pow 2 (by omega)

/-- A magnitude is rounded to the nearest double unless there is none as great. -/
theorem nearest_rounded (h : rounded n < overflow) : Nearest n (rounded n) where
  representable := ⟨spacing_dvd_rounded n, h⟩
  least y hy := by
    have hrest := below_add_rest n
    have hlt := rest_lt n
    have hplace := below_or_above hy n
    rcases rounded_cases n with ⟨hnear, hvalue⟩ | ⟨hnear, hvalue⟩ | ⟨hnear, -⟩
    · omega
    · omega
    · rcases rounded_eq n with hvalue | hvalue <;> omega
  even y hy hsame hne := by
    have hrest := below_add_rest n
    have hlt := rest_lt n
    have hplace := below_or_above hy n
    rcases rounded_cases n with ⟨hnear, hvalue⟩ | ⟨hnear, hvalue⟩ | ⟨hnear, -⟩
    · omega
    · omega
    · exact even_rounded hnear

theorem rounded_of_dvd (h : spacing n ∣ n) : rounded n = n := by
  have hbelow := below_of_dvd h
  have hrest := below_add_rest n
  have hpos := spacing_pos n
  rcases rounded_cases n with ⟨-, hvalue⟩ | ⟨hnear, -⟩ | ⟨hnear, -⟩ <;> omega

theorem rounded_le {v : Nat} (hv : spacing v ∣ v) (h : n ≤ v) : rounded n ≤ v := by
  rcases Nat.lt_or_eq_of_le h with hlt | rfl
  · have habove := above_le hv hlt
    rcases rounded_eq n with hvalue | hvalue <;> omega
  · exact (rounded_of_dvd hv).le

-- ---------------------------------------------------------------------------
-- Integers
-- ---------------------------------------------------------------------------

theorem unit_pos : 0 < unit := by decide +kernel

theorem signed_true (units : Nat) : signed true units = -(units : Int) := rfl

theorem signed_false (units : Nat) : signed false units = units := rfl

theorem natAbs_signed (negative : Bool) (units : Nat) : (signed negative units).natAbs = units := by
  cases negative <;> simp [signed]

theorem ofInt_eq (i : Int) :
    ofInt i = if rounded (i.natAbs * unit) < overflow then .finite (i < 0) (rounded (i.natAbs * unit))
      else .infinite (i < 0) := by
  rw [ofInt, ofRatio, Nat.div_one, Nat.one_mul]
  rfl

/-- An integer of 64 bits is converted to the double nearest to it. -/
theorem ofInt_nearest {i : Int} (hi : Width.holdsSigned 64 i = true) :
    ∃ negative units, ofInt i = .finite negative units ∧ Nearest (i * unit) (signed negative units) := by
  have hbound : i.natAbs ≤ Nat.pow 2 63 := by
    simp only [Width.holdsSigned, Bool.and_eq_true, decide_eq_true_eq, Nat.reduceSub] at hi
    omega
  have hle : rounded (i.natAbs * unit) ≤ Nat.pow 2 63 * unit :=
    rounded_le (by decide +kernel) (Nat.mul_le_mul_right unit hbound)
  have hlt : rounded (i.natAbs * unit) < overflow := hle.trans_lt (by decide +kernel)
  refine ⟨i < 0, rounded (i.natAbs * unit), by rw [ofInt_eq, if_pos hlt], ?_⟩
  have hnearest := nearest_rounded hlt
  by_cases hneg : i < 0
  · have habs : ((i.natAbs * unit : Nat) : Int) = -(i * unit) := by
      rw [Int.natCast_mul, Int.ofNat_natAbs_of_nonpos (by omega), Int.neg_mul]
    rw [habs] at hnearest
    rw [decide_eq_true hneg, signed_true, ← Int.neg_neg (i * unit)]
    exact hnearest.neg
  · have habs : ((i.natAbs * unit : Nat) : Int) = i * unit := by
      rw [Int.natCast_mul, Int.natAbs_of_nonneg (by omega)]
    rw [habs] at hnearest
    rwa [decide_eq_false hneg, signed_false]

end ObjectConstraints.Double
