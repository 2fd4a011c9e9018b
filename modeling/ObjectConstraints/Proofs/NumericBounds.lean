import ObjectConstraints.Proofs.Rounding
import ObjectConstraints.Satisfaction

/-!
# Numeric bounds

An integer is compared with the bounds of a check as the double nearest to it. So a bound that is an
integer itself admits the integers on its side, and those beyond it that are rounded to it
(`Check.isSatisfied_int`). The latter are no doubles, which all integers up to 2^53 are.
-/

namespace ObjectConstraints

namespace Double

/-- Whether a double is a certain integer. -/
def IsInteger (x : Double) (a : Int) : Prop :=
  ∃ negative units, x = .finite negative units ∧ Representable units ∧
    signed negative units = a * unit

/-- Whether an integer is rounded to another one, which then is the double nearest to it. -/
def RoundsTo (i a : Int) : Prop := Nearest (i * unit) (a * unit)

namespace Nearest

variable {target x y : Int}

/-- A double is not above the nearest one if it is not above the number, or is the nearest one. -/
theorem le_iff (h : Nearest target x) (hy : Representable y.natAbs) :
    y ≤ x ↔ y ≤ target ∨ Nearest target y := by
  have hleast := h.least y hy
  constructor
  · intro hle
    by_cases htarget : y ≤ target
    · exact .inl htarget
    · obtain rfl : y = x := by omega
      exact .inr h
  · rintro (hle | hnearest)
    · omega
    · exact (hnearest.unique h).le

theorem ge_iff (h : Nearest target x) (hy : Representable y.natAbs) :
    x ≤ y ↔ target ≤ y ∨ Nearest target y := by
  have hleast := h.least y hy
  constructor
  · intro hle
    by_cases htarget : target ≤ y
    · exact .inl htarget
    · obtain rfl : y = x := by omega
      exact .inr h
  · rintro (hle | hnearest)
    · omega
    · exact (h.unique hnearest).le

theorem self (h : Representable target.natAbs) : Nearest target target where
  representable := h
  least y _ := by simp
  even y _ hsame hne := by omega

end Nearest

variable {i a : Int} {bound : Double}

theorem scaled_le_scaled : a * unit ≤ i * unit ↔ a ≤ i :=
  Int.mul_le_mul_right (Int.natCast_pos.mpr unit_pos)

theorem IsInteger.representable (h : bound.IsInteger a) : Representable (a * unit).natAbs := by
  obtain ⟨negative, units, -, hunits, ha⟩ := h
  rwa [← ha, natAbs_signed]

theorem le_ofInt (hi : Width.holdsSigned 64 i = true) (h : bound.IsInteger a) :
    bound.le (ofInt i) = true ↔ a ≤ i ∨ RoundsTo i a := by
  have hrepresentable := h.representable
  obtain ⟨negative, units, rfl, -, ha⟩ := h
  obtain ⟨negative', units', hvalue, hnearest⟩ := ofInt_nearest hi
  rw [hvalue, le, decide_eq_true_eq, ha, hnearest.le_iff hrepresentable, scaled_le_scaled, RoundsTo]

theorem ofInt_le (hi : Width.holdsSigned 64 i = true) (h : bound.IsInteger a) :
    (ofInt i).le bound = true ↔ i ≤ a ∨ RoundsTo i a := by
  have hrepresentable := h.representable
  obtain ⟨negative, units, rfl, -, ha⟩ := h
  obtain ⟨negative', units', hvalue, hnearest⟩ := ofInt_nearest hi
  rw [hvalue, le, decide_eq_true_eq, ha, hnearest.ge_iff hrepresentable, scaled_le_scaled, RoundsTo]

/-- An integer that is a double is converted to that one. -/
theorem isInteger_ofInt (hi : Width.holdsSigned 64 i = true)
    (h : Representable (i * unit).natAbs) : (ofInt i).IsInteger i := by
  obtain ⟨negative, units, hvalue, hnearest⟩ := ofInt_nearest hi
  have hrepresentable := hnearest.representable
  rw [natAbs_signed] at hrepresentable
  exact ⟨negative, units, hvalue, hrepresentable, hnearest.unique (.self h)⟩

/-- The integers up to 2^53 are doubles. -/
theorem representable_of_le (h : i.natAbs ≤ Nat.pow 2 53) : Representable (i * unit).natAbs := by
  have habs : (i * unit).natAbs = i.natAbs * unit := by rw [Int.natAbs_mul, Int.natAbs_natCast]
  rw [habs]
  refine ⟨?_, (Nat.mul_le_mul_right unit h).trans_lt (by decide +kernel)⟩
  rcases Nat.lt_or_eq_of_le h with hlt | heq
  · have hbelow : i.natAbs * unit ≤ Nat.pow 2 53 * unit - 1 :=
      Nat.le_sub_one_of_lt (Nat.mul_lt_mul_of_pos_right hlt unit_pos)
    have hspacing : spacing (Nat.pow 2 53 * unit - 1) = unit := by decide +kernel
    have hdvd := spacing_dvd_spacing hbelow
    rw [hspacing] at hdvd
    exact hdvd.trans (Nat.dvd_mul_left ..)
  · rw [heq]
    decide +kernel

theorem roundsTo_iff_of_le (h : i.natAbs ≤ Nat.pow 2 53) : RoundsTo i a ↔ a = i := by
  have hself : RoundsTo i i := Nearest.self (representable_of_le h)
  constructor
  · intro hrounds
    have hsame := hrounds.unique hself
    exact Int.eq_of_mul_eq_mul_right (Int.natCast_pos.mpr unit_pos).ne' hsame
  · rintro rfl
    exact hself

end Double

open Double

/-- A value that is a number is compared with the bounds as that number. -/
theorem Check.isSatisfied_number (check : Check) {value : Value} {x : Double} (h : value.number? = some x)
    (low high : Double) (languages : Languages) (now : Instant) (owner : Option Object)
    (context : Context) (store : Store) :
    { check with kind := .min low }.isSatisfied languages now owner value context store =
        .ok (low.le x) ∧
      { check with kind := .max high }.isSatisfied languages now owner value context store =
        .ok (x.le high) ∧
      { check with kind := .range low high }.isSatisfied languages now owner value context store =
        .ok (low.le x && x.le high) := by
  have hnull : value.isNull = false := by
    cases value with
    | null => cases h
    | _ => rfl
  refine ⟨?_, ?_, ?_⟩ <;> simp only [isSatisfied, hnull, Value.meets, h, Option.any_some, Bool.false_or]

open Classical in
/-- Whether an integer of 64 bits satisfies numeric bounds that are integers themselves: it does if the
bound admits it, or is what it is rounded to. Up to 2^53 nothing is rounded to another integer. -/
theorem Check.isSatisfied_int {i a b : Int} {low high : Double} (hi : Width.holdsSigned 64 i = true)
    (hlow : low.IsInteger a) (hhigh : high.IsInteger b) (check : Check) (languages : Languages)
    (now : Instant) (owner : Option Object) (context : Context) (store : Store) :
    { check with kind := .min low }.isSatisfied languages now owner (.int i) context store =
        .ok (decide (a ≤ i ∨ RoundsTo i a)) ∧
      { check with kind := .max high }.isSatisfied languages now owner (.int i) context store =
        .ok (decide (i ≤ b ∨ RoundsTo i b)) ∧
      { check with kind := .range low high }.isSatisfied languages now owner (.int i) context store =
        .ok (decide ((a ≤ i ∨ RoundsTo i a) ∧ (i ≤ b ∨ RoundsTo i b))) ∧
      (i.natAbs ≤ Nat.pow 2 53 → ∀ c, RoundsTo i c ↔ c = i) := by
  have hmin : low.le (ofInt i) = decide (a ≤ i ∨ RoundsTo i a) :=
    Bool.eq_iff_iff.mpr ((le_ofInt hi hlow).trans decide_eq_true_iff.symm)
  have hmax : (ofInt i).le high = decide (i ≤ b ∨ RoundsTo i b) :=
    Bool.eq_iff_iff.mpr ((ofInt_le hi hhigh).trans decide_eq_true_iff.symm)
  have hnumber : (Value.int i).number? = some (ofInt i) := rfl
  obtain ⟨hlower, hupper, hboth⟩ :=
    check.isSatisfied_number hnumber low high languages now owner context store
  rw [hlower, hupper, hboth, hmin, hmax, Bool.decide_and]
  exact ⟨rfl, rfl, rfl, fun h c => roundsTo_iff_of_le h⟩

/-- The integer after 2^53 is half-way between two doubles, of which 2^53 is even. -/
theorem Check.isSatisfied_int_halfway :
    Width.holdsSigned 64 9007199254740993 = true ∧
      (ofInt 9007199254740992).IsInteger 9007199254740992 ∧
      (open Classical in
        ({ kind := .max (ofInt 9007199254740992) } : Check).isSatisfied {} ⟨0, 0⟩ none
          (.int 9007199254740993) (.field "Account" "balance") {} =
            .ok (decide ((9007199254740993 : Int) ≤ 9007199254740992 ∨
              RoundsTo 9007199254740993 9007199254740992))) ∧
      ∀ c, RoundsTo 9007199254740992 c ↔ c = 9007199254740992 := by
  have hwide : Width.holdsSigned 64 9007199254740993 = true := by decide
  have hbound : (ofInt 9007199254740992).IsInteger 9007199254740992 :=
    isInteger_ofInt (by decide) (by decide +kernel)
  refine ⟨hwide, hbound, ?_, ?_⟩
  · exact (Check.isSatisfied_int hwide hbound hbound { kind := .notNull } {} ⟨0, 0⟩ none
      (.field "Account" "balance") {}).2.1
  · exact (Check.isSatisfied_int (by decide) hbound hbound { kind := .notNull } {} ⟨0, 0⟩ none
      (.field "Account" "balance") {}).2.2.2 (by decide)

/-- Bounds are met by integers beyond them: a minimum by the integer before it, a maximum by the integer
after it, and so is a range of that maximum only. -/
theorem Check.isSatisfied_int_beyond :
    (Width.holdsSigned 64 9007199254740995 = true ∧
      (ofInt 9007199254740996).IsInteger 9007199254740996 ∧
      ({ kind := .min (ofInt 9007199254740996) } : Check).isSatisfied {} ⟨0, 0⟩ none
        (.int 9007199254740995) (.field "Account" "balance") {} = .ok true ∧
      ¬ (9007199254740996 : Int) ≤ 9007199254740995) ∧
    Width.holdsSigned 64 9007199254740993 = true ∧
      (ofInt 9007199254740992).IsInteger 9007199254740992 ∧
      ({ kind := .max (ofInt 9007199254740992) } : Check).isSatisfied {} ⟨0, 0⟩ none
        (.int 9007199254740993) (.field "Account" "balance") {} = .ok true ∧
      ({ kind := .range (ofInt 9007199254740992) (ofInt 9007199254740992) } : Check).isSatisfied {} ⟨0, 0⟩
        none (.int 9007199254740993) (.field "Account" "balance") {} = .ok true ∧
      ¬ (9007199254740993 : Int) ≤ 9007199254740992 := by
  have hlower : (ofInt 9007199254740996).le (ofInt 9007199254740995) = true := by decide +kernel
  have hupper : (ofInt 9007199254740993).le (ofInt 9007199254740992) = true := by decide +kernel
  have hordered : (ofInt 9007199254740992).le (ofInt 9007199254740993) = true := by decide +kernel
  have hnumber (i : Int) : (Value.int i).number? = some (ofInt i) := rfl
  have htested (i : Int) (low high : Double) := Check.isSatisfied_number { kind := .notNull } (hnumber i)
    low high {} ⟨0, 0⟩ none (.field "Account" "balance") {}
  refine ⟨⟨by decide, isInteger_ofInt (by decide) (by decide +kernel), ?_, by decide⟩,
    by decide, isInteger_ofInt (by decide) (by decide +kernel), ?_, ?_, by decide⟩
  · rw [(htested _ _ (ofInt 9007199254740996)).1, hlower]
  · rw [(htested _ (ofInt 9007199254740992) _).2.1, hupper]
  · rw [(htested _ _ _).2.2, hordered, hupper]
    rfl

end ObjectConstraints
