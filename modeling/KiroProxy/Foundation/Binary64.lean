import Mathlib.Data.Nat.Log
import Mathlib.Tactic.Ring
import Mathlib.Tactic.Linarith

/-!
# Rounding to a binary precision

A natural number that a float cannot hold is rounded to the nearest one with as many
significant bits as the float has, and to the even one of two that are equally near.
A finite `float64` is a whole number of units of 2^-1074 that rounding keeps; the bound
of its exponent is left out.
-/

namespace KiroProxy.Foundation.Binary64

set_option autoImplicit false

/-- The bits of a number beyond a precision. -/
def excess (precision number : Nat) : Nat :=
  if number < 2 ^ precision then 0 else number.log2 + 1 - precision

def roundsUp (number shift : Nat) : Bool :=
  let dropped := 2 * (number % 2 ^ shift)
  decide (2 ^ shift < dropped) ||
    (dropped == 2 ^ shift && number / 2 ^ shift % 2 == 1)

def roundTo (precision number : Nat) : Nat :=
  let shift := excess precision number
  (number / 2 ^ shift + if roundsUp number shift then 1 else 0) * 2 ^ shift

/-- What is rounded up is at least half of a unit. -/
theorem rounds_up_half (number shift : Nat) (up : roundsUp number shift = true) :
    2 ^ shift ≤ 2 * (number % 2 ^ shift) := by
  simp only [roundsUp, Bool.or_eq_true, Bool.and_eq_true, decide_eq_true_eq, beq_iff_eq] at up
  cases up with
  | inl more => exact Nat.le_of_lt more
  | inr same => exact Nat.le_of_eq same.1.symm

theorem round_le_half (precision number : Nat) :
    2 * roundTo precision number ≤ 2 * number + 2 ^ excess precision number := by
  have split := Nat.div_add_mod number (2 ^ excess precision number)
  rw [Nat.mul_comm] at split
  unfold roundTo
  simp only
  rw [Nat.add_mul]
  cases up : roundsUp number (excess precision number) with
  | true =>
      have half := rounds_up_half number _ up
      simp only [if_true, Nat.one_mul]
      omega
  | false =>
      simp only [Bool.false_eq_true, if_false, Nat.zero_mul]
      omega

/-- A number with bits beyond the precision is as large as its leading bit. -/
theorem unit_le_number (precision number : Nat) (beyond : 0 < excess precision number) :
    2 ^ excess precision number * 2 ^ precision ≤ 2 * number := by
  unfold excess at beyond ⊢
  split_ifs at beyond ⊢ with short
  · exact absurd beyond (Nat.lt_irrefl 0)
  · have positive : number ≠ 0 := by
      intro zero
      rw [zero] at short
      exact short (Nat.two_pow_pos precision)
    have leading := Nat.log2_self_le positive
    have exponent : number.log2 + 1 - precision + precision = number.log2 + 1 := by
      omega
    rw [← Nat.pow_add, exponent, Nat.pow_succ]
    omega

/-- Rounding errs by half a unit of the last place. -/
theorem round_error (precision number : Nat) :
    roundTo precision number * 2 ^ precision ≤ number * (2 ^ precision + 1) := by
  by_cases beyond : 0 < excess precision number
  · have half := round_le_half precision number
    have unit := unit_le_number precision number beyond
    have scaled := Nat.mul_le_mul_right (2 ^ precision) half
    nlinarith
  · have exact_ : excess precision number = 0 := Nat.eq_zero_of_not_pos beyond
    have kept : roundTo precision number = number := by
      simp [roundTo, exact_, roundsUp, Nat.mod_one]
    rw [kept]
    exact Nat.mul_le_mul_left number (Nat.le_succ _)

/-- Rounding keeps at least half of a number. -/
theorem half_le_round (precision number : Nat) (wide : 2 ≤ precision) :
    number ≤ 2 * roundTo precision number := by
  have split := Nat.div_add_mod number (2 ^ excess precision number)
  have below := Nat.mod_lt number (Nat.two_pow_pos (excess precision number))
  rw [Nat.mul_comm] at split
  have kept : number / 2 ^ excess precision number * 2 ^ excess precision number ≤
      roundTo precision number := Nat.mul_le_mul_right _ (Nat.le_add_right _ _)
  by_cases beyond : 0 < excess precision number
  · have unit := unit_le_number precision number beyond
    have four : 2 ^ 2 ≤ 2 ^ precision := Nat.pow_le_pow_right (by decide) wide
    have scaled := Nat.mul_le_mul_left (2 ^ excess precision number) four
    omega
  · rw [Nat.eq_zero_of_not_pos beyond] at kept below split
    omega

section Floats

theorem rounds_multiple (precision number : Nat) (whole : 2 ^ excess precision number ∣ number) :
    roundTo precision number = number := by
  have rest : number % 2 ^ excess precision number = 0 := Nat.mod_eq_zero_of_dvd whole
  have positive := Nat.two_pow_pos (excess precision number)
  have down : roundsUp number (excess precision number) = false := by
    simp [roundsUp, rest, (Nat.ne_of_lt positive)]
  simp only [roundTo, down, Bool.false_eq_true, if_false, Nat.add_zero]
  exact Nat.div_mul_cancel whole

/-- Rounding again changes nothing: what it made has no bits beyond the precision. -/
theorem round_round (precision number : Nat) (wide : 1 ≤ precision) :
    roundTo precision (roundTo precision number) = roundTo precision number := by
  apply rounds_multiple
  have shown : ∃ digits shift, roundTo precision number = digits * 2 ^ shift ∧
      digits ≤ 2 ^ precision := by
    refine ⟨_, excess precision number, rfl, ?_⟩
    have below : number / 2 ^ excess precision number < 2 ^ precision := by
      apply (Nat.div_lt_iff_lt_mul (Nat.two_pow_pos _)).mpr
      unfold excess
      split_ifs with short
      · simpa using short
      · refine Nat.lt_of_lt_of_le (Nat.lt_log2_self (n := number)) ?_
        rw [← Nat.pow_add]
        exact Nat.pow_le_pow_right (by decide) (by omega)
    split_ifs <;> omega
  obtain ⟨digits, shift, same, bound⟩ := shown
  rw [same]
  generalize exponent : excess precision (digits * 2 ^ shift) = beyond
  by_cases within : beyond ≤ shift
  · exact (Nat.pow_dvd_pow 2 within).mul_left digits
  · have whole : 2 ^ (precision + shift) ≤ digits * 2 ^ shift := by
      unfold excess at exponent
      split_ifs at exponent with short
      · omega
      · have positive : digits * 2 ^ shift ≠ 0 := by
          intro zero
          rw [zero] at short
          exact short (Nat.two_pow_pos precision)
        exact (Nat.pow_le_pow_right (by decide) (by omega)).trans (Nat.log2_self_le positive)
    have full : digits * 2 ^ shift = 2 ^ (precision + shift) := by
      apply Nat.le_antisymm _ whole
      rw [Nat.pow_add]
      exact Nat.mul_le_mul_right _ bound
    rw [full] at exponent ⊢
    apply Nat.pow_dvd_pow
    unfold excess at exponent
    rw [Nat.log2_two_pow] at exponent
    split_ifs at exponent <;> omega

/-- A finite `float64`, in units of 2^-1074. -/
@[ext] structure Float64 where
  units : Int
  held : roundTo 53 units.natAbs = units.natAbs
  deriving DecidableEq

/-- The float nearest to a number of units. -/
def nearest (units : Int) : Float64 where
  units := if units < 0 then -(roundTo 53 units.natAbs : Int) else roundTo 53 units.natAbs
  held := by
    split_ifs
    · rw [Int.natAbs_neg, Int.natAbs_natCast]
      exact round_round 53 _ (by decide)
    · rw [Int.natAbs_natCast]
      exact round_round 53 _ (by decide)

theorem nearest_units (float : Float64) : nearest float.units = float := by
  apply Float64.ext
  simp only [nearest, float.held]
  omega

theorem nearest_nonneg (units : Int) (nonneg : 0 ≤ units) : 0 ≤ (nearest units).units := by
  simp only [nearest, if_neg (Int.not_lt.mpr nonneg)]
  exact Int.natCast_nonneg _

end Floats

end KiroProxy.Foundation.Binary64
