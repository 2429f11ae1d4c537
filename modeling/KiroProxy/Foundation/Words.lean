import Mathlib.Algebra.Order.Ring.Int

/-!
# Signed words

Integers as a signed word of 64 bits holds them: a value that does not fit comes back modulo
2^64.
-/

namespace KiroProxy.Foundation.Words

set_option autoImplicit false

def word (number : Int) : Int := number.bmod (2 ^ 64)

theorem word_cases (number : Int) :
    (number % 2 ^ 64 < 2 ^ 63 ∧ word number = number % 2 ^ 64) ∨
      (2 ^ 63 ≤ number % 2 ^ 64 ∧ word number = number % 2 ^ 64 - 2 ^ 64) := by
  unfold word
  rw [Int.bmod_def]
  by_cases low : number % 2 ^ 64 < 2 ^ 63
  · left
    refine ⟨low, ?_⟩
    rw [if_pos (by push_cast; omega)]
    norm_cast
  · right
    refine ⟨by omega, ?_⟩
    rw [if_neg (by push_cast; omega)]
    norm_cast

theorem word_fits (number : Int) (low : -2 ^ 63 ≤ number) (high : number < 2 ^ 63) :
    word number = number := by
  rcases word_cases number with ⟨half, same⟩ | ⟨half, same⟩
  · rw [same]
    omega
  · rw [same]
    omega

/-- A sum that passes the largest word comes back as a negative number. -/
theorem word_passes (number : Int) (low : 2 ^ 63 ≤ number) (high : number < 2 ^ 64) :
    word number < 0 := by
  rcases word_cases number with ⟨half, -⟩ | ⟨-, same⟩
  · omega
  · rw [same]
    omega

theorem word_le (number : Int) (nonneg : 0 ≤ number) : word number ≤ number := by
  rcases word_cases number with ⟨-, same⟩ | ⟨-, same⟩
  · rw [same]
    omega
  · rw [same]
    omega

theorem word_mul (first second : Int) : word (first * word second) = word (first * second) :=
  Int.mul_bmod_bmod

end KiroProxy.Foundation.Words
