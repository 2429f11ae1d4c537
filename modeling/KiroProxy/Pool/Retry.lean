import KiroProxy.Foundation.Words
import Mathlib.Tactic.Linarith

/-!
# Retry delays

`CalculateBackoff` of `pool/retry.go`: the base delay doubles with every attempt up to a cap and is
jittered. The shift and the product are signed words, and the cap comes after them.
-/

namespace KiroProxy.Retry

open Foundation.Words

set_option autoImplicit false

/-- The delays of a `RetryConfig`, in nanoseconds. -/
structure RetryConfig where
  baseDelay : Int
  maxDelay : Int

def defaultRetryConfig : RetryConfig := ⟨100 * 1000000, 5 * 1000000000⟩

/-- What `math/rand` draws; `up` is `rand.Intn(2) == 0`. -/
structure Draws where
  int63n : Int → Int
  int63n_range : ∀ bound, 0 < bound → 0 ≤ int63n bound ∧ int63n bound < bound
  up : Bool

section Backoff

variable (config : RetryConfig) (draws : Draws)

def calculateBackoff (attempt : Int) : Int :=
  let attempt := if attempt < 0 then 0 else attempt
  let delay := word (config.baseDelay * word (2 ^ attempt.toNat))
  let delay := min delay config.maxDelay
  if delay ≤ 0 then 0
  else
    let jitterRange := delay / 2
    if jitterRange ≤ 0 then delay
    else
      let jitter := draws.int63n jitterRange
      let delay := if draws.up then word (delay + jitter) else word (delay - jitter)
      if delay < 0 then 0 else delay

/-- The delay before its jitter. -/
def cappedDelay (attempt : Int) : Int :=
  min (word (config.baseDelay * 2 ^ attempt.toNat)) config.maxDelay

/-- What `cappedDelay` stands for: the doubled delay, computed without wrap-around. -/
def exactDelay (attempt : Int) : Int :=
  min (config.baseDelay * 2 ^ attempt.toNat) config.maxDelay

/-- The largest jitter of a delay. -/
def widest (delay : Int) : Int := max (delay / 2 - 1) 0

theorem clamped_attempt (attempt : Int) :
    (if attempt < 0 then 0 else attempt).toNat = attempt.toNat := by
  split_ifs
  · omega
  · rfl

theorem backoff_stopped (attempt : Int) (stopped : cappedDelay config attempt ≤ 0) :
    calculateBackoff config draws attempt = 0 := by
  unfold calculateBackoff
  simp only [clamped_attempt, word_mul]
  exact if_pos stopped

/-- A jittered delay is a word around the capped one. -/
theorem backoff_jittered (attempt : Int) (runs : 0 < cappedDelay config attempt)
    (high : cappedDelay config attempt < 2 ^ 63) :
    ∃ shift, -widest (cappedDelay config attempt) ≤ shift ∧
      shift ≤ widest (cappedDelay config attempt) ∧
      calculateBackoff config draws attempt =
        if word (cappedDelay config attempt + shift) < 0 then 0
        else word (cappedDelay config attempt + shift) := by
  unfold calculateBackoff
  simp only [clamped_attempt, word_mul]
  change ∃ shift, _ ∧ _ ∧ (if cappedDelay config attempt ≤ 0 then _ else _) = _
  rw [if_neg (Int.not_le.mpr runs)]
  change ∃ shift, _ ∧ _ ∧ (if cappedDelay config attempt / 2 ≤ 0 then
    cappedDelay config attempt else _) = _
  by_cases still : cappedDelay config attempt / 2 ≤ 0
  · have whole := word_fits (cappedDelay config attempt) (by omega) high
    refine ⟨0, by unfold widest; omega, by unfold widest; omega, ?_⟩
    rw [if_pos still, Int.add_zero, whole, if_neg (by omega)]
  · have drawn := draws.int63n_range (cappedDelay config attempt / 2) (by omega)
    rw [if_neg still]
    by_cases up : draws.up = true
    · refine ⟨draws.int63n (cappedDelay config attempt / 2), by unfold widest; omega,
        by unfold widest; omega, ?_⟩
      simp only [if_pos up]
      rfl
    · refine ⟨-draws.int63n (cappedDelay config attempt / 2), by unfold widest; omega,
        by unfold widest; omega, ?_⟩
      simp only [if_neg up]
      rfl

end Backoff

section Range

variable (config : RetryConfig) (attempt : Int)

/-- Delays that are not negative; the cap is a word. -/
structure Durations : Prop where
  base : 0 ≤ config.baseDelay
  cap : 0 ≤ config.maxDelay
  capWord : config.maxDelay < 2 ^ 63

/-- Half of a delay up to one and a half times it. -/
def Around (exact delay : Int) : Prop := exact ≤ 2 * delay ∧ 2 * delay ≤ 3 * exact

def StaysInRange : Prop :=
  ∀ draws, Around (exactDelay config attempt) (calculateBackoff config draws attempt)

/-- Nothing is to be waited for, or the product of the words is positive, its largest jitter
passes no word, and takes it no further down than half of the exact delay. -/
def WordsSuffice : Prop :=
  exactDelay config attempt = 0 ∨
    0 < cappedDelay config attempt ∧
      cappedDelay config attempt + widest (cappedDelay config attempt) < 2 ^ 63 ∧
      exactDelay config attempt ≤
        2 * (cappedDelay config attempt - widest (cappedDelay config attempt))

variable {config attempt}

theorem capped_high (durations : Durations config) : cappedDelay config attempt < 2 ^ 63 :=
  Int.lt_of_le_of_lt (Int.min_le_right _ _) durations.capWord

theorem product_nonneg (durations : Durations config) :
    0 ≤ config.baseDelay * 2 ^ attempt.toNat :=
  Int.mul_nonneg durations.base (by positivity)

theorem exact_nonneg (durations : Durations config) : 0 ≤ exactDelay config attempt :=
  le_min (product_nonneg durations) durations.cap

theorem capped_le_exact (durations : Durations config) :
    cappedDelay config attempt ≤ exactDelay config attempt := by
  have wrapped := word_le (config.baseDelay * 2 ^ attempt.toNat) (product_nonneg durations)
  unfold cappedDelay exactDelay
  omega

/-- An exact delay of 0 is a factor of 0 or a cap of 0. -/
theorem exact_zero_stops (durations : Durations config) (none_ : exactDelay config attempt = 0) :
    cappedDelay config attempt ≤ 0 :=
  none_ ▸ capped_le_exact durations

/-- Draws that take the whole jitter. -/
def widestDraws (up : Bool) : Draws where
  int63n := fun bound => bound - 1
  int63n_range := by
    intro bound some_
    omega
  up := up

theorem widest_backoff (up : Bool) (durations : Durations config)
    (runs : 0 < cappedDelay config attempt) :
    calculateBackoff config (widestDraws up) attempt =
      if word (cappedDelay config attempt +
          if up then widest (cappedDelay config attempt)
          else -widest (cappedDelay config attempt)) < 0 then 0
      else word (cappedDelay config attempt +
        if up then widest (cappedDelay config attempt)
        else -widest (cappedDelay config attempt)) := by
  unfold calculateBackoff
  simp only [clamped_attempt, word_mul]
  change (if cappedDelay config attempt ≤ 0 then _ else _) = _
  rw [if_neg (Int.not_le.mpr runs)]
  change (if cappedDelay config attempt / 2 ≤ 0 then cappedDelay config attempt else _) = _
  have high := @capped_high config attempt durations
  by_cases still : cappedDelay config attempt / 2 ≤ 0
  · have none_ : widest (cappedDelay config attempt) = 0 := by unfold widest; omega
    have whole := word_fits (cappedDelay config attempt) (by omega) high
    rw [if_pos still, none_, Int.neg_zero, ite_self, Int.add_zero, whole, if_neg (by omega)]
  · have whole : widest (cappedDelay config attempt) = cappedDelay config attempt / 2 - 1 := by
      unfold widest
      omega
    rw [if_neg still, whole]
    cases up with
    | true => rfl
    | false => rfl

/-- Where the words suffice every draw stays in range. -/
theorem words_suffice_ranges (durations : Durations config)
    (suffice_ : WordsSuffice config attempt) : StaysInRange config attempt := by
  intro draws
  have exact_ := @exact_nonneg config attempt durations
  rcases suffice_ with none_ | ⟨runs, high, near⟩
  · rw [backoff_stopped config draws attempt (exact_zero_stops durations none_), none_]
    exact ⟨Int.le_refl 0, Int.le_refl 0⟩
  · obtain ⟨shift, low, top, delay⟩ := backoff_jittered config draws attempt runs
      (capped_high durations)
    have below := @capped_le_exact config attempt durations
    have small : widest (cappedDelay config attempt) ≤ cappedDelay config attempt / 2 := by
      unfold widest
      omega
    have whole := word_fits (cappedDelay config attempt + shift) (by omega) (by omega)
    rw [delay, whole, if_neg (by omega)]
    constructor <;> omega

/-- A delay of 0 is in range only where nothing is to be waited for. -/
theorem zero_around (durations : Durations config)
    (zero : Around (exactDelay config attempt) 0) : exactDelay config attempt = 0 := by
  have exact_ := @exact_nonneg config attempt durations
  have low := zero.1
  omega

theorem ranges_words_suffice (durations : Durations config)
    (ranges : StaysInRange config attempt) : WordsSuffice config attempt := by
  by_cases runs : 0 < cappedDelay config attempt
  · by_cases passes : cappedDelay config attempt + widest (cappedDelay config attempt) < 2 ^ 63
    · right
      refine ⟨runs, passes, ?_⟩
      have lowest := (ranges (widestDraws false)).1
      have small : widest (cappedDelay config attempt) ≤ cappedDelay config attempt / 2 := by
        unfold widest
        omega
      have nonneg : 0 ≤ widest (cappedDelay config attempt) := le_max_right _ _
      have whole := word_fits (cappedDelay config attempt + -widest (cappedDelay config attempt))
        (by omega) (by omega)
      rw [widest_backoff false durations runs, if_neg Bool.false_ne_true, whole,
        if_neg (by omega)] at lowest
      omega
    · left
      have highest := ranges (widestDraws true)
      have high := @capped_high config attempt durations
      have small : widest (cappedDelay config attempt) ≤ cappedDelay config attempt / 2 := by
        unfold widest
        omega
      have negative := word_passes
        (cappedDelay config attempt + widest (cappedDelay config attempt)) (by omega) (by omega)
      rw [widest_backoff true durations runs, if_pos rfl, if_pos negative] at highest
      exact zero_around durations highest
  · left
    have stopped := ranges (widestDraws true)
    rw [backoff_stopped config _ attempt (Int.not_lt.mp runs)] at stopped
    exact zero_around durations stopped

/-- A product that is a word below 2^62 is never cut. -/
theorem small_product_suffices (durations : Durations config)
    (word_ : config.baseDelay * 2 ^ attempt.toNat < 2 ^ 63)
    (small : exactDelay config attempt ≤ 2 ^ 62) : WordsSuffice config attempt := by
  have whole : cappedDelay config attempt = exactDelay config attempt := by
    unfold cappedDelay exactDelay
    rw [word_fits _ (by have := @product_nonneg config attempt durations; omega) word_]
  have exact_ := @exact_nonneg config attempt durations
  unfold WordsSuffice
  rw [whole]
  by_cases none_ : exactDelay config attempt = 0
  · exact .inl none_
  · right
    unfold widest
    omega

theorem backoff_range_iff (durations : Durations config) :
    StaysInRange config attempt ↔ WordsSuffice config attempt :=
  ⟨ranges_words_suffice durations, words_suffice_ranges durations⟩

theorem default_first_range : StaysInRange defaultRetryConfig 3 :=
  (backoff_range_iff ⟨by decide, by decide, by decide⟩).mpr
    (small_product_suffices ⟨by decide, by decide, by decide⟩ (by decide) (by decide))

/-- The default delays double up to the 36th attempt; the 37th is not waited for at all. -/
theorem default_backoff_gone :
    Durations defaultRetryConfig ∧ ¬StaysInRange defaultRetryConfig 37 := by
  refine ⟨⟨by decide, by decide, by decide⟩, ?_⟩
  intro ranges
  have low := (ranges (widestDraws true)).1
  rw [backoff_stopped defaultRetryConfig _ 37 (by decide)] at low
  exact absurd low (by decide)

end Range

end KiroProxy.Retry
