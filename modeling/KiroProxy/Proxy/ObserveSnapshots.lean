import Mathlib.Algebra.Order.Field.Rat
import Mathlib.Tactic.FieldSimp
import KiroProxy.Proxy.ObserveWindows

/-!
# The overview and the heatmap

Each number that the overview and the global row of the heatmap report is a sum over the log.
-/

namespace KiroProxy.Observe

open ApiKeys (CreditAmount)
open Foundation.StampedRings GoStrings

set_option autoImplicit false

section Sums

variable {Credit : Type}

theorem requests_split (recordings : List (Recording Credit)) (now near far : Nat) :
    sumAgo recordings now near far Recording.successes +
        sumAgo recordings now near far Recording.failures =
      sumAgo recordings now near far Recording.requests := by
  unfold sumAgo
  rw [← List.sum_map_add]
  congr 2
  funext recording
  unfold Recording.successes Recording.failures Recording.requests
  cases recording.what with
  | request record =>
      change (if record.success then 1 else 0) + (if record.success then 0 else 1) = 1
      cases record.success <;> rfl
  | failedAttempt _ _ => rfl

theorem sum_cast (recordings : List (Recording Credit)) (now near far : Nat)
    (amount : Recording Credit → Int) :
    sumAgo recordings now near far (fun recording => (amount recording : ℚ)) =
      ((sumAgo recordings now near far amount : Int) : ℚ) := by
  unfold sumAgo
  rw [Int.cast_list_sum, List.map_map]
  rfl

end Sums

section Overview

variable {Credit : Type} [CreditAmount Credit]

/-- The failed part of the requests. -/
def errorRate (failures requests : Nat) : ℚ :=
  if 0 < requests then (failures : ℚ) / requests else 0

/-- What an overview shows of the windows of one, five and sixty minutes and of each of the last
minutes. -/
structure OverviewMatches (recordings : List (Recording Credit)) (now : Nat)
    (overview : OverviewSnapshot Credit) : Prop where
  rpm1 : overview.rpm1 = sumAgo recordings now 0 1 Recording.requests
  rpm5Avg : overview.rpm5Avg = ((sumAgo recordings now 0 5 Recording.requests : Nat) : ℚ) / 5
  errRate5 : overview.errRate5 = errorRate (sumAgo recordings now 0 5 Recording.failures)
    (sumAgo recordings now 0 5 Recording.requests)
  inTpm5 : overview.inTpm5 = ((sumAgo recordings now 0 5 Recording.inTokens : Int) : ℚ) / 5
  outTpm5 : overview.outTpm5 = ((sumAgo recordings now 0 5 Recording.outTokens : Int) : ℚ) / 5
  errors60 : overview.errors60 = sumAgo recordings now 0 60 Recording.failures
  successes60 : overview.successes60 = sumAgo recordings now 0 60 Recording.successes
  requests60 : overview.successes60 + overview.errors60 =
    sumAgo recordings now 0 60 Recording.requests
  retries60 : overview.retries60 = sumAgo recordings now 0 60 Recording.retries
  credits5 : overview.credits5 = creditsAgo recordings now 0 5
  credits60 : overview.credits60 = creditsAgo recordings now 0 60
  series : ∀ i < observeSeriesMin,
    overview.series.rpm[observeSeriesMin - 1 - i]? =
        some (sumAgo recordings now i (i + 1) Recording.requests) ∧
      overview.series.errRate[observeSeriesMin - 1 - i]? =
        some (errorRate (sumAgo recordings now i (i + 1) Recording.failures)
          (sumAgo recordings now i (i + 1) Recording.requests)) ∧
      overview.series.inTpm[observeSeriesMin - 1 - i]? =
        some (sumAgo recordings now i (i + 1) Recording.inTokens) ∧
      overview.series.outTpm[observeSeriesMin - 1 - i]? =
        some (sumAgo recordings now i (i + 1) Recording.outTokens) ∧
      overview.series.credits[observeSeriesMin - 1 - i]? = some (minuteCredits recordings now i)

variable (ring : MinuteRing Credit) (recordings : List (Recording Credit)) (now : Nat)

/-- The sums behind the overview. -/
def overviewSums : OverviewSums Credit :=
  (List.range' 0 60).foldl (overviewMinute ring now) .start

/-- A sum of the overview that counts the minutes to before `far` minutes ago. -/
theorem overview_window {Amount : Type} [Zero Amount] [Add Amount]
    (measure : Measure (minutes : Stamping (MinuteBucket Credit) _) Amount)
    (holds : Holds minutes ring recordings (now / 60)) (far : Nat) (within : far ≤ 60)
    (read : OverviewSums Credit → Amount) (zero : read .start = 0)
    (adds : ∀ sums i b, bucketAgo ring now i = some b → i < 60 →
      read (overviewMinute ring now sums i) =
        if i < far then read sums + measure.value b else read sums) :
    read (overviewSums ring now) = windowSum measure recordings (now / 60) 0 far 0 := by
  rw [← zero]
  apply foldl_part measure holds far 60 within (by decide) read (overviewMinute ring now)
  intro sums i inside
  rw [← bucketAgo_shown measure ring now i (Nat.lt_trans inside (by decide))]
  cases found : bucketAgo ring now i with
  | none =>
      unfold overviewMinute
      rw [found, Option.elim_none, ite_self, measure.add_zero]
  | some b =>
      rw [adds sums i b found inside, Option.elim_some]
      split_ifs
      · rfl
      · exact (measure.add_zero _).symm

theorem overview_sum {Amount : Type} [AddCommMonoid Amount]
    (measure : Measure (minutes : Stamping (MinuteBucket Credit) _) Amount)
    (holds : Holds minutes ring recordings (now / 60)) (far : Nat) (within : far ≤ 60)
    (read : OverviewSums Credit → Amount) (zero : read .start = 0)
    (adds : ∀ sums i b, bucketAgo ring now i = some b → i < 60 →
      read (overviewMinute ring now sums i) =
        if i < far then read sums + measure.value b else read sums) :
    read (overviewSums ring now) = sumAgo recordings now 0 far measure.part := by
  rw [overview_window ring recordings now measure holds far within read zero adds,
    windowSum_logged, zero_add, Nat.zero_add]
  rfl

/-- A series holds what was read of the bucket of each minute. -/
theorem overview_series {Value : Type} (zero : Value) (value : MinuteBucket Credit → Value)
    (read : OverviewSums Credit → List Value)
    (starts : read .start = List.replicate observeSeriesMin zero)
    (sets : ∀ sums i b, bucketAgo ring now i = some b →
      read (overviewMinute ring now sums i) =
          (if i < observeSeriesMin then (read sums).set (observeSeriesMin - 1 - i) (value b)
            else read sums) ∨
        value b = zero ∧ read (overviewMinute ring now sums i) = read sums)
    (i : Nat) (inside : i < observeSeriesMin) :
    (read (overviewSums ring now))[observeSeriesMin - 1 - i]? =
      some ((bucketAgo ring now i).elim zero value) := by
  have each : ∀ count ≤ 60, ∀ i < observeSeriesMin,
      (read ((List.range' 0 count).foldl (overviewMinute ring now) .start)).length =
          observeSeriesMin ∧
        (read ((List.range' 0 count).foldl (overviewMinute ring now) .start))[
            observeSeriesMin - 1 - i]? =
          some (if i < count then (bucketAgo ring now i).elim zero value else zero) := by
    intro count
    induction count with
    | zero =>
        intro _ i inside
        have within : observeSeriesMin - 1 - i < observeSeriesMin := by omega
        change (read .start).length = _ ∧ (read .start)[_]? = some zero
        rw [starts, List.length_replicate, List.getElem?_replicate_of_lt within]
        exact ⟨rfl, rfl⟩
    | succ count ih =>
        intro bound i inside
        obtain ⟨sized, shows⟩ := ih (by omega) i inside
        rw [List.range'_concat, List.foldl_append, Nat.one_mul, Nat.zero_add]
        change (read (overviewMinute ring now _ count)).length = _ ∧
          (read (overviewMinute ring now _ count))[_]? = _
        cases found : bucketAgo ring now count with
        | none =>
            have same : ∀ sums, overviewMinute ring now sums count = sums := by
              intro sums
              unfold overviewMinute
              rw [found]
            rw [same, shows]
            refine ⟨sized, congrArg some ?_⟩
            by_cases last : i = count
            · rw [last, if_neg (by omega), if_pos (by omega), found, Option.elim_none]
            · exact if_congr (by omega) rfl rfl
        | some b =>
            cases sets _ count b found with
            | inl stored =>
                rw [stored]
                by_cases series : count < observeSeriesMin
                · rw [if_pos series, List.length_set, List.getElem?_set]
                  refine ⟨sized, ?_⟩
                  by_cases last : i = count
                  · rw [last, if_pos rfl, sized, if_pos (by omega), if_pos (by omega), found,
                      Option.elim_some]
                  · rw [if_neg (by omega), shows]
                    exact congrArg some (if_congr (by omega) rfl rfl)
                · rw [if_neg series, shows]
                  exact ⟨sized, congrArg some (if_congr (by omega) rfl rfl)⟩
            | inr kept =>
                rw [kept.2, shows]
                refine ⟨sized, congrArg some ?_⟩
                by_cases last : i = count
                · rw [last, if_neg (by omega), if_pos (by omega), found, Option.elim_some, kept.1]
                · exact if_congr (by omega) rfl rfl
  have last := (each 60 (Nat.le_refl 60) i inside).2
  rw [if_pos (Nat.lt_trans inside (by decide))] at last
  exact last

/-- The counts and tokens of the overview. -/
theorem overview_counts
    (holds : Holds minutes ring recordings (now / 60)) :
    let sums := overviewSums ring now
    sums.rpm1 = sumAgo recordings now 0 1 Recording.requests ∧
      sums.rpm5Total = sumAgo recordings now 0 5 Recording.requests ∧
      sums.errs5 = sumAgo recordings now 0 5 Recording.failures ∧
      sums.succ5 = sumAgo recordings now 0 5 Recording.successes ∧
      sums.errs60 = sumAgo recordings now 0 60 Recording.failures ∧
      sums.succ60 = sumAgo recordings now 0 60 Recording.successes ∧
      sums.retries60 = sumAgo recordings now 0 60 Recording.retries := by
  refine ⟨?_, ?_, ?_, ?_, ?_, ?_, ?_⟩
  · apply overview_sum ring recordings now requestsMeasure holds 1 (by decide) _ rfl
    intro sums i b found _
    rw [overviewMinute, found]
    rfl
  · apply overview_sum ring recordings now requestsMeasure holds 5 (by decide) _ rfl
    intro sums i b found _
    rw [overviewMinute, found]
    rfl
  · apply overview_sum ring recordings now failuresMeasure holds 5 (by decide) _ rfl
    intro sums i b found _
    rw [overviewMinute, found]
    rfl
  · apply overview_sum ring recordings now successesMeasure holds 5 (by decide) _ rfl
    intro sums i b found _
    rw [overviewMinute, found]
    rfl
  · apply overview_sum ring recordings now failuresMeasure holds 60 (by decide) _ rfl
    intro sums i b found inside
    rw [overviewMinute, found, if_pos inside]
    rfl
  · apply overview_sum ring recordings now successesMeasure holds 60 (by decide) _ rfl
    intro sums i b found inside
    rw [overviewMinute, found, if_pos inside]
    rfl
  · apply overview_sum ring recordings now retriesMeasure holds 60 (by decide) _ rfl
    intro sums i b found inside
    rw [overviewMinute, found, if_pos inside]
    rfl

/-- A count of tokens as a `float64`. -/
def tokensMeasure (measure : Measure (minutes : Stamping (MinuteBucket Credit) _) Int) :
    Measure (minutes : Stamping (MinuteBucket Credit) _) ℚ where
  value := fun bucket => (measure.value bucket : ℚ)
  part := fun recording => (measure.part recording : ℚ)
  fresh := by
    intro minute
    rw [measure.fresh]
    rfl
  add_zero := add_zero
  adds := by
    intro recording bucket
    rw [measure.adds, Int.cast_add]

theorem overview_tokens
    (holds : Holds minutes ring recordings (now / 60)) :
    (overviewSums ring now).inTok5 =
        ((sumAgo recordings now 0 5 Recording.inTokens : Int) : ℚ) ∧
      (overviewSums ring now).outTok5 =
        ((sumAgo recordings now 0 5 Recording.outTokens : Int) : ℚ) := by
  constructor
  · rw [← sum_cast]
    apply overview_sum ring recordings now (tokensMeasure inTokensMeasure) holds 5 (by decide)
      (fun sums => sums.inTok5) rfl
    intro sums i b found _
    rw [overviewMinute, found]
    rfl
  · rw [← sum_cast]
    apply overview_sum ring recordings now (tokensMeasure outTokensMeasure) holds 5 (by decide)
      (fun sums => sums.outTok5) rfl
    intro sums i b found _
    rw [overviewMinute, found]
    rfl

theorem overview_credits (holds : Holds minutes ring recordings (now / 60)) :
    (overviewSums ring now).credits5 = creditsAgo recordings now 0 5 ∧
      (overviewSums ring now).credits60 = creditsAgo recordings now 0 60 := by
  constructor
  · apply overview_window ring recordings now creditsMeasure holds 5 (by decide)
      (fun sums => sums.credits5) rfl
    intro sums i b found _
    rw [overviewMinute, found]
    rfl
  · apply overview_window ring recordings now creditsMeasure holds 60 (by decide)
      (fun sums => sums.credits60) rfl
    intro sums i b found inside
    rw [overviewMinute, found, if_pos inside]
    rfl

/-- The series of the overview. -/
theorem overview_minutes
    (holds : Holds minutes ring recordings (now / 60))
    (i : Nat) (inside : i < observeSeriesMin) :
    let series := (overviewSums ring now).series
    series.rpm[observeSeriesMin - 1 - i]? =
        some (sumAgo recordings now i (i + 1) Recording.requests) ∧
      series.errRate[observeSeriesMin - 1 - i]? =
        some (errorRate (sumAgo recordings now i (i + 1) Recording.failures)
          (sumAgo recordings now i (i + 1) Recording.requests)) ∧
      series.inTpm[observeSeriesMin - 1 - i]? =
        some (sumAgo recordings now i (i + 1) Recording.inTokens) ∧
      series.outTpm[observeSeriesMin - 1 - i]? =
        some (sumAgo recordings now i (i + 1) Recording.outTokens) ∧
      series.credits[observeSeriesMin - 1 - i]? = some (minuteCredits recordings now i) := by
  have recent : i < observeMinuteSlots := Nat.lt_trans inside (by decide)
  have requests : (bucketAgo ring now i).elim 0 MinuteBucket.reqs =
      sumAgo recordings now i (i + 1) Recording.requests :=
    bucketAgo_sum holds requestsMeasure i recent
  have failures : (bucketAgo ring now i).elim 0 MinuteBucket.failures =
      sumAgo recordings now i (i + 1) Recording.failures :=
    bucketAgo_sum holds failuresMeasure i recent
  refine ⟨?_, ?_, ?_, ?_, ?_⟩
  · have shown := overview_series ring now 0 MinuteBucket.reqs (fun sums => sums.series.rpm) rfl
      (by
        intro sums i b found
        rw [overviewMinute, found]
        left
        exact apply_ite (fun series : OverviewSeries Credit => series.rpm) _ _ _)
      i inside
    exact shown.trans (congrArg some requests)
  · have shown := overview_series ring now 0 (fun b => errorRate b.failures b.reqs)
      (fun sums => sums.series.errRate) rfl
      (by
        intro sums i b found
        rw [overviewMinute, found]
        change (if i < observeSeriesMin then sums.series.set i b else sums.series).errRate = _ ∨
          _ ∧ (if i < observeSeriesMin then sums.series.set i b else sums.series).errRate = _
        rw [apply_ite (fun series : OverviewSeries Credit => series.errRate)]
        by_cases some_ : 0 < b.reqs
        · left
          have stored : (sums.series.set i b).errRate =
              sums.series.errRate.set (observeSeriesMin - 1 - i) (errorRate b.failures b.reqs) := by
            rw [errorRate, if_pos some_]
            exact if_pos some_
          rw [stored]
        · right
          have kept : (sums.series.set i b).errRate = sums.series.errRate := if_neg some_
          rw [kept, ite_self]
          exact ⟨if_neg some_, rfl⟩)
      i inside
    rw [shown, ← requests, ← failures]
    cases bucketAgo ring now i with
    | none => rfl
    | some b => rfl
  · have shown := overview_series ring now 0 MinuteBucket.inTokens (fun sums => sums.series.inTpm)
      rfl
      (by
        intro sums i b found
        rw [overviewMinute, found]
        left
        exact apply_ite (fun series : OverviewSeries Credit => series.inTpm) _ _ _)
      i inside
    exact shown.trans
      (congrArg some (bucketAgo_sum holds inTokensMeasure i recent))
  · have shown := overview_series ring now 0 MinuteBucket.outTokens
      (fun sums => sums.series.outTpm) rfl
      (by
        intro sums i b found
        rw [overviewMinute, found]
        left
        exact apply_ite (fun series : OverviewSeries Credit => series.outTpm) _ _ _)
      i inside
    exact shown.trans
      (congrArg some (bucketAgo_sum holds outTokensMeasure i recent))
  · have shown := overview_series ring now 0 MinuteBucket.credits
      (fun sums => sums.series.credits) rfl
      (by
        intro sums i b found
        rw [overviewMinute, found]
        left
        exact apply_ite (fun series : OverviewSeries Credit => series.credits) _ _ _)
      i inside
    exact shown.trans (congrArg some (bucketAgo_logged creditsMeasure holds i recent))

theorem overview_matches (s : ObserveStore Credit)
    (holds : Holds minutes s.globalRing recordings (now / 60)) :
    OverviewMatches recordings now (s.overview now) := by
  obtain ⟨rpm1, rpm5, errs5, succ5, errs60, succ60, retries60⟩ :=
    overview_counts s.globalRing recordings now holds
  obtain ⟨inTok5, outTok5⟩ := overview_tokens s.globalRing recordings now holds
  obtain ⟨credits5, credits60⟩ := overview_credits s.globalRing recordings now holds
  constructor
  · exact rpm1
  · exact congrArg (fun total : Nat => (total : ℚ) / 5) rpm5
  · have total : (overviewSums s.globalRing now).errs5 + (overviewSums s.globalRing now).succ5 =
        sumAgo recordings now 0 5 Recording.requests := by
      rw [errs5, succ5, add_comm]
      exact requests_split recordings now 0 5
    change errorRate (overviewSums s.globalRing now).errs5
      ((overviewSums s.globalRing now).errs5 + (overviewSums s.globalRing now).succ5) = _
    rw [total, errs5]
  · exact congrArg (fun total : ℚ => total / 5) inTok5
  · exact congrArg (fun total : ℚ => total / 5) outTok5
  · exact errs60
  · exact succ60
  · rw [← requests_split recordings now 0 60, ← errs60, ← succ60]
    rfl
  · exact retries60
  · exact credits5
  · exact credits60
  · exact overview_minutes s.globalRing recordings now holds

end Overview

end KiroProxy.Observe
