import KiroProxy.Proxy.ObserveSnapshots

/-!
# The global row of the heatmap

The buckets of a heatmap partition its window, and each cell is the sum over its bucket.
-/

namespace KiroProxy.Observe

open ApiKeys (CreditAmount)
open Foundation.Binary64 (Float64 nearest)
open Foundation.StampedRings GoStrings

set_option autoImplicit false

section Buckets

variable (opts : HeatmapOptions)

theorem window_within : 1 ≤ opts.window ∧ opts.window ≤ observeMinuteSlots := by
  unfold HeatmapOptions.window observeMinuteSlots
  split_ifs <;> omega

theorem bucket_within : 1 ≤ opts.bucket ∧ opts.bucket ≤ opts.window := by
  have window := (window_within opts).1
  unfold HeatmapOptions.bucket
  split_ifs <;> omega

theorem bucket_starts (n : Nat) (inside : n < opts.buckets) :
    n * opts.bucket < opts.window := by
  have bucket := (bucket_within opts).1
  have below := (Nat.le_div_iff_mul_le bucket).mp (Nat.succ_le_of_lt inside)
  rw [Nat.succ_mul] at below
  omega

theorem buckets_cover : opts.window ≤ opts.buckets * opts.bucket := by
  have bucket := (bucket_within opts).1
  have whole := Nat.div_add_mod (opts.window + opts.bucket - 1) opts.bucket
  have rest := Nat.mod_lt (opts.window + opts.bucket - 1) bucket
  rw [Nat.mul_comm] at whole
  unfold HeatmapOptions.buckets
  omega

/-- Every minute of the window is in one bucket. -/
theorem buckets_partition (i : Nat) (inside : i < opts.window) :
    ∃! n, n < opts.buckets ∧ n * opts.bucket ≤ i ∧ i < min ((n + 1) * opts.bucket) opts.window := by
  have bucket := (bucket_within opts).1
  refine ⟨i / opts.bucket, ⟨?_, Nat.div_mul_le_self i opts.bucket, ?_⟩, ?_⟩
  · rw [Nat.div_lt_iff_lt_mul bucket]
    exact Nat.lt_of_lt_of_le inside (buckets_cover opts)
  · exact Nat.lt_min.mpr ⟨(Nat.div_lt_iff_lt_mul bucket).mp (Nat.lt_succ_self _), inside⟩
  · intro n within
    have above := (Nat.le_div_iff_mul_le bucket).mpr within.2.1
    have below := (Nat.div_lt_iff_lt_mul bucket).mpr (Nat.lt_min.mp within.2.2).1
    omega

end Buckets

section Cells

variable {Credit : Type} [CreditAmount Credit] (ring : MinuteRing Credit)
  (recordings : List (Recording Credit)) (now : Nat) (opts : HeatmapOptions)

theorem cell_window {Amount : Type} [Zero Amount] [Add Amount]
    (measure : Measure (minutes : Stamping (MinuteBucket Credit) _) Amount)
    (holds : Holds minutes ring recordings (now / 60)) (n : Nat)
    (inside : n < opts.buckets) (read : HeatmapCell Credit → Amount)
    (zero : read ⟨n, 0, 0, 0, 0⟩ = 0)
    (adds : ∀ cell i b, bucketAgo ring now i = some b →
      read (cellMinute ring now cell i) = read cell + measure.value b) :
    read (heatmapCell ring now opts n) = windowSum measure recordings (now / 60)
      (n * opts.bucket) (min ((n + 1) * opts.bucket) opts.window - n * opts.bucket) 0 := by
  have starts := bucket_starts opts n inside
  have window := (window_within opts).2
  rw [← zero]
  apply foldl_window measure holds _ _ (by rw [Nat.succ_mul]; omega) read (cellMinute ring now)
  intro cell i within
  rw [← bucketAgo_shown measure ring now i (by rw [Nat.succ_mul] at within; omega)]
  cases found : bucketAgo ring now i with
  | none =>
      unfold cellMinute
      rw [found, Option.elim_none, measure.add_zero]
  | some b => exact adds cell i b found

variable {Amount : Type} [AddCommMonoid Amount]
  (measure : Measure (minutes : Stamping (MinuteBucket Credit) _) Amount)

theorem cell_sum (holds : Holds minutes ring recordings (now / 60)) (n : Nat)
    (inside : n < opts.buckets) (read : HeatmapCell Credit → Amount)
    (zero : read ⟨n, 0, 0, 0, 0⟩ = 0)
    (adds : ∀ cell i b, bucketAgo ring now i = some b →
      read (cellMinute ring now cell i) = read cell + measure.value b) :
    read (heatmapCell ring now opts n) =
      sumAgo recordings now (n * opts.bucket) (min ((n + 1) * opts.bucket) opts.window)
        measure.part := by
  have starts := bucket_starts opts n inside
  have ends : n * opts.bucket + (min ((n + 1) * opts.bucket) opts.window - n * opts.bucket) =
      min ((n + 1) * opts.bucket) opts.window := by
    rw [Nat.succ_mul]
    omega
  rw [cell_window ring recordings now opts measure holds n inside read zero adds,
    windowSum_logged, zero_add, ends]
  rfl

/-- The sums over the buckets add up to the sum over the window. -/
theorem buckets_sum :
    ((List.range opts.buckets).map fun n => sumAgo recordings now (n * opts.bucket)
      (min ((n + 1) * opts.bucket) opts.window) measure.part).sum =
        sumAgo recordings now 0 opts.window measure.part := by
  have each : ∀ count, ((List.range count).map fun n => sumAgo recordings now (n * opts.bucket)
      (min ((n + 1) * opts.bucket) opts.window) measure.part).sum =
        sumAgo recordings now 0 (min (count * opts.bucket) opts.window) measure.part := by
    intro count
    induction count with
    | zero =>
        rw [Nat.zero_mul, Nat.zero_min]
        symm
        apply logged_none measure recordings (ago (now / 60) 0 0)
        intro recording member
        exact decide_eq_false (by omega)
    | succ count ih =>
        rw [List.range_succ, List.map_append, List.sum_append, ih, List.map_singleton,
          List.sum_singleton]
        symm
        apply logged_split measure recordings
          (ago (now / 60) 0 (min (count * opts.bucket) opts.window))
          (ago (now / 60) (count * opts.bucket) (min ((count + 1) * opts.bucket) opts.window))
          (ago (now / 60) 0 (min ((count + 1) * opts.bucket) opts.window))
        · intro recording member both
          have near := of_decide_eq_true both.1
          have far := of_decide_eq_true both.2
          omega
        · intro recording member
          rw [Bool.eq_iff_iff, Bool.or_eq_true, ago, ago, ago, decide_eq_true_eq,
            decide_eq_true_eq, decide_eq_true_eq, Nat.succ_mul]
          omega
  rw [each, Nat.min_eq_right (buckets_cover opts)]

variable [DecidableEq Credit]

/-- What the cells of a row add up to, those with no traffic left out or not. -/
theorem collect_sum (holds : Holds minutes ring recordings (now / 60))
    (read : HeatmapCell Credit → Amount) (zero : ∀ n, read ⟨n, 0, 0, 0, 0⟩ = 0)
    (adds : ∀ cell i b, bucketAgo ring now i = some b →
      read (cellMinute ring now cell i) = read cell + measure.value b) :
    ((collect now opts ring).map read).sum = sumAgo recordings now 0 opts.window measure.part := by
  unfold collect
  rw [sum_filter, List.map_map, ← buckets_sum]
  · congr 1
    apply List.map_congr_left
    intro n member
    exact cell_sum ring recordings now opts measure holds n (List.mem_range.mp member) read
      (zero n) adds
  · intro cell _ dropped
    have empty : cell.empty = true := by
      rw [Bool.not_eq_false'] at dropped
      exact (Bool.and_eq_true _ _ ▸ dropped).2
    obtain ⟨reqs, failures, retries, credits⟩ := of_decide_eq_true empty
    cases cell with
    | mk offset _ _ _ _ =>
        cases reqs
        cases failures
        cases retries
        cases credits
        exact zero offset

end Cells

section Matches

variable {Credit : Type} [CreditAmount Credit]

/-- What a cell shows of its bucket. -/
structure CellMatches (recordings : List (Recording Credit)) (now near far : Nat)
    (cell : HeatmapCell Credit) : Prop where
  reqs : cell.reqs = sumAgo recordings now near far Recording.requests
  failures : cell.failures = sumAgo recordings now near far Recording.failures
  retries : cell.retries = sumAgo recordings now near far Recording.retries
  credits : cell.credits = creditsAgo recordings now near far

variable [DecidableEq Credit]

/-- The global row: its buckets partition the window, and each cell and all of them together
are the sums over the log. -/
structure HeatmapMatches (recordings : List (Recording Credit)) (now : Nat)
    (opts : HeatmapOptions) (response : HeatmapResponse Credit) : Prop where
  shape : response.windowMin = opts.window ∧ response.bucketMin = opts.bucket
  within : 1 ≤ opts.bucket ∧ opts.bucket ≤ opts.window ∧ opts.window ≤ observeMinuteSlots
  partition : ∀ i < opts.window, ∃! n, n < opts.buckets ∧ n * opts.bucket ≤ i ∧
    i < min ((n + 1) * opts.bucket) opts.window
  cells : ∃ dense : List (HeatmapCell Credit), dense.length = opts.buckets ∧
    response.global.cells = dense.filter (fun cell => !(opts.sparse && cell.empty)) ∧
    ∀ n cell, dense[n]? = some cell → cell.offset = n ∧
      CellMatches recordings now (n * opts.bucket) (min ((n + 1) * opts.bucket) opts.window) cell
  totals :
    (response.global.cells.map HeatmapCell.reqs).sum =
        sumAgo recordings now 0 opts.window Recording.requests ∧
      (response.global.cells.map HeatmapCell.failures).sum =
        sumAgo recordings now 0 opts.window Recording.failures ∧
      (response.global.cells.map HeatmapCell.retries).sum =
        sumAgo recordings now 0 opts.window Recording.retries

omit [DecidableEq Credit] in
theorem cell_offset (ring : MinuteRing Credit) (now : Nat) (opts : HeatmapOptions) (n : Nat) :
    (heatmapCell ring now opts n).offset = n := by
  have kept : ∀ (items : List Nat) (cell : HeatmapCell Credit),
      (items.foldl (cellMinute ring now) cell).offset = cell.offset := by
    intro items
    induction items with
    | nil => exact fun _ => rfl
    | cons i items ih =>
        intro cell
        rw [List.foldl_cons, ih]
        unfold cellMinute
        cases bucketAgo ring now i <;> rfl
  exact kept _ _

omit [DecidableEq Credit] in
theorem cell_matches (ring : MinuteRing Credit) (recordings : List (Recording Credit)) (now : Nat)
    (holds : Holds minutes ring recordings (now / 60))
    (opts : HeatmapOptions) (n : Nat) (inside : n < opts.buckets) :
    CellMatches recordings now (n * opts.bucket) (min ((n + 1) * opts.bucket) opts.window)
      (heatmapCell ring now opts n) := by
  constructor
  · apply cell_sum ring recordings now opts requestsMeasure holds n inside _ rfl
    intro cell i b found
    rw [cellMinute, found]
    rfl
  · apply cell_sum ring recordings now opts failuresMeasure holds n inside _ rfl
    intro cell i b found
    rw [cellMinute, found]
    rfl
  · apply cell_sum ring recordings now opts retriesMeasure holds n inside _ rfl
    intro cell i b found
    rw [cellMinute, found]
    rfl
  · apply cell_window ring recordings now opts creditsMeasure holds n inside _ rfl
    intro cell i b found
    rw [cellMinute, found]
    rfl

theorem heatmap_global (s : ObserveStore Credit) (now : Nat) (opts : HeatmapOptions) :
    (s.heatmapWith now opts).global.cells = collect now opts s.globalRing ∧
      (s.heatmapWith now opts).windowMin = opts.window ∧
      (s.heatmapWith now opts).bucketMin = opts.bucket := by
  unfold ObserveStore.heatmapWith
  simp only
  split_ifs
  · exact ⟨rfl, rfl, rfl⟩
  · exact ⟨rfl, rfl, rfl⟩
  · exact ⟨rfl, rfl, rfl⟩

theorem heatmap_matches (s : ObserveStore Credit) (recordings : List (Recording Credit))
    (now : Nat)
    (holds : Holds minutes s.globalRing recordings (now / 60))
    (opts : HeatmapOptions) :
    HeatmapMatches recordings now opts (s.heatmapWith now opts) := by
  obtain ⟨cells, windowMin, bucketMin⟩ := heatmap_global s now opts
  constructor
  · exact ⟨windowMin, bucketMin⟩
  · exact ⟨(bucket_within opts).1, (bucket_within opts).2, (window_within opts).2⟩
  · exact buckets_partition opts
  · refine ⟨(List.range opts.buckets).map (heatmapCell s.globalRing now opts), ?_, cells, ?_⟩
    · rw [List.length_map, List.length_range]
    · intro n cell stored
      rw [List.getElem?_map, Option.map_eq_some_iff] at stored
      obtain ⟨index, listed, same⟩ := stored
      obtain ⟨inside, equal⟩ := List.getElem?_eq_some_iff.mp listed
      rw [List.getElem_range] at equal
      rw [List.length_range] at inside
      rw [← same, ← equal]
      exact ⟨cell_offset s.globalRing now opts n,
        cell_matches s.globalRing recordings now holds opts n inside⟩
  · rw [cells]
    refine ⟨?_, ?_, ?_⟩
    · apply collect_sum s.globalRing recordings now opts requestsMeasure holds _ fun _ => rfl
      intro cell i b found
      rw [cellMinute, found]
      rfl
    · apply collect_sum s.globalRing recordings now opts failuresMeasure holds _ fun _ => rfl
      intro cell i b found
      rw [cellMinute, found]
      rfl
    · apply collect_sum s.globalRing recordings now opts retriesMeasure holds _ fun _ => rfl
      intro cell i b found
      rw [cellMinute, found]
      rfl

/-- Two requests in one slot, a full turn apart. -/
def turnedRecordings : List (Recording Int) :=
  [⟨60, 60, .asStored _,
      .request ⟨lit "a", [], [], [], lit "m", 5, 7, 2, true, 200, [], ⟨0, 0⟩⟩⟩,
    ⟨86460, 86460, .asStored _,
      .request ⟨lit "a", [], [], [], lit "m", 3, 2, 4, false, 500, [], ⟨0, 0⟩⟩⟩]

/-- One tenth in one minute, two and three tenths in the next. -/
def tenthsRecordings : List (Recording Float64) :=
  [⟨60, 60, .asStored _,
      .request ⟨lit "a", [], [], [], lit "m", 5, 7, nearest (7205759403792794 <<< 1018), true, 200,
        [], ⟨0, 0⟩⟩⟩,
    ⟨120, 120, .asStored _,
      .request ⟨lit "a", [], [], [], lit "m", 5, 7, nearest (7205759403792794 <<< 1019), true, 200,
        [], ⟨0, 0⟩⟩⟩,
    ⟨120, 120, .asStored _,
      .request ⟨lit "a", [], [], [], lit "m", 5, 7, nearest (5404319552844595 <<< 1020), true, 200,
        [], ⟨0, 0⟩⟩⟩]

end Matches

end KiroProxy.Observe
