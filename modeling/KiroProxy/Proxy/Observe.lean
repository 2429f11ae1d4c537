import Mathlib.Data.Rat.Defs
import KiroProxy.Foundation.StampedRings
import KiroProxy.Foundation.Tables
import KiroProxy.Proxy.RequestHandling

/-!
# The observability store

`proxy/observe.go`: the minute rings, the model mix, and the overview and heatmap read off
them. A `float64` average is the rational it stands for.
-/

namespace KiroProxy.Observe

open ApiKeys (CreditAmount)
open ClaudeUsage (CacheTokenCounts)
open Foundation.StampedRings (Ring)
open Foundation.Tables GoStrings
open RequestHandling (RequestRecord)

set_option autoImplicit false

abbrev observeMinuteSlots : Nat := 1440

def observeSeriesMin : Nat := 30

def observeTopRankMin : Nat := 60

section Store

/-- One minute of traffic. -/
structure MinuteBucket (Credit : Type) where
  windowMin : Nat
  reqs : Nat
  successes : Nat
  failures : Nat
  retries : Nat
  inTokens : Int
  outTokens : Int
  cacheReadTokens : Int
  cacheWriteTokens : Int
  credits : Credit
  whole : reqs = successes + failures

abbrev MinuteRing (Credit : Type) := Ring (MinuteBucket Credit) observeMinuteSlots

structure ModelStat (Credit : Type) where
  reqs : Nat
  retries : Nat
  inTokens : Int
  outTokens : Int
  cacheReadTokens : Int
  cacheWriteTokens : Int
  credits : Credit
  lastUsed : Nat

/-- The store but for its recent lists and its change counter. -/
structure ObserveStore (Credit : Type) where
  startedAt : Nat
  globalRing : MinuteRing Credit
  accountRings : Table GoString (MinuteRing Credit)
  modelStats : Table GoString (ModelStat Credit)
  maxAccountRing : Nat
  accountTouched : Table GoString Nat
  generation : Nat

variable {Credit : Type} [CreditAmount Credit]

def MinuteBucket.start (curMin : Nat) : MinuteBucket Credit :=
  ⟨curMin, 0, 0, 0, 0, 0, 0, 0, 0, 0, rfl⟩

def emptyRing : MinuteRing Credit := fun _ => .start 0

def ModelStat.start : ModelStat Credit := ⟨0, 0, 0, 0, 0, 0, 0, 0⟩

def curSlot (nowUnix : Nat) : Fin observeMinuteSlots × Nat :=
  (Fin.ofNat observeMinuteSlots (nowUnix / 60), nowUnix / 60)

def touchBucket (ring : MinuteRing Credit) (slot : Fin observeMinuteSlots) (curMin : Nat) :
    MinuteBucket Credit :=
  if (ring slot).windowMin ≠ curMin then .start curMin else ring slot

def MinuteBucket.addRequest (success : Bool) (inTokens outTokens : Int)
    (credits : Credit) (cache : CacheTokenCounts) (b : MinuteBucket Credit) :
    MinuteBucket Credit where
  windowMin := b.windowMin
  reqs := b.reqs + 1
  successes := if success then b.successes + 1 else b.successes
  failures := if success then b.failures else b.failures + 1
  retries := b.retries
  inTokens := b.inTokens + inTokens
  outTokens := b.outTokens + outTokens
  cacheReadTokens := b.cacheReadTokens + cache.read
  cacheWriteTokens := b.cacheWriteTokens + cache.write
  credits := b.credits + credits
  whole := by
    have whole := b.whole
    split_ifs <;> omega

omit [CreditAmount Credit] in
def MinuteBucket.addRetry (b : MinuteBucket Credit) : MinuteBucket Credit :=
  { b with retries := b.retries + 1 }

/-- The ring with the bucket of the minute, cleared where it is of another one, changed. -/
def changeBucket (ring : MinuteRing Credit) (now : Nat)
    (change : MinuteBucket Credit → MinuteBucket Credit) : MinuteRing Credit :=
  Function.update ring (curSlot now).1 (change (touchBucket ring (curSlot now).1 (curSlot now).2))

omit [CreditAmount Credit] in
/-- The account touched longest ago; where times are equal, the first one visited. -/
def oldestAccount (visited : List (GoString × Nat)) : GoString :=
  (visited.foldl (fun (oldest : GoString × Nat) entry =>
    if entry.2 < oldest.2 then entry else oldest) ([], 2 ^ 63 - 1)).1

/-- The store with a ring for the account, and that ring; `touched` is the clock. -/
def ObserveStore.getOrCreateAccountRing (range : MapRange (GoString × Nat)) (touched : Nat)
    (s : ObserveStore Credit) (accountID : GoString) :
    ObserveStore Credit × Option (MinuteRing Credit) :=
  if accountID = [] then (s, none)
  else
    match s.accountRings.get accountID with
    | some ring => ({ s with accountTouched := s.accountTouched.put accountID touched }, some ring)
    | none =>
        let victim := oldestAccount (range.visit s.accountTouched.entries)
        let s :=
          if s.maxAccountRing ≤ s.accountRings.size ∧ victim ≠ [] then
            { s with
              accountRings := s.accountRings.erase victim
              accountTouched := s.accountTouched.erase victim }
          else s
        ({ s with
            accountRings := s.accountRings.put accountID emptyRing
            accountTouched := s.accountTouched.put accountID touched }, some emptyRing)

/-- What the global ring and that of the account get. -/
def ObserveStore.changeBuckets (range : MapRange (GoString × Nat)) (touched now : Nat)
    (accountID : GoString) (change : MinuteBucket Credit → MinuteBucket Credit)
    (s : ObserveStore Credit) : ObserveStore Credit :=
  let s := { s with globalRing := changeBucket s.globalRing now change }
  match s.getOrCreateAccountRing range touched accountID with
  | (s, none) => s
  | (s, some ring) =>
      { s with accountRings := s.accountRings.put accountID (changeBucket ring now change) }

def ObserveStore.changeModelStat (model : GoString) (change : ModelStat Credit → ModelStat Credit)
    (s : ObserveStore Credit) : ObserveStore Credit :=
  { s with
    modelStats := s.modelStats.put model (change ((s.modelStats.get model).getD .start)) }

def ModelStat.addRequest (now : Nat) (record : RequestRecord Credit)
    (ms : ModelStat Credit) : ModelStat Credit where
  reqs := ms.reqs + 1
  retries := ms.retries
  inTokens := ms.inTokens + record.inputTokens
  outTokens := ms.outTokens + record.outputTokens
  cacheReadTokens := ms.cacheReadTokens + record.cache.read
  cacheWriteTokens := ms.cacheWriteTokens + record.cache.write
  credits := ms.credits + record.credits
  lastUsed := now

/-- A request rejected before any account was tried counts in the global row only. -/
def ObserveStore.countRequestLocked (range : MapRange (GoString × Nat)) (touched now : Nat)
    (record : RequestRecord Credit) (s : ObserveStore Credit) : ObserveStore Credit :=
  let s := s.changeBuckets range touched now record.accountID
    (MinuteBucket.addRequest record.success record.inputTokens record.outputTokens record.credits
      record.cache)
  if record.model ≠ [] ∧ record.accountID ≠ [] then
    s.changeModelStat record.model (ModelStat.addRequest now record)
  else s

omit [CreditAmount Credit] in
def ModelStat.addRetry (ms : ModelStat Credit) : ModelStat Credit :=
  { ms with retries := ms.retries + 1 }

/-- One failed upstream attempt; the request it belongs to is counted once, when it ends. -/
def ObserveStore.recordFailure (range : MapRange (GoString × Nat)) (touched now : Nat)
    (accountID model : GoString) (s : ObserveStore Credit) : ObserveStore Credit :=
  let s := s.changeBuckets range touched now accountID MinuteBucket.addRetry
  if model ≠ [] ∧ accountID ≠ [] then s.changeModelStat model ModelStat.addRetry else s

def ObserveStore.resetLocked (s : ObserveStore Credit) : ObserveStore Credit :=
  { s with
    generation := s.generation + 1
    globalRing := emptyRing
    accountRings := .empty
    accountTouched := .empty
    modelStats := .empty }

def ObserveStore.reset (now : Nat) (s : ObserveStore Credit) : ObserveStore Credit :=
  { s.resetLocked with startedAt := now }

/-- What `getObserveStore` makes. -/
def ObserveStore.start (now : Nat) : ObserveStore Credit where
  startedAt := now
  globalRing := emptyRing
  accountRings := .empty
  modelStats := .empty
  maxAccountRing := 200
  accountTouched := .empty
  generation := 0

end Store

section Overview

variable {Credit : Type} [CreditAmount Credit]

structure OverviewSeries (Credit : Type) where
  rpm : List Nat
  errRate : List ℚ
  inTpm : List Int
  outTpm : List Int
  credits : List Credit

structure OverviewSnapshot (Credit : Type) where
  startedAt : Nat
  nowUnix : Nat
  rpm1 : Nat
  rpm5Avg : ℚ
  errRate5 : ℚ
  inTpm5 : ℚ
  outTpm5 : ℚ
  credits5 : Credit
  credits60 : Credit
  errors60 : Nat
  successes60 : Nat
  retries60 : Nat
  activeAccts : Nat
  totalAccts : Nat
  totalModels : Nat
  series : OverviewSeries Credit

structure OverviewSums (Credit : Type) where
  rpm1 : Nat
  rpm5Total : Nat
  errs5 : Nat
  succ5 : Nat
  errs60 : Nat
  succ60 : Nat
  retries60 : Nat
  inTok5 : ℚ
  outTok5 : ℚ
  credits5 : Credit
  credits60 : Credit
  series : OverviewSeries Credit

omit [CreditAmount Credit] in
/-- The bucket of the minute `i` minutes ago, if its slot still holds that minute. -/
def bucketAgo (ring : MinuteRing Credit) (now i : Nat) : Option (MinuteBucket Credit) :=
  let b := ring (Fin.ofNat observeMinuteSlots ((curSlot now).1 + observeMinuteSlots - i))
  if (b.windowMin : Int) ≠ (curSlot now).2 - i then none else some b

def OverviewSums.start : OverviewSums Credit where
  rpm1 := 0
  rpm5Total := 0
  errs5 := 0
  succ5 := 0
  errs60 := 0
  succ60 := 0
  retries60 := 0
  inTok5 := 0
  outTok5 := 0
  credits5 := 0
  credits60 := 0
  series :=
    { rpm := List.replicate observeSeriesMin 0
      errRate := List.replicate observeSeriesMin 0
      inTpm := List.replicate observeSeriesMin 0
      outTpm := List.replicate observeSeriesMin 0
      credits := List.replicate observeSeriesMin 0 }

omit [CreditAmount Credit] in
def OverviewSeries.set (series : OverviewSeries Credit) (i : Nat) (b : MinuteBucket Credit) :
    OverviewSeries Credit :=
  let at_ := observeSeriesMin - 1 - i
  { rpm := series.rpm.set at_ b.reqs
    errRate :=
      if 0 < b.reqs then series.errRate.set at_ ((b.failures : ℚ) / b.reqs) else series.errRate
    inTpm := series.inTpm.set at_ b.inTokens
    outTpm := series.outTpm.set at_ b.outTokens
    credits := series.credits.set at_ b.credits }

def overviewMinute (ring : MinuteRing Credit) (now : Nat) (sums : OverviewSums Credit) (i : Nat) :
    OverviewSums Credit :=
  match bucketAgo ring now i with
  | none => sums
  | some b =>
      { rpm1 := if i < 1 then sums.rpm1 + b.reqs else sums.rpm1
        rpm5Total := if i < 5 then sums.rpm5Total + b.reqs else sums.rpm5Total
        errs5 := if i < 5 then sums.errs5 + b.failures else sums.errs5
        succ5 := if i < 5 then sums.succ5 + b.successes else sums.succ5
        inTok5 := if i < 5 then sums.inTok5 + b.inTokens else sums.inTok5
        outTok5 := if i < 5 then sums.outTok5 + b.outTokens else sums.outTok5
        credits5 := if i < 5 then sums.credits5 + b.credits else sums.credits5
        series := if i < observeSeriesMin then sums.series.set i b else sums.series
        errs60 := sums.errs60 + b.failures
        succ60 := sums.succ60 + b.successes
        retries60 := sums.retries60 + b.retries
        credits60 := sums.credits60 + b.credits }

omit [CreditAmount Credit] in
/-- Whether the ring had a request in the last five minutes. -/
def activeRing (ring : MinuteRing Credit) (now : Nat) : Bool :=
  (List.range 5).any fun i =>
    match bucketAgo ring now i with
    | none => false
    | some b => decide (0 < b.reqs)

def ObserveStore.overview (s : ObserveStore Credit) (now : Nat) : OverviewSnapshot Credit :=
  let sums := (List.range' 0 60).foldl (overviewMinute s.globalRing now) .start
  { startedAt := s.startedAt
    nowUnix := now
    rpm1 := sums.rpm1
    rpm5Avg := (sums.rpm5Total : ℚ) / 5
    errRate5 :=
      if 0 < sums.errs5 + sums.succ5 then (sums.errs5 : ℚ) / (sums.errs5 + sums.succ5 : Nat) else 0
    inTpm5 := sums.inTok5 / 5
    outTpm5 := sums.outTok5 / 5
    credits5 := sums.credits5
    credits60 := sums.credits60
    errors60 := sums.errs60
    successes60 := sums.succ60
    retries60 := sums.retries60
    activeAccts := (s.accountRings.entries.filter fun entry => activeRing entry.2 now).length
    totalAccts := s.accountRings.size
    totalModels := s.modelStats.size
    series := sums.series }

end Overview

section Heatmap

variable {Credit : Type} [CreditAmount Credit]

structure HeatmapCell (Credit : Type) where
  offset : Nat
  reqs : Nat
  failures : Nat
  retries : Nat
  credits : Credit

structure AccountHeatmap (Credit : Type) where
  accountID : GoString
  cells : List (HeatmapCell Credit)

structure HeatmapResponse (Credit : Type) where
  windowMin : Nat
  bucketMin : Nat
  nowUnix : Nat
  global : AccountHeatmap Credit
  accounts : Option (List (AccountHeatmap Credit))
  restCount : Option Nat

structure HeatmapOptions where
  windowMin : Int
  bucketMin : Int
  globalOnly : Bool
  top : Int
  sparse : Bool

/-- The window, an hour by default and a day at most. -/
def HeatmapOptions.window (opts : HeatmapOptions) : Nat :=
  if opts.windowMin ≤ 0 then 60
  else if observeMinuteSlots < opts.windowMin then observeMinuteSlots
  else opts.windowMin.toNat

/-- The minutes of a bucket: one by default and the window at most. -/
def HeatmapOptions.bucket (opts : HeatmapOptions) : Nat :=
  if opts.bucketMin ≤ 0 then 1
  else if opts.window < opts.bucketMin then opts.window
  else opts.bucketMin.toNat

def HeatmapOptions.buckets (opts : HeatmapOptions) : Nat :=
  (opts.window + opts.bucket - 1) / opts.bucket

def cellMinute (ring : MinuteRing Credit) (now : Nat) (cell : HeatmapCell Credit) (i : Nat) :
    HeatmapCell Credit :=
  match bucketAgo ring now i with
  | none => cell
  | some b =>
      { offset := cell.offset
        reqs := cell.reqs + b.reqs
        failures := cell.failures + b.failures
        retries := cell.retries + b.retries
        credits := cell.credits + b.credits }

/-- The minutes of bucket `n` within the window. -/
def heatmapCell (ring : MinuteRing Credit) (now : Nat) (opts : HeatmapOptions) (n : Nat) :
    HeatmapCell Credit :=
  (List.range' (n * opts.bucket) (min ((n + 1) * opts.bucket) opts.window - n * opts.bucket)).foldl
    (cellMinute ring now) ⟨n, 0, 0, 0, 0⟩

variable [DecidableEq Credit]

def HeatmapCell.empty (c : HeatmapCell Credit) : Bool :=
  decide (c.reqs = 0 ∧ c.failures = 0 ∧ c.retries = 0 ∧ c.credits = 0)

def collect (now : Nat) (opts : HeatmapOptions) (ring : MinuteRing Credit) :
    List (HeatmapCell Credit) :=
  ((List.range opts.buckets).map (heatmapCell ring now opts)).filter
    fun cell => !(opts.sparse && cell.empty)

omit [CreditAmount Credit] [DecidableEq Credit] in
/-- The requests and retries of the last hour. -/
def rank (now : Nat) (ring : MinuteRing Credit) : Nat :=
  (List.range observeTopRankMin).foldl (fun total i =>
    match bucketAgo ring now i with
    | none => total
    | some b => total + (b.reqs + b.retries)) 0

omit [CreditAmount Credit] [DecidableEq Credit] in
/-- The busy accounts, busiest first, and by id where equally busy. -/
def busyAccounts (now : Nat) (rings : List (GoString × MinuteRing Credit)) :
    List (GoString × MinuteRing Credit) :=
  (rings.filter fun entry => decide (0 < rank now entry.2)).mergeSort fun left right =>
    if rank now left.2 ≠ rank now right.2 then decide (rank now right.2 < rank now left.2)
    else decide (left.1 ≤ right.1)

def ObserveStore.heatmapWith (s : ObserveStore Credit) (now : Nat) (opts : HeatmapOptions) :
    HeatmapResponse Credit :=
  let resp : HeatmapResponse Credit :=
    ⟨opts.window, opts.bucket, now, ⟨lit "_global_", collect now opts s.globalRing⟩, none, none⟩
  let row := fun entry : GoString × MinuteRing Credit =>
    (⟨entry.1, collect now opts entry.2⟩ : AccountHeatmap Credit)
  if opts.globalOnly then resp
  else if 0 < opts.top then
    let busy := busyAccounts now s.accountRings.entries
    { resp with
      accounts := some ((busy.take opts.top.toNat).map row)
      restCount := some (busy.length - opts.top.toNat) }
  else
    { resp with
      accounts := some ((s.accountRings.entries.mergeSort fun left right =>
        decide (left.1 ≤ right.1)).map row) }

end Heatmap

end KiroProxy.Observe
