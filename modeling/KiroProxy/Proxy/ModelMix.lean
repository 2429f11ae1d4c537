import KiroProxy.Proxy.ObserveWindows

/-!
# The model mix

The model stats that the store counts live, those that `loadModelStatsFromDB` sums from the
log, and what an entry of the mix says of the requests and retries behind it.
-/

namespace KiroProxy.Observe

open ApiKeys (CreditAmount)
open Foundation.Tables GoStrings
open RequestHandling (RequestRecord)

set_option autoImplicit false

section Logged

/-- A logged request; `serial` says which recording it is of, and nothing reads it. -/
structure RequestRow (Credit : Type) where
  id : Nat
  ts : Nat
  record : RequestRecord Credit
  serial : Nat

/-- A logged failure of an upstream attempt. -/
structure ErrorRow where
  id : Nat
  accountID : GoString
  model : GoString
  serial : Nat

variable {Credit : Type} [CreditAmount Credit]

/-- One more row of a model's group. -/
def ModelStat.addRow (row : RequestRow Credit) (ms : ModelStat Credit) : ModelStat Credit where
  reqs := ms.reqs + 1
  retries := ms.retries
  inTokens := ms.inTokens + row.record.inputTokens
  outTokens := ms.outTokens + row.record.outputTokens
  cacheReadTokens := ms.cacheReadTokens + row.record.cache.read
  cacheWriteTokens := ms.cacheWriteTokens + row.record.cache.write
  credits := ms.credits + row.record.credits
  lastUsed := max ms.lastUsed row.ts

/-- The first query of `loadModelStatsFromDB`: the rows up to the id, grouped by model; rows
without a model or an account are left out. -/
def loadRequestStats (rows : List (RequestRow Credit)) (maxRequestID : Nat) :
    Table GoString (ModelStat Credit) :=
  ((rows.filter fun row => decide (row.id ≤ maxRequestID)).filter fun row =>
    decide (row.record.model ≠ [] ∧ row.record.accountID ≠ [])).foldl
      (fun stats row => stats.put row.record.model
        (ModelStat.addRow row ((stats.get row.record.model).getD .start))) .empty

omit [CreditAmount Credit] in
/-- The second query: the failures up to the id, counted by model. -/
def countErrors (rows : List ErrorRow) (maxErrorID : Nat) : Table GoString Nat :=
  ((rows.filter fun row => decide (row.id ≤ maxErrorID)).filter fun row =>
    decide (row.model ≠ [] ∧ row.accountID ≠ [])).foldl
      (fun counts row => counts.put row.model ((counts.get row.model).getD 0 + 1)) .empty

/-- The loop over the second query. -/
def loadRetryStats (stats : Table GoString (ModelStat Credit)) (range : MapRange (GoString × Nat))
    (rows : List ErrorRow) (maxErrorID : Nat) : Table GoString (ModelStat Credit) :=
  (range.visit (countErrors rows maxErrorID).entries).foldl
    (fun stats entry => stats.put entry.1
      { (stats.get entry.1).getD .start with retries := entry.2 }) stats

/-- What a warmup adds to the entry of a model. -/
def ModelStat.addLogged (logged ms : ModelStat Credit) : ModelStat Credit where
  reqs := ms.reqs + logged.reqs
  retries := ms.retries + logged.retries
  inTokens := ms.inTokens + logged.inTokens
  outTokens := ms.outTokens + logged.outTokens
  cacheReadTokens := ms.cacheReadTokens + logged.cacheReadTokens
  cacheWriteTokens := ms.cacheWriteTokens + logged.cacheWriteTokens
  credits := ms.credits + logged.credits
  lastUsed := max ms.lastUsed logged.lastUsed

/-- The loop of `run` over the models it loaded. -/
def ObserveStore.addModels (range : MapRange (GoString × ModelStat Credit))
    (models : Table GoString (ModelStat Credit)) (s : ObserveStore Credit) : ObserveStore Credit :=
  { s with
    modelStats := (range.visit models.entries).foldl
      (fun stats entry => stats.put entry.1
        (ModelStat.addLogged entry.2 ((stats.get entry.1).getD .start))) s.modelStats }

/-- `addMinute`: a minute of the log added to a bucket. -/
def MinuteBucket.addMinute (src b : MinuteBucket Credit) : MinuteBucket Credit where
  windowMin := b.windowMin
  reqs := b.reqs + src.reqs
  successes := b.successes + src.successes
  failures := b.failures + src.failures
  retries := b.retries + src.retries
  inTokens := b.inTokens + src.inTokens
  outTokens := b.outTokens + src.outTokens
  cacheReadTokens := b.cacheReadTokens + src.cacheReadTokens
  cacheWriteTokens := b.cacheWriteTokens + src.cacheWriteTokens
  credits := b.credits + src.credits
  whole := by
    have left := b.whole
    have right := src.whole
    omega

structure MinuteRow (Credit : Type) where
  minute : Nat
  accountID : GoString
  bucket : MinuteBucket Credit

/-- The minutes of the log that are neither a day ago nor past the current minute. -/
def ObserveStore.addMinutes (range : MapRange (GoString × Nat)) (touched curMin : Nat)
    (rows : List (MinuteRow Credit)) (s : ObserveStore Credit) : ObserveStore Credit :=
  (rows.filter fun row => decide (curMin < row.minute + observeMinuteSlots ∧
    row.minute ≤ curMin)).foldl (fun s row =>
      s.changeBuckets range touched (row.minute * 60) row.accountID (.addMinute row.bucket)) s

end Logged

section Entries

variable {Credit : Type}

/-- Whether a request counts in the entry of a model. -/
def countsFor (model : GoString) (record : RequestRecord Credit) : Bool :=
  decide (record.model = model ∧ record.model ≠ [] ∧ record.accountID ≠ [])

/-- The requests of a model among recordings, with their times. -/
def recordedRequests (model : GoString) (recordings : List (Recording Credit)) :
    List (Nat × RequestRecord Credit) :=
  recordings.filterMap fun recording =>
    match recording.what with
    | .request record => if countsFor model record then some (recording.now, record) else none
    | .failedAttempt _ _ => none

def recordedRetries (model : GoString) (recordings : List (Recording Credit)) : Nat :=
  recordings.countP fun recording =>
    match recording.what with
    | .request _ => false
    | .failedAttempt accountID other => decide (other = model ∧ other ≠ [] ∧ accountID ≠ [])

/-- The requests of a model among rows of the log, with their times. -/
def loggedRequests (model : GoString) (rows : List (RequestRow Credit)) :
    List (Nat × RequestRecord Credit) :=
  (rows.filter fun row => countsFor model row.record).map fun row => (row.ts, row.record)

def loggedRetries (model : GoString) (rows : List ErrorRow) : Nat :=
  rows.countP fun row => decide (row.model = model ∧ row.model ≠ [] ∧ row.accountID ≠ [])

variable [CreditAmount Credit]

/-- The entry of a model in the mix, none where nothing is counted, says what its requests and
retries add up to; its last use is one of them. -/
structure MixEntry (requests : List (Nat × RequestRecord Credit)) (retries : Nat)
    (entry : Option (ModelStat Credit)) : Prop where
  present : entry.isSome = true ↔ requests ≠ [] ∨ retries ≠ 0
  reqs : (entry.getD .start).reqs = requests.length
  retries : (entry.getD .start).retries = retries
  inTokens : (entry.getD .start).inTokens =
    (requests.map fun request => request.2.inputTokens).sum
  outTokens : (entry.getD .start).outTokens =
    (requests.map fun request => request.2.outputTokens).sum
  cacheReadTokens : (entry.getD .start).cacheReadTokens =
    (requests.map fun request => request.2.cache.read).sum
  cacheWriteTokens : (entry.getD .start).cacheWriteTokens =
    (requests.map fun request => request.2.cache.write).sum
  credits : ∀ (Amount : Type) [AddCommMonoid Amount] (value : Credit → Amount), value 0 = 0 →
    (∀ left right, value (left + right) = value left + value right) →
    value (entry.getD .start).credits = (requests.map fun request => value request.2.credits).sum
  lastUsed : (entry.getD .start).lastUsed = 0 ∨
    ∃ request ∈ requests, request.1 = (entry.getD .start).lastUsed

theorem entry_none : MixEntry ([] : List (Nat × RequestRecord Credit)) 0 none := by
  refine ⟨?_, rfl, rfl, rfl, rfl, rfl, rfl, fun _ _ _ zero _ => zero, .inl rfl⟩
  simp

/-- The order of the requests does not matter. -/
theorem MixEntry.perm {requests others : List (Nat × RequestRecord Credit)} {retries : Nat}
    {entry : Option (ModelStat Credit)} (mix : MixEntry requests retries entry)
    (same : requests.Perm others) : MixEntry others retries entry := by
  constructor
  · have empty : requests = [] ↔ others = [] :=
      ⟨fun none => List.nil_perm.mp (none ▸ same), fun none => List.perm_nil.mp (none ▸ same)⟩
    exact mix.present.trans (or_congr (not_congr empty) Iff.rfl)
  · exact mix.reqs.trans same.length_eq
  · exact mix.retries
  · exact mix.inTokens.trans (same.map _).sum_eq
  · exact mix.outTokens.trans (same.map _).sum_eq
  · exact mix.cacheReadTokens.trans (same.map _).sum_eq
  · exact mix.cacheWriteTokens.trans (same.map _).sum_eq
  · intro Amount _ value zero add
    exact (mix.credits Amount value zero add).trans (same.map _).sum_eq
  · cases mix.lastUsed with
    | inl never => exact .inl never
    | inr used =>
        obtain ⟨request, member, time⟩ := used
        exact .inr ⟨request, same.mem_iff.mp member, time⟩

/-- A request that is counted, at its own time or at the latest of the group. -/
theorem entry_request (requests : List (Nat × RequestRecord Credit)) (retries : Nat)
    (entry : Option (ModelStat Credit)) (mix : MixEntry requests retries entry) (now : Nat)
    (record : RequestRecord Credit) (lastUsed : Nat)
    (time : lastUsed = now ∨ lastUsed = max (entry.getD .start).lastUsed now) :
    MixEntry (requests ++ [(now, record)]) retries
      (some { ModelStat.addRequest now record (entry.getD .start) with lastUsed := lastUsed }) := by
  constructor
  · simp
  · rw [List.length_append, ← mix.reqs]
    rfl
  · exact mix.retries
  · rw [List.map_append, List.sum_append, ← mix.inTokens, List.map_singleton, List.sum_singleton]
    rfl
  · rw [List.map_append, List.sum_append, ← mix.outTokens, List.map_singleton, List.sum_singleton]
    rfl
  · rw [List.map_append, List.sum_append, ← mix.cacheReadTokens, List.map_singleton,
      List.sum_singleton]
    rfl
  · rw [List.map_append, List.sum_append, ← mix.cacheWriteTokens, List.map_singleton,
      List.sum_singleton]
    rfl
  · intro Amount _ value zero add
    rw [List.map_append, List.sum_append, ← mix.credits Amount value zero add, List.map_singleton,
      List.sum_singleton]
    exact add _ _
  · have last : ∃ request ∈ requests ++ [(now, record)], request.1 = now :=
      ⟨_, List.mem_append_right _ (List.mem_singleton_self _), rfl⟩
    change lastUsed = 0 ∨ ∃ request ∈ requests ++ [(now, record)], request.1 = lastUsed
    cases time with
    | inl own => exact .inr (own ▸ last)
    | inr latest =>
        cases Nat.le_total (entry.getD .start).lastUsed now with
        | inl after =>
            rw [latest, Nat.max_eq_right after]
            exact .inr last
        | inr before =>
            rw [latest, Nat.max_eq_left before]
            cases mix.lastUsed with
            | inl never => exact .inl never
            | inr used =>
                obtain ⟨request, member, same⟩ := used
                exact .inr ⟨request, List.mem_append_left _ member, same⟩

theorem entry_retry (requests : List (Nat × RequestRecord Credit)) (retries : Nat)
    (entry : Option (ModelStat Credit)) (mix : MixEntry requests retries entry) :
    MixEntry requests (retries + 1) (some (ModelStat.addRetry (entry.getD .start))) where
  present := by simp
  reqs := mix.reqs
  retries := congrArg (· + 1) mix.retries
  inTokens := mix.inTokens
  outTokens := mix.outTokens
  cacheReadTokens := mix.cacheReadTokens
  cacheWriteTokens := mix.cacheWriteTokens
  credits := mix.credits
  lastUsed := mix.lastUsed

/-- A logged entry with the retries of the log, which come from a table of their own. -/
theorem entry_retries (requests : List (Nat × RequestRecord Credit))
    (entry : Option (ModelStat Credit)) (mix : MixEntry requests 0 entry) (retries : Nat)
    (some_ : retries ≠ 0) :
    MixEntry requests retries (some { entry.getD .start with retries := retries }) where
  present := by simp [some_]
  reqs := mix.reqs
  retries := rfl
  inTokens := mix.inTokens
  outTokens := mix.outTokens
  cacheReadTokens := mix.cacheReadTokens
  cacheWriteTokens := mix.cacheWriteTokens
  credits := mix.credits
  lastUsed := mix.lastUsed

/-- The logged entry of a model on top of what was counted live. -/
theorem entry_logged (requests others : List (Nat × RequestRecord Credit)) (retries more : Nat)
    (entry : Option (ModelStat Credit)) (mix : MixEntry requests retries entry)
    (logged : ModelStat Credit) (rest : MixEntry others more (some logged)) :
    MixEntry (requests ++ others) (retries + more)
      (some (ModelStat.addLogged logged (entry.getD .start))) := by
  constructor
  · have some_ := rest.present.mp rfl
    simp only [Option.isSome_some, true_iff]
    cases some_ with
    | inl some_ => exact .inl (List.append_ne_nil_of_right_ne_nil _ some_)
    | inr some_ => exact .inr (by omega)
  · rw [List.length_append, ← mix.reqs, ← rest.reqs]
    rfl
  · rw [← mix.retries, ← rest.retries]
    rfl
  · rw [List.map_append, List.sum_append, ← mix.inTokens, ← rest.inTokens]
    rfl
  · rw [List.map_append, List.sum_append, ← mix.outTokens, ← rest.outTokens]
    rfl
  · rw [List.map_append, List.sum_append, ← mix.cacheReadTokens, ← rest.cacheReadTokens]
    rfl
  · rw [List.map_append, List.sum_append, ← mix.cacheWriteTokens, ← rest.cacheWriteTokens]
    rfl
  · intro Amount _ value zero add
    rw [List.map_append, List.sum_append, ← mix.credits Amount value zero add,
      ← rest.credits Amount value zero add]
    exact add _ _
  · change max (entry.getD .start).lastUsed logged.lastUsed = 0 ∨
      ∃ request ∈ requests ++ others,
        request.1 = max (entry.getD .start).lastUsed logged.lastUsed
    cases Nat.le_total (entry.getD .start).lastUsed logged.lastUsed with
    | inl after =>
        rw [Nat.max_eq_right after]
        cases rest.lastUsed with
        | inl never => exact .inl never
        | inr used =>
            obtain ⟨request, member, same⟩ := used
            exact .inr ⟨request, List.mem_append_right _ member, same⟩
    | inr before =>
        rw [Nat.max_eq_left before]
        cases mix.lastUsed with
        | inl never => exact .inl never
        | inr used =>
            obtain ⟨request, member, same⟩ := used
            exact .inr ⟨request, List.mem_append_left _ member, same⟩

end Entries

section Recordings

variable {Credit : Type} [CreditAmount Credit]

theorem ring_stats (range : MapRange (GoString × Nat)) (touched : Nat) (s : ObserveStore Credit)
    (accountID : GoString) :
    (s.getOrCreateAccountRing range touched accountID).1.modelStats = s.modelStats ∧
      (s.getOrCreateAccountRing range touched accountID).1.generation = s.generation := by
  unfold ObserveStore.getOrCreateAccountRing
  split_ifs
  · exact ⟨rfl, rfl⟩
  · cases s.accountRings.get accountID with
    | some ring => exact ⟨rfl, rfl⟩
    | none =>
        simp only
        split_ifs
        · exact ⟨rfl, rfl⟩
        · exact ⟨rfl, rfl⟩

/-- The rings leave the model stats and the generation alone. -/
theorem changeBuckets_stats (range : MapRange (GoString × Nat)) (touched now : Nat)
    (accountID : GoString) (change : MinuteBucket Credit → MinuteBucket Credit)
    (s : ObserveStore Credit) :
    (s.changeBuckets range touched now accountID change).modelStats = s.modelStats ∧
      (s.changeBuckets range touched now accountID change).generation = s.generation := by
  unfold ObserveStore.changeBuckets
  have kept := ring_stats range touched
    { s with globalRing := changeBucket s.globalRing now change } accountID
  cases got : ObserveStore.getOrCreateAccountRing range touched
      { s with globalRing := changeBucket s.globalRing now change } accountID with
  | mk next ring =>
      rw [got] at kept
      cases ring with
      | none => simpa only [got] using kept
      | some ring => simpa only [got] using kept

theorem addMinutes_stats (range : MapRange (GoString × Nat)) (touched curMin : Nat)
    (rows : List (MinuteRow Credit)) (s : ObserveStore Credit) :
    (s.addMinutes range touched curMin rows).modelStats = s.modelStats ∧
      (s.addMinutes range touched curMin rows).generation = s.generation := by
  unfold ObserveStore.addMinutes
  generalize rows.filter _ = rows
  induction rows generalizing s with
  | nil => exact ⟨rfl, rfl⟩
  | cons row rows ih =>
      obtain ⟨stats, generation⟩ := ih
        (s.changeBuckets range touched (row.minute * 60) row.accountID (.addMinute row.bucket))
      obtain ⟨kept, same⟩ := changeBuckets_stats range touched (row.minute * 60) row.accountID
        (.addMinute row.bucket) s
      rw [List.foldl_cons]
      exact ⟨stats.trans kept, generation.trans same⟩

/-- What a recording does to the model stats. -/
theorem record_stats (s : ObserveStore Credit) (recording : Recording Credit) :
    (s.record recording).generation = s.generation ∧
      (s.record recording).modelStats =
        match recording.what with
        | .request record =>
            if record.model ≠ [] ∧ record.accountID ≠ [] then
              s.modelStats.put record.model (ModelStat.addRequest recording.now record
                ((s.modelStats.get record.model).getD .start))
            else s.modelStats
        | .failedAttempt accountID model =>
            if model ≠ [] ∧ accountID ≠ [] then
              s.modelStats.put model
                (ModelStat.addRetry ((s.modelStats.get model).getD .start))
            else s.modelStats := by
  unfold ObserveStore.record
  cases recording.what with
  | request record =>
      obtain ⟨stats, generation⟩ := changeBuckets_stats recording.range recording.touched
        recording.now record.accountID
        (MinuteBucket.addRequest record.success record.inputTokens record.outputTokens
          record.credits record.cache) s
      simp only
      unfold ObserveStore.countRequestLocked ObserveStore.changeModelStat
      simp only
      split_ifs
      · rw [stats]
        exact ⟨generation, rfl⟩
      · exact ⟨generation, stats⟩
  | failedAttempt accountID model =>
      obtain ⟨stats, generation⟩ := changeBuckets_stats recording.range recording.touched
        recording.now accountID MinuteBucket.addRetry s
      simp only
      unfold ObserveStore.recordFailure ObserveStore.changeModelStat
      simp only
      split_ifs
      · rw [stats]
        exact ⟨generation, rfl⟩
      · exact ⟨generation, stats⟩

omit [CreditAmount Credit] in
theorem recorded_request (recording : Recording Credit) (record : RequestRecord Credit)
    (what : recording.what = .request record) (model : GoString) :
    recordedRequests model [recording] =
        (if countsFor model record then [(recording.now, record)] else []) ∧
      recordedRetries model [recording] = 0 := by
  unfold recordedRequests recordedRetries
  rw [List.filterMap_cons, List.filterMap_nil, List.countP_singleton, what]
  refine ⟨?_, rfl⟩
  by_cases counted : countsFor model record = true
  · simp [counted]
  · simp [counted]

omit [CreditAmount Credit] in
theorem recorded_failure (recording : Recording Credit) (accountID failing : GoString)
    (what : recording.what = .failedAttempt accountID failing) (model : GoString) :
    recordedRequests model [recording] = [] ∧ recordedRetries model [recording] =
      if failing = model ∧ failing ≠ [] ∧ accountID ≠ [] then 1 else 0 := by
  unfold recordedRequests recordedRetries
  rw [List.filterMap_cons, List.filterMap_nil, List.countP_singleton, what]
  exact ⟨rfl, if_congr decide_eq_true_iff rfl rfl⟩

/-- A recording adds itself to the entry of its model and leaves the others alone. -/
theorem record_entry (s : ObserveStore Credit) (recording : Recording Credit) (model : GoString)
    (requests : List (Nat × RequestRecord Credit)) (retries : Nat)
    (mix : MixEntry requests retries (s.modelStats.get model)) :
    MixEntry (requests ++ recordedRequests model [recording])
      (retries + recordedRetries model [recording])
      ((s.record recording).modelStats.get model) := by
  rw [(record_stats s recording).2]
  cases what : recording.what with
  | request record =>
      obtain ⟨recorded, none⟩ := recorded_request recording record what model
      rw [recorded, none]
      simp only
      by_cases counts : record.model ≠ [] ∧ record.accountID ≠ []
      · rw [if_pos counts, get_put]
        by_cases same : record.model = model
        · rw [← same] at mix ⊢
          have counted : countsFor record.model record = true := decide_eq_true ⟨rfl, counts⟩
          rw [if_pos rfl, if_pos counted]
          exact entry_request requests retries _ mix recording.now record recording.now (.inl rfl)
        · have other : countsFor model record = false := decide_eq_false fun own => same own.1
          rw [if_neg fun equal : model = _ => same equal.symm, other, if_neg Bool.false_ne_true,
            List.append_nil]
          exact mix
      · have other : countsFor model record = false := decide_eq_false fun own => counts own.2
        rw [if_neg counts, other, if_neg Bool.false_ne_true, List.append_nil]
        exact mix
  | failedAttempt accountID failing =>
      obtain ⟨none, recorded⟩ := recorded_failure recording accountID failing what model
      rw [recorded, none, List.append_nil]
      simp only
      by_cases counts : failing ≠ [] ∧ accountID ≠ []
      · rw [if_pos counts, get_put]
        by_cases same : failing = model
        · rw [← same] at mix ⊢
          rw [if_pos rfl, if_pos ⟨rfl, counts⟩]
          exact entry_retry requests retries _ mix
        · rw [if_neg fun equal : model = _ => same equal.symm, if_neg fun own => same own.1]
          exact mix
      · rw [if_neg counts, if_neg fun own => counts own.2]
        exact mix

end Recordings

section Loading

variable {Credit : Type} [CreditAmount Credit]

/-- The first query holds an entry for every model of its rows. -/
theorem request_stats_entry (rows : List (RequestRow Credit)) (maxRequestID : Nat)
    (model : GoString) :
    MixEntry (loggedRequests model (rows.filter fun row => decide (row.id ≤ maxRequestID))) 0
      ((loadRequestStats rows maxRequestID).get model) := by
  unfold loadRequestStats loggedRequests
  generalize (rows.filter fun row => decide (row.id ≤ maxRequestID)) = rows
  have tests : (rows.filter fun row => countsFor model row.record) =
      (rows.filter fun row => decide (row.record.model ≠ [] ∧ row.record.accountID ≠ [])).filter
        fun row => decide (row.record.model = model) := by
    rw [List.filter_filter]
    congr 1
    funext row
    exact Bool.decide_and _ _
  rw [tests]
  generalize rows.filter _ = rows
  induction rows using List.reverseRecOn with
  | nil => exact entry_none
  | append_singleton rows row ih =>
      rw [List.foldl_append, List.foldl_cons, List.foldl_nil, get_put, List.filter_append,
        List.map_append, List.filter_singleton]
      by_cases same : row.record.model = model
      · rw [if_pos same.symm, decide_eq_true same, cond_true, List.map_singleton, same]
        exact entry_request _ 0 _ ih row.ts row.record _ (.inr rfl)
      · rw [if_neg fun equal => same equal.symm, decide_eq_false same, cond_false, List.map_nil,
          List.append_nil]
        exact ih

omit [CreditAmount Credit] in
theorem count_errors (rows : List ErrorRow) (maxErrorID : Nat) (model : GoString) :
    match (countErrors rows maxErrorID).get model with
    | none => loggedRetries model (rows.filter fun row => decide (row.id ≤ maxErrorID)) = 0
    | some count => count ≠ 0 ∧
        loggedRetries model (rows.filter fun row => decide (row.id ≤ maxErrorID)) = count := by
  unfold countErrors loggedRetries
  generalize (rows.filter fun row => decide (row.id ≤ maxErrorID)) = rows
  have tests : (rows.countP fun row =>
      decide (row.model = model ∧ row.model ≠ [] ∧ row.accountID ≠ [])) =
      (rows.filter fun row => decide (row.model ≠ [] ∧ row.accountID ≠ [])).countP
        fun row => decide (row.model = model) := by
    rw [List.countP_filter]
    congr 1
    funext row
    exact Bool.decide_and _ _
  rw [tests]
  generalize rows.filter _ = rows
  induction rows using List.reverseRecOn with
  | nil => rfl
  | append_singleton rows row ih =>
      rw [List.foldl_append, List.foldl_cons, List.foldl_nil, get_put, List.countP_append,
        List.countP_singleton]
      by_cases same : row.model = model
      · rw [if_pos same.symm, decide_eq_true same, if_pos rfl, same]
        cases counted : (rows.foldl (fun (counts : Table GoString Nat) (row : ErrorRow) =>
            counts.put row.model ((counts.get row.model).getD 0 + 1)) Table.empty).get model with
        | none =>
            rw [counted] at ih
            exact ⟨Nat.succ_ne_zero _, congrArg (· + 1) ih⟩
        | some count =>
            rw [counted] at ih
            exact ⟨Nat.succ_ne_zero _, congrArg (· + 1) ih.2⟩
      · rw [if_neg fun equal => same equal.symm, decide_eq_false same,
          if_neg Bool.false_ne_true]
        exact ih

/-- The second query adds the retries to every entry of the first. -/
theorem retry_stats_entry (models : Table GoString (ModelStat Credit))
    (range : MapRange (GoString × Nat)) (errors : List ErrorRow) (maxErrorID : Nat)
    (model : GoString) (requests : List (Nat × RequestRecord Credit))
    (mix : MixEntry requests 0 (models.get model)) :
    MixEntry requests
      (loggedRetries model (errors.filter fun row => decide (row.id ≤ maxErrorID)))
      ((loadRetryStats models range errors maxErrorID).get model) := by
  have counted := count_errors errors maxErrorID model
  unfold loadRetryStats
  rw [get_fold_put (fun (count : Nat) (entry : Option (ModelStat Credit)) =>
    { entry.getD .start with retries := count }) (countErrors errors maxErrorID) range models model]
  cases found : (countErrors errors maxErrorID).get model with
  | none =>
      rw [found] at counted
      rw [counted]
      exact mix
  | some count =>
      rw [found] at counted
      rw [counted.2]
      exact entry_retries _ _ mix count counted.1

/-- A warmup adds what it loaded to every entry. -/
theorem add_models_entry (range : MapRange (GoString × ModelStat Credit))
    (models : Table GoString (ModelStat Credit)) (s : ObserveStore Credit) (model : GoString)
    (requests others : List (Nat × RequestRecord Credit)) (retries more : Nat)
    (mix : MixEntry requests retries (s.modelStats.get model))
    (logged : MixEntry others more (models.get model)) :
    MixEntry (requests ++ others) (retries + more)
      ((s.addModels range models).modelStats.get model) := by
  unfold ObserveStore.addModels
  simp only
  rw [get_fold_put (fun (logged : ModelStat Credit) (entry : Option (ModelStat Credit)) =>
    ModelStat.addLogged logged (entry.getD .start)) models range s.modelStats model]
  cases found : models.get model with
  | none =>
      rw [found] at logged
      have nothing : others = [] ∧ more = 0 := by
        have absent := logged.present.not.mp Bool.false_ne_true
        push Not at absent
        exact absent
      rw [nothing.1, nothing.2, List.append_nil]
      exact mix
  | some entry =>
      rw [found] at logged
      exact entry_logged _ _ _ _ _ mix entry logged

end Loading

end KiroProxy.Observe
