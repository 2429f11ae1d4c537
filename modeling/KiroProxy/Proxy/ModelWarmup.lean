import KiroProxy.Proxy.ModelMix

/-!
# The model warmup

`loadWindowFromDB` and the `modelWarmup` it returns, among recordings that are counted first and
logged later, and resets of the store that delete the log behind them. Every event is one
statement on the database or one turn under the store's lock, so a run is any interleaving.
-/

namespace KiroProxy.Observe

open ApiKeys (CreditAmount)
open Foundation.Runs Foundation.Tables GoStrings
open RequestHandling (RequestRecord)

set_option autoImplicit false

section Machine

structure ModelWarmup where
  maxRequestID : Nat
  maxErrorID : Nat
  generation : Nat

/-- Where `loadWindowFromDB` is; the rows within its bounds are kept to be compared with. -/
inductive LoadStage (Credit : Type) where
  | waiting
  | requestBound (maxRequestID : Nat)
  | bounds (maxRequestID maxErrorID : Nat)
  | loaded (warmup : ModelWarmup) (requests : List (RequestRow Credit)) (errors : List ErrorRow)

/-- Where `run` is: behind none, one or both of its queries, failed, or returned. -/
inductive RunStage (Credit : Type) where
  | waiting
  | requestsRead (models : Table GoString (ModelStat Credit))
  | modelsRead (models : Table GoString (ModelStat Credit))
  | failed
  | returned

/-- The store, the log, the deletes that resets still owe, the recordings that are not logged
yet; and, read by nothing, those counted since the load or the last reset, the number of the
next recording, and the resets since the load. -/
structure WarmupState (Credit : Type) where
  store : ObserveStore Credit
  requests : List (RequestRow Credit)
  errors : List ErrorRow
  nextRequestID : Nat
  nextErrorID : Nat
  requestDeletes : Nat
  errorDeletes : Nat
  load : LoadStage Credit
  run : RunStage Credit
  pending : List (Nat × Recording Credit)
  live : List (Nat × Recording Credit)
  serial : Nat
  resets : Nat

inductive WarmupEvent (Credit : Type) where
  | record (recording : Recording Credit)
  | persist (place : Nat) (saved : Bool)
  | reset (now : Nat)
  | deleteRequests
  | deleteErrors
  | readRequestBound
  | readErrorBound
  | loadReset (range : MapRange (GoString × Nat)) (touched curMin : Nat)
      (rows : List (MinuteRow Credit))
  | runRequests
  | runErrors (range : MapRange (GoString × Nat))
  | runFails
  | runApply (range : MapRange (GoString × ModelStat Credit))

variable {Credit : Type} [CreditAmount Credit]

omit [CreditAmount Credit] in
/-- A row in the log; ids go up only. -/
def WarmupState.logged (state : WarmupState Credit) (serial : Nat) (recording : Recording Credit) :
    WarmupState Credit :=
  match recording.what with
  | .request record =>
      { state with
        requests := state.requests ++ [⟨state.nextRequestID, recording.now, record, serial⟩]
        nextRequestID := state.nextRequestID + 1 }
  | .failedAttempt accountID model =>
      { state with
        errors := state.errors ++ [⟨state.nextErrorID, accountID, model, serial⟩]
        nextErrorID := state.nextErrorID + 1 }

omit [CreditAmount Credit] in
/-- `COALESCE(MAX(id), 0)`. -/
def maxID (ids : List Nat) : Nat := ids.foldl max 0

def WarmupState.step (state : WarmupState Credit) : WarmupEvent Credit → WarmupState Credit
  | .record recording =>
      { state with
        store := state.store.record recording
        pending := state.pending ++ [(state.serial, recording)]
        live := state.live ++ [(state.serial, recording)]
        serial := state.serial + 1 }
  | .persist place saved =>
      match state.pending[place]? with
      | none => state
      | some (serial, recording) =>
          let rest := { state with pending := state.pending.eraseIdx place }
          if saved then rest.logged serial recording else rest
  | .reset now =>
      -- `NewHandler` loads before there is a handler that resets.
      match state.load with
      | .loaded _ _ _ =>
          { state with
            store := state.store.reset now
            requestDeletes := state.requestDeletes + 1
            errorDeletes := state.errorDeletes + 1
            live := []
            resets := state.resets + 1 }
      | _ => state
  | .deleteRequests =>
      if state.requestDeletes = 0 then state
      else { state with requests := [], requestDeletes := state.requestDeletes - 1 }
  | .deleteErrors =>
      if state.errorDeletes = 0 then state
      else { state with errors := [], errorDeletes := state.errorDeletes - 1 }
  | .readRequestBound =>
      match state.load with
      | .waiting => { state with load := .requestBound (maxID (state.requests.map RequestRow.id)) }
      | _ => state
  | .readErrorBound =>
      match state.load with
      | .requestBound maxRequestID =>
          { state with load := .bounds maxRequestID (maxID (state.errors.map ErrorRow.id)) }
      | _ => state
  | .loadReset range touched curMin rows =>
      match state.load with
      | .bounds maxRequestID maxErrorID =>
          { state with
            store := state.store.resetLocked.addMinutes range touched curMin rows
            live := []
            load := .loaded ⟨maxRequestID, maxErrorID, state.store.resetLocked.generation⟩
              (state.requests.filter fun row => decide (row.id ≤ maxRequestID))
              (state.errors.filter fun row => decide (row.id ≤ maxErrorID)) }
      | _ => state
  | .runRequests =>
      match state.load, state.run with
      | .loaded warmup _ _, .waiting =>
          { state with run := .requestsRead (loadRequestStats state.requests warmup.maxRequestID) }
      | _, _ => state
  | .runErrors range =>
      match state.load, state.run with
      | .loaded warmup _ _, .requestsRead models =>
          { state with
            run := .modelsRead (loadRetryStats models range state.errors warmup.maxErrorID) }
      | _, _ => state
  | .runFails =>
      match state.load, state.run with
      | .loaded _ _ _, .waiting => { state with run := .failed }
      | .loaded _ _ _, .requestsRead _ => { state with run := .failed }
      | _, _ => state
  | .runApply range =>
      match state.load, state.run with
      | .loaded warmup _ _, .modelsRead models =>
          if state.store.generation ≠ warmup.generation then { state with run := .returned }
          else { state with store := state.store.addModels range models, run := .returned }
      | _, _ => state

omit [CreditAmount Credit] in
/-- Before a load: ids and recordings are numbered, and no reset is under way. -/
structure Unloaded (state : WarmupState Credit) : Prop where
  load : state.load = .waiting
  run : state.run = .waiting
  requestIDs : ∀ row ∈ state.requests, row.id < state.nextRequestID ∧ row.serial < state.serial
  errorIDs : ∀ row ∈ state.errors, row.id < state.nextErrorID ∧ row.serial < state.serial
  started : 0 < state.nextRequestID ∧ 0 < state.nextErrorID
  pending : ∀ entry ∈ state.pending, entry.1 < state.serial
  deletes : state.requestDeletes = 0 ∧ state.errorDeletes = 0
  resets : state.resets = 0

end Machine

section Counting

variable {Credit : Type} [CreditAmount Credit]

omit [CreditAmount Credit] in
def RunStage.isReturned : RunStage Credit → Bool
  | .returned => true
  | _ => false

omit [CreditAmount Credit] in
def WarmupState.warmed (state : WarmupState Credit) : Bool :=
  state.run.isReturned && decide (state.resets = 0)

/-- The requests of a model that count: those recorded live, and, once the run has returned
with no reset since the load, the logged rows. -/
def countedRequests (state : WarmupState Credit) (requests : List (RequestRow Credit))
    (model : GoString) : List (Nat × RequestRecord Credit) :=
  recordedRequests model (state.live.map Prod.snd) ++
    if state.warmed then loggedRequests model requests else []

omit [CreditAmount Credit] in
def countedRetries (state : WarmupState Credit) (errors : List ErrorRow) (model : GoString) : Nat :=
  recordedRetries model (state.live.map Prod.snd) +
    if state.warmed then loggedRetries model errors else 0

omit [CreditAmount Credit] in
/-- Within the bounds, the log is as it was at the load; none of it is counted live. -/
structure LogKept (state : WarmupState Credit) (warmup : ModelWarmup)
    (requests : List (RequestRow Credit)) (errors : List ErrorRow) : Prop where
  sameRequests : (state.requests.filter fun row => decide (row.id ≤ warmup.maxRequestID)) =
    requests
  sameErrors : (state.errors.filter fun row => decide (row.id ≤ warmup.maxErrorID)) = errors
  apart : ∀ entry ∈ state.live, (∀ row ∈ requests, row.serial ≠ entry.1) ∧
    ∀ row ∈ errors, row.serial ≠ entry.1

/-- What the store holds at every moment after the load. -/
structure CountsOnce (state : WarmupState Credit) (warmup : ModelWarmup)
    (requests : List (RequestRow Credit)) (errors : List ErrorRow) : Prop where
  mix : ∀ model, MixEntry (countedRequests state requests model)
    (countedRetries state errors model) (state.store.modelStats.get model)
  log : state.resets = 0 → LogKept state warmup requests errors
  once : (state.live.map Prod.fst).Nodup

end Counting

section Invariant

variable {Credit : Type} [CreditAmount Credit]

/-- What `run` has read so far, as long as there was no reset. -/
def RunRead (state : WarmupState Credit) (requests : List (RequestRow Credit))
    (errors : List ErrorRow) : Prop :=
  match state.run with
  | .requestsRead models => ∀ model, MixEntry (loggedRequests model requests) 0 (models.get model)
  | .modelsRead models => ∀ model,
      MixEntry (loggedRequests model requests) (loggedRetries model errors) (models.get model)
  | _ => True

structure Warming (state : WarmupState Credit) (warmup : ModelWarmup)
    (requests : List (RequestRow Credit)) (errors : List ErrorRow) : Prop where
  counts : CountsOnce state warmup requests errors
  live : ∀ entry ∈ state.live, entry.1 < state.serial
  past : warmup.maxRequestID < state.nextRequestID ∧ warmup.maxErrorID < state.nextErrorID
  generation : state.store.generation = warmup.generation + state.resets
  deletes : state.resets = 0 → state.requestDeletes = 0 ∧ state.errorDeletes = 0
  read : state.resets = 0 → RunRead state requests errors

omit [CreditAmount Credit] in
/-- Neither a run nor a reset has begun. -/
def Quiet (state : WarmupState Credit) : Prop :=
  state.run = .waiting ∧ state.requestDeletes = 0 ∧ state.errorDeletes = 0 ∧ state.resets = 0

/-- What holds at each point of the load. -/
def StageHolds (state : WarmupState Credit) : LoadStage Credit → Prop
  | .waiting => Quiet state
  | .requestBound maxRequestID => Quiet state ∧ maxRequestID < state.nextRequestID
  | .bounds maxRequestID maxErrorID => Quiet state ∧
      maxRequestID < state.nextRequestID ∧ maxErrorID < state.nextErrorID
  | .loaded warmup requests errors => Warming state warmup requests errors

/-- What holds in every state of a run. -/
structure Tracks (state : WarmupState Credit) : Prop where
  requestIDs : ∀ row ∈ state.requests, row.id < state.nextRequestID ∧ row.serial < state.serial
  errorIDs : ∀ row ∈ state.errors, row.id < state.nextErrorID ∧ row.serial < state.serial
  started : 0 < state.nextRequestID ∧ 0 < state.nextErrorID
  pending : ∀ entry ∈ state.pending, entry.1 < state.serial
  stage : StageHolds state state.load

end Invariant

section Steps

variable {Credit : Type} [CreditAmount Credit] (state : WarmupState Credit)

omit [CreditAmount Credit] in
theorem recorded_append (model : GoString) (earlier later : List (Recording Credit)) :
    recordedRequests model (earlier ++ later) =
        recordedRequests model earlier ++ recordedRequests model later ∧
      recordedRetries model (earlier ++ later) =
        recordedRetries model earlier + recordedRetries model later :=
  ⟨List.filterMap_append, List.countP_append⟩

/-- A recording is counted and not yet logged. -/
theorem record_tracks (tracks : Tracks state) (recording : Recording Credit) :
    Tracks (state.step (.record recording)) := by
  have generation := (record_stats state.store recording).1
  constructor
  · intro row member
    obtain ⟨id, serial⟩ := tracks.requestIDs row member
    exact ⟨id, Nat.lt_succ_of_lt serial⟩
  · intro row member
    obtain ⟨id, serial⟩ := tracks.errorIDs row member
    exact ⟨id, Nat.lt_succ_of_lt serial⟩
  · exact tracks.started
  · intro entry member
    cases List.mem_append.mp member with
    | inl earlier => exact Nat.lt_succ_of_lt (tracks.pending entry earlier)
    | inr last =>
        rw [List.mem_singleton.mp last]
        exact Nat.lt_succ_self _
  · have stage := tracks.stage
    change StageHolds (state.step (.record recording)) state.load
    generalize state.load = load at stage ⊢
    cases load with
    | waiting => exact stage
    | requestBound maxRequestID => exact stage
    | bounds maxRequestID maxErrorID => exact stage
    | loaded warmup requests errors =>
        have warming : Warming state warmup requests errors := stage
        constructor
        · constructor
          · intro model
            have counted := record_entry state.store recording model _ _
              (warming.counts.mix model)
            have appended := recorded_append model (state.live.map Prod.snd) [recording]
            change MixEntry (recordedRequests model ((state.live ++ [_]).map Prod.snd) ++ _)
              (recordedRetries model ((state.live ++ [_]).map Prod.snd) + _) _
            rw [List.map_append, List.map_singleton, appended.1, appended.2, Nat.add_right_comm]
            apply counted.perm
            unfold countedRequests
            rw [List.append_assoc, List.append_assoc]
            exact List.perm_append_comm.append_left _
          · intro none
            have log := warming.counts.log none
            refine ⟨log.sameRequests, log.sameErrors, ?_⟩
            intro entry member
            cases List.mem_append.mp member with
            | inl earlier => exact log.apart entry earlier
            | inr last =>
                rw [List.mem_singleton.mp last]
                constructor
                · intro row inside
                  rw [← log.sameRequests] at inside
                  exact Nat.ne_of_lt (tracks.requestIDs row (List.mem_filter.mp inside).1).2
                · intro row inside
                  rw [← log.sameErrors] at inside
                  exact Nat.ne_of_lt (tracks.errorIDs row (List.mem_filter.mp inside).1).2
          · change ((state.live ++ [_]).map Prod.fst).Nodup
            rw [List.map_append, List.map_singleton, ← List.concat_eq_append, List.nodup_concat]
            refine ⟨?_, warming.counts.once⟩
            intro member
            obtain ⟨entry, inside, same⟩ := List.mem_map.mp member
            exact Nat.ne_of_lt (warming.live entry inside) same
        · intro entry member
          cases List.mem_append.mp member with
          | inl earlier => exact Nat.lt_succ_of_lt (warming.live entry earlier)
          | inr last =>
              rw [List.mem_singleton.mp last]
              exact Nat.lt_succ_self _
        · exact warming.past
        · exact generation.trans warming.generation
        · exact warming.deletes
        · exact warming.read

omit [CreditAmount Credit] in
/-- A row past the bound is not within it. -/
theorem filter_past {Row : Type} (id : Row → Nat) (bound : Nat) (rows : List Row) (row : Row)
    (past : bound < id row) :
    ((rows ++ [row]).filter fun row => decide (id row ≤ bound)) =
      rows.filter fun row => decide (id row ≤ bound) := by
  rw [List.filter_append, List.filter_singleton, decide_eq_false (by omega), cond_false,
    List.append_nil]

/-- A row that is logged after the load is past its bounds. -/
theorem logged_tracks (tracks : Tracks state) (serial : Nat) (recording : Recording Credit)
    (earlier : serial < state.serial) : Tracks (state.logged serial recording) := by
  unfold WarmupState.logged
  cases recording.what with
  | request record =>
      constructor
      · intro row member
        cases List.mem_append.mp member with
        | inl inside =>
            obtain ⟨id, before⟩ := tracks.requestIDs row inside
            exact ⟨Nat.lt_succ_of_lt id, before⟩
        | inr last =>
            rw [List.mem_singleton.mp last]
            exact ⟨Nat.lt_succ_self _, earlier⟩
      · exact tracks.errorIDs
      · exact ⟨Nat.succ_pos _, tracks.started.2⟩
      · exact tracks.pending
      · have stage := tracks.stage
        simp only
        generalize state.load = load at stage ⊢
        cases load with
        | waiting => exact stage
        | requestBound maxRequestID => exact ⟨stage.1, Nat.lt_succ_of_lt stage.2⟩
        | bounds maxRequestID maxErrorID =>
            exact ⟨stage.1, Nat.lt_succ_of_lt stage.2.1, stage.2.2⟩
        | loaded warmup requests errors =>
            have warming : Warming state warmup requests errors := stage
            refine ⟨⟨warming.counts.mix, ?_, warming.counts.once⟩, warming.live,
              ⟨Nat.lt_succ_of_lt warming.past.1, warming.past.2⟩, warming.generation,
              warming.deletes, warming.read⟩
            intro none
            have log := warming.counts.log none
            refine ⟨?_, log.sameErrors, log.apart⟩
            rw [← log.sameRequests]
            exact filter_past RequestRow.id _ _ _ warming.past.1
  | failedAttempt accountID model =>
      constructor
      · exact tracks.requestIDs
      · intro row member
        cases List.mem_append.mp member with
        | inl inside =>
            obtain ⟨id, before⟩ := tracks.errorIDs row inside
            exact ⟨Nat.lt_succ_of_lt id, before⟩
        | inr last =>
            rw [List.mem_singleton.mp last]
            exact ⟨Nat.lt_succ_self _, earlier⟩
      · exact ⟨tracks.started.1, Nat.succ_pos _⟩
      · exact tracks.pending
      · have stage := tracks.stage
        simp only
        generalize state.load = load at stage ⊢
        cases load with
        | waiting => exact stage
        | requestBound maxRequestID => exact stage
        | bounds maxRequestID maxErrorID =>
            exact ⟨stage.1, stage.2.1, Nat.lt_succ_of_lt stage.2.2⟩
        | loaded warmup requests errors =>
            have warming : Warming state warmup requests errors := stage
            refine ⟨⟨warming.counts.mix, ?_, warming.counts.once⟩, warming.live,
              ⟨warming.past.1, Nat.lt_succ_of_lt warming.past.2⟩, warming.generation,
              warming.deletes, warming.read⟩
            intro none
            have log := warming.counts.log none
            refine ⟨log.sameRequests, ?_, log.apart⟩
            rw [← log.sameErrors]
            exact filter_past ErrorRow.id _ _ _ warming.past.2

theorem persist_tracks (tracks : Tracks state) (place : Nat) (saved : Bool) :
    Tracks (state.step (.persist place saved)) := by
  change Tracks (match state.pending[place]? with
    | none => state
    | some (serial, recording) =>
        if saved then
          { state with pending := state.pending.eraseIdx place }.logged serial recording
        else { state with pending := state.pending.eraseIdx place })
  cases found : state.pending[place]? with
  | none => exact tracks
  | some entry =>
      obtain ⟨serial, recording⟩ := entry
      have rest : Tracks { state with pending := state.pending.eraseIdx place } := by
        refine ⟨tracks.requestIDs, tracks.errorIDs, tracks.started, ?_, ?_⟩
        · intro entry member
          exact tracks.pending entry (List.mem_of_mem_eraseIdx member)
        · have stage := tracks.stage
          simp only
          generalize state.load = load at stage ⊢
          cases load with
          | waiting => exact stage
          | requestBound maxRequestID => exact stage
          | bounds maxRequestID maxErrorID => exact stage
          | loaded warmup requests errors =>
              have log : ∀ none : state.resets = 0, _ := stage.counts.log
              exact ⟨⟨stage.counts.mix, fun none => ⟨(log none).sameRequests,
                (log none).sameErrors, (log none).apart⟩, stage.counts.once⟩, stage.live,
                stage.past, stage.generation, stage.deletes, stage.read⟩
      have earlier := tracks.pending _ (List.mem_of_getElem? found)
      simp only
      split_ifs
      · exact logged_tracks _ rest serial recording earlier
      · exact rest

/-- A reset empties the mix and makes what the warmup has read stale. -/
theorem reset_tracks (tracks : Tracks state) (now : Nat) : Tracks (state.step (.reset now)) := by
  have stage := tracks.stage
  unfold WarmupState.step
  cases load : state.load with
  | waiting => exact tracks
  | requestBound maxRequestID => exact tracks
  | bounds maxRequestID maxErrorID => exact tracks
  | loaded warmup requests errors =>
      rw [load] at stage
      have warming : Warming state warmup requests errors := stage
      simp only
      refine ⟨tracks.requestIDs, tracks.errorIDs, tracks.started, tracks.pending, ?_⟩
      have stale : (state.run.isReturned && decide (state.resets + 1 = 0)) = false := by
        rw [decide_eq_false (Nat.succ_ne_zero _), Bool.and_false]
      refine ⟨⟨?_, fun none => absurd none (Nat.succ_ne_zero _), List.nodup_nil⟩, ?_,
        warming.past, ?_, fun none => absurd none (Nat.succ_ne_zero _),
        fun none => absurd none (Nat.succ_ne_zero _)⟩
      · intro model
        unfold countedRequests countedRetries WarmupState.warmed
        simp only
        rw [stale, if_neg Bool.false_ne_true, if_neg Bool.false_ne_true]
        exact entry_none
      · intro entry member
        cases member
      · change state.store.generation + 1 = warmup.generation + (state.resets + 1)
        rw [warming.generation, Nat.add_assoc]

theorem deletes_track (tracks : Tracks state) :
    Tracks (state.step .deleteRequests) ∧ Tracks (state.step .deleteErrors) := by
  have stage := tracks.stage
  constructor
  · unfold WarmupState.step
    simp only
    split_ifs with owed
    · exact tracks
    · refine ⟨?_, tracks.errorIDs, tracks.started, tracks.pending, ?_⟩
      · intro row member
        cases member
      · simp only
        generalize state.load = load at stage ⊢
        cases load with
        | waiting => exact absurd stage.2.1 owed
        | requestBound maxRequestID => exact absurd stage.1.2.1 owed
        | bounds maxRequestID maxErrorID => exact absurd stage.1.2.1 owed
        | loaded warmup requests errors =>
            have again : state.resets ≠ 0 := fun none => owed (stage.deletes none).1
            exact ⟨⟨stage.counts.mix, fun none => absurd none again, stage.counts.once⟩,
              stage.live, stage.past, stage.generation, fun none => absurd none again, stage.read⟩
  · unfold WarmupState.step
    simp only
    split_ifs with owed
    · exact tracks
    · refine ⟨tracks.requestIDs, ?_, tracks.started, tracks.pending, ?_⟩
      · intro row member
        cases member
      · simp only
        generalize state.load = load at stage ⊢
        cases load with
        | waiting => exact absurd stage.2.2.1 owed
        | requestBound maxRequestID => exact absurd stage.1.2.2.1 owed
        | bounds maxRequestID maxErrorID => exact absurd stage.1.2.2.1 owed
        | loaded warmup requests errors =>
            have again : state.resets ≠ 0 := fun none => owed (stage.deletes none).2
            exact ⟨⟨stage.counts.mix, fun none => absurd none again, stage.counts.once⟩,
              stage.live, stage.past, stage.generation, fun none => absurd none again, stage.read⟩

omit [CreditAmount Credit] in
/-- The greatest id is one that was given out. -/
theorem maxID_lt (ids : List Nat) (next : Nat) (started : 0 < next)
    (given : ∀ id ∈ ids, id < next) : maxID ids < next := by
  unfold maxID
  have each : ∀ bound < next, ids.foldl max bound < next := by
    induction ids with
    | nil => exact fun _ below => below
    | cons id ids ih =>
        intro bound below
        rw [List.foldl_cons]
        apply ih fun other member => given other (List.mem_cons_of_mem _ member)
        exact Nat.max_lt.mpr ⟨below, given id List.mem_cons_self⟩
  exact each 0 started

theorem bounds_track (tracks : Tracks state) :
    Tracks (state.step .readRequestBound) ∧ Tracks (state.step .readErrorBound) := by
  have stage := tracks.stage
  constructor
  · unfold WarmupState.step
    cases load : state.load with
    | waiting =>
        rw [load] at stage
        refine ⟨tracks.requestIDs, tracks.errorIDs, tracks.started, tracks.pending, stage, ?_⟩
        apply maxID_lt _ _ tracks.started.1
        intro id member
        obtain ⟨row, inside, same⟩ := List.mem_map.mp member
        rw [← same]
        exact (tracks.requestIDs row inside).1
    | requestBound maxRequestID => exact tracks
    | bounds maxRequestID maxErrorID => exact tracks
    | loaded warmup requests errors => exact tracks
  · unfold WarmupState.step
    cases load : state.load with
    | waiting => exact tracks
    | requestBound maxRequestID =>
        rw [load] at stage
        refine ⟨tracks.requestIDs, tracks.errorIDs, tracks.started, tracks.pending, stage.1,
          stage.2, ?_⟩
        apply maxID_lt _ _ tracks.started.2
        intro id member
        obtain ⟨row, inside, same⟩ := List.mem_map.mp member
        rw [← same]
        exact (tracks.errorIDs row inside).1
    | bounds maxRequestID maxErrorID => exact tracks
    | loaded warmup requests errors => exact tracks

/-- The load starts from an empty mix, with all rows within its bounds logged before it. -/
theorem load_tracks (tracks : Tracks state) (range : MapRange (GoString × Nat))
    (touched curMin : Nat) (rows : List (MinuteRow Credit)) :
    Tracks (state.step (.loadReset range touched curMin rows)) := by
  have stage := tracks.stage
  unfold WarmupState.step
  cases load : state.load with
  | waiting => exact tracks
  | requestBound maxRequestID => exact tracks
  | loaded warmup requests errors => exact tracks
  | bounds maxRequestID maxErrorID =>
      rw [load] at stage
      obtain ⟨⟨waiting, requestDeletes, errorDeletes, resets⟩, past⟩ := stage
      obtain ⟨stats, generation⟩ := addMinutes_stats range touched curMin rows
        state.store.resetLocked
      refine ⟨tracks.requestIDs, tracks.errorIDs, tracks.started, tracks.pending, ?_⟩
      refine ⟨⟨?_, ?_, List.nodup_nil⟩, ?_, past, ?_, fun _ => ⟨requestDeletes, errorDeletes⟩, ?_⟩
      · intro model
        unfold countedRequests countedRetries WarmupState.warmed
        simp only
        rw [waiting, stats]
        exact entry_none
      · intro _
        refine ⟨rfl, rfl, ?_⟩
        intro entry member
        cases member
      · intro entry member
        cases member
      · change _ = state.store.resetLocked.generation + state.resets
        rw [resets]
        exact generation
      · intro _
        unfold RunRead
        simp only
        rw [waiting]
        trivial

omit [CreditAmount Credit] in
/-- Only recordings count as long as the run has not returned. -/
theorem unwarmed (running : state.run.isReturned = false) (requests : List (RequestRow Credit))
    (errors : List ErrorRow) (model : GoString) :
    countedRequests state requests model = recordedRequests model (state.live.map Prod.snd) ∧
      countedRetries state errors model = recordedRetries model (state.live.map Prod.snd) := by
  unfold countedRequests countedRetries WarmupState.warmed
  rw [running, Bool.false_and, if_neg Bool.false_ne_true, if_neg Bool.false_ne_true,
    List.append_nil]
  exact ⟨rfl, rfl⟩

/-- A step of the run before it returns. -/
theorem running_tracks (tracks : Tracks state) (warmup : ModelWarmup)
    (requests : List (RequestRow Credit)) (errors : List ErrorRow)
    (load : state.load = .loaded warmup requests errors) (run : RunStage Credit)
    (before : state.run.isReturned = false) (after : run.isReturned = false)
    (read : state.resets = 0 → RunRead { state with run := run } requests errors) :
    Tracks { state with run := run } := by
  have stage := tracks.stage
  rw [load] at stage
  have warming : Warming state warmup requests errors := stage
  have log : ∀ none : state.resets = 0, _ := warming.counts.log
  refine ⟨tracks.requestIDs, tracks.errorIDs, tracks.started, tracks.pending,
    (congrArg (StageHolds { state with run := run }) load).mpr ?_⟩
  refine ⟨⟨?_, fun none => ⟨(log none).sameRequests, (log none).sameErrors, (log none).apart⟩,
    warming.counts.once⟩, warming.live, warming.past, warming.generation, warming.deletes, read⟩
  intro model
  have counted := warming.counts.mix model
  obtain ⟨sameRequests, sameRetries⟩ := unwarmed state before requests errors model
  obtain ⟨nextRequests, nextRetries⟩ :=
    unwarmed { state with run := run } after requests errors model
  rw [nextRequests, nextRetries]
  rw [sameRequests, sameRetries] at counted
  exact counted

/-- The first query reads the rows of the load, unless there was a reset. -/
theorem runRequests_tracks (tracks : Tracks state) : Tracks (state.step .runRequests) := by
  have stage := tracks.stage
  unfold WarmupState.step
  simp only
  split
  next warmup requests errors load run =>
    rw [load] at stage
    have warming : Warming state warmup requests errors := stage
    have before : state.run.isReturned = false := by rw [run]; rfl
    apply running_tracks state tracks warmup requests errors load _ before rfl
    intro none model
    rw [← (warming.counts.log none).sameRequests]
    exact request_stats_entry state.requests warmup.maxRequestID model
  next => exact tracks

theorem runErrors_tracks (tracks : Tracks state) (range : MapRange (GoString × Nat)) :
    Tracks (state.step (.runErrors range)) := by
  have stage := tracks.stage
  unfold WarmupState.step
  simp only
  split
  next warmup requests errors models load run =>
    rw [load] at stage
    have warming : Warming state warmup requests errors := stage
    have before : state.run.isReturned = false := by rw [run]; rfl
    apply running_tracks state tracks warmup requests errors load _ before rfl
    intro none model
    have read := warming.read none
    unfold RunRead at read
    rw [run] at read
    rw [← (warming.counts.log none).sameErrors]
    exact retry_stats_entry models range state.errors warmup.maxErrorID model _ (read model)
  next => exact tracks

theorem runFails_tracks (tracks : Tracks state) : Tracks (state.step .runFails) := by
  unfold WarmupState.step
  simp only
  split
  next warmup requests errors load run =>
    have before : state.run.isReturned = false := by rw [run]; rfl
    exact running_tracks state tracks warmup requests errors load _ before rfl fun _ => trivial
  next warmup requests errors models load run =>
    have before : state.run.isReturned = false := by rw [run]; rfl
    exact running_tracks state tracks warmup requests errors load _ before rfl fun _ => trivial
  next => exact tracks

/-- The last turn of `run` adds what it read exactly if there was no reset. -/
theorem apply_tracks (tracks : Tracks state) (range : MapRange (GoString × ModelStat Credit)) :
    Tracks (state.step (.runApply range)) := by
  have stage := tracks.stage
  unfold WarmupState.step
  simp only
  split
  next warmup requests errors models load run =>
    rw [load] at stage
    have warming : Warming state warmup requests errors := stage
    have before : state.run.isReturned = false := by rw [run]; rfl
    have log : ∀ none : state.resets = 0, _ := warming.counts.log
    have generation := warming.generation
    have live (model : GoString) : MixEntry (recordedRequests model (state.live.map Prod.snd))
        (recordedRetries model (state.live.map Prod.snd)) (state.store.modelStats.get model) := by
      have counted := warming.counts.mix model
      obtain ⟨sameRequests, sameRetries⟩ := unwarmed state before requests errors model
      rw [sameRequests, sameRetries] at counted
      exact counted
    split_ifs with reset
    · -- A reset has raised the generation: what was read is dropped.
      have again : state.resets ≠ 0 := by
        intro none
        rw [none, Nat.add_zero] at generation
        exact reset generation
      refine ⟨tracks.requestIDs, tracks.errorIDs, tracks.started, tracks.pending,
        (congrArg (StageHolds { state with run := .returned }) load).mpr ?_⟩
      refine ⟨⟨?_, fun none => absurd none again, warming.counts.once⟩, warming.live,
        warming.past, generation, warming.deletes, fun none => absurd none again⟩
      intro model
      unfold countedRequests countedRetries WarmupState.warmed
      rw [decide_eq_false again, Bool.and_false, if_neg Bool.false_ne_true,
        if_neg Bool.false_ne_true, List.append_nil]
      exact live model
    · have none : state.resets = 0 := by
        have same := not_not.mp reset
        omega
      refine ⟨tracks.requestIDs, tracks.errorIDs, tracks.started, tracks.pending,
        (congrArg (StageHolds { state with
          store := state.store.addModels range models, run := .returned }) load).mpr ?_⟩
      refine ⟨⟨?_, fun _ => ⟨(log none).sameRequests, (log none).sameErrors, (log none).apart⟩,
        warming.counts.once⟩, warming.live, warming.past, generation, warming.deletes,
        fun _ => trivial⟩
      intro model
      have read := warming.read none
      unfold RunRead at read
      rw [run] at read
      unfold countedRequests countedRetries WarmupState.warmed
      rw [decide_eq_true none, Bool.and_true]
      exact add_models_entry range models state.store model _ _ _ _ (live model) (read model)
  next => exact tracks

end Steps

section Runs

variable {Credit : Type} [CreditAmount Credit]

theorem tracks_step (state : WarmupState Credit) (event : WarmupEvent Credit)
    (tracks : Tracks state) : Tracks (state.step event) := by
  cases event with
  | record recording => exact record_tracks state tracks recording
  | persist place saved => exact persist_tracks state tracks place saved
  | reset now => exact reset_tracks state tracks now
  | deleteRequests => exact (deletes_track state tracks).1
  | deleteErrors => exact (deletes_track state tracks).2
  | readRequestBound => exact (bounds_track state tracks).1
  | readErrorBound => exact (bounds_track state tracks).2
  | loadReset range touched curMin rows => exact load_tracks state tracks range touched curMin rows
  | runRequests => exact runRequests_tracks state tracks
  | runErrors range => exact runErrors_tracks state tracks range
  | runFails => exact runFails_tracks state tracks
  | runApply range => exact apply_tracks state tracks range

theorem unloaded_tracks (state : WarmupState Credit) (start : Unloaded state) : Tracks state where
  requestIDs := start.requestIDs
  errorIDs := start.errorIDs
  started := start.started
  pending := start.pending
  stage := by
    rw [start.load]
    exact ⟨start.run, start.deletes.1, start.deletes.2, start.resets⟩

/-- In every state after the load, of every interleaving, the model mix is what was recorded
live since the load or the last reset, and, once the run has returned with no reset, the rows
that were logged within the bounds of the load. -/
theorem warmup_counts_once (start : WarmupState Credit) (unloaded : Unloaded start)
    (events : List (WarmupEvent Credit)) (warmup : ModelWarmup)
    (requests : List (RequestRow Credit)) (errors : List ErrorRow)
    (loaded : (run WarmupState.step start events).load = .loaded warmup requests errors) :
    CountsOnce (run WarmupState.step start events) warmup requests errors := by
  have tracks := invariant_of_steps WarmupState.step Tracks tracks_step start
    (unloaded_tracks start unloaded) events
  have stage := tracks.stage
  rw [loaded] at stage
  exact Warming.counts stage

def warmupRecord : RequestRecord Int :=
  ⟨lit "a", [], [], [], lit "m", 5, 7, 2, true, 200, [], ⟨0, 0⟩⟩

/-- One request in the log. -/
def warmupStart : WarmupState Int where
  store := .start 0
  requests := [⟨1, 60, warmupRecord, 0⟩]
  errors := []
  nextRequestID := 2
  nextErrorID := 1
  requestDeletes := 0
  errorDeletes := 0
  load := .waiting
  run := .waiting
  pending := []
  live := []
  serial := 1
  resets := 0

/-- Another one is recorded and logged while the warmup is pending. -/
def warmupEvents : List (WarmupEvent Int) :=
  [.readRequestBound, .readErrorBound, .loadReset (.asStored _) 120 2 [],
    .record ⟨130, 130, .asStored _, .request warmupRecord⟩, .persist 0 true,
    .runRequests, .runErrors (.asStored _), .runApply (.asStored _)]

theorem both_requests_once :
    (((run WarmupState.step warmupStart warmupEvents).store.modelStats.get (lit "m")).getD
      .start).reqs = 2 := by
  have unloaded : Unloaded warmupStart := by
    refine ⟨rfl, rfl, by decide, by decide, by decide, by decide, ⟨rfl, rfl⟩, rfl⟩
  have counts := warmup_counts_once warmupStart unloaded warmupEvents ⟨1, 0, 1⟩
    [⟨1, 60, warmupRecord, 0⟩] [] rfl
  exact (counts.mix (lit "m")).reqs.trans (by decide)

end Runs

end KiroProxy.Observe
