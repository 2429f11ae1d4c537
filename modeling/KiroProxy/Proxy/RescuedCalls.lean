import KiroProxy.Foundation.Cancelling
import KiroProxy.Proxy.EventStream

/-!
# Rescued calls

`emitRescued` of `proxy/tool_markup_rescue.go` as the loop it is: every call it forwards goes
through the tracked callback and counts as seen while the loop runs.
-/

namespace KiroProxy.RescuedCalls

open EventStream Foundation.Cancelling Foundation.Emissions Foundation.Emissions.Emission GoStrings
open KiroTypes ToolMarkup

set_option autoImplicit false

section Loop

variable {Credit : Type} (callback : KiroStreamCallback)
  (newID : Nat → GoString)

/-- The loop over the rescued calls; `realCalls` is what is left of the counts taken before it. -/
def forwardRescued : (GoString → Nat) → List KiroToolUse → StreamState Credit → StreamRun Credit
  | _, [], state => done state
  | realCalls, toolUse :: rescued, state =>
      let signature := toolUseSignature toolUse
      if 0 < realCalls signature then
        forwardRescued (Function.update realCalls signature (realCalls signature - 1)) rescued state
      else
        (runOnToolUse callback { state with newIDs := state.newIDs + 1 }
          { toolUse with toolUseID := newID state.newIDs }).andThen
          (forwardRescued realCalls rescued)

def clearRescued (state : StreamState Credit) : StreamState Credit :=
  { state with markup := state.markup.map fun filter => { filter with rescued := [] } }

def emitRescuedLoop (state : StreamState Credit) : StreamRun Credit :=
  match state.markup with
  | none => done state
  | some filter =>
      (forwardRescued callback newID state.seen filter.rescued state).andThen fun state =>
        done (clearRescued state)

/-- The calls under the ids that are new from `ids` on. -/
def withNewIDs (ids : Nat) (calls : List KiroToolUse) : List KiroToolUse :=
  calls.mapIdx fun index call => { call with toolUseID := newID (ids + index) }

/-- What a client sees of calls, if it takes any. -/
def forwarded (calls : List KiroToolUse) : List (CallbackRun Credit) :=
  if callback.onToolUse then calls.map .toolUse else []

/-- What calls through the tracked callback show and leave behind. -/
structure Tracks (before : StreamState Credit) (calls : List KiroToolUse) (drawn : Nat)
    (run : StreamRun Credit) : Prop where
  clean : run.fault = none
  outputs : run.outputs = forwarded callback calls
  markup : run.state.markup = before.markup
  newIDs : run.state.newIDs = before.newIDs + drawn
  seen : ∀ signature, run.state.seen signature =
    before.seen signature + copies toolUseSignature calls signature

theorem forwarded_append (earlier later : List KiroToolUse) :
    (forwarded callback (earlier ++ later) : List (CallbackRun Credit)) =
      forwarded callback earlier ++ forwarded callback later := by
  unfold forwarded
  split_ifs
  · exact List.map_append
  · rfl

theorem nothing_tracks (state : StreamState Credit) : Tracks callback state [] 0 (done state) where
  clean := rfl
  outputs := (ite_self []).symm
  markup := rfl
  newIDs := rfl
  seen := fun _ => rfl

theorem call_tracks (state : StreamState Credit) (some_ : state.markup.isSome = true)
    (call : KiroToolUse) : Tracks callback state [call] 0 (runOnToolUse callback state call) := by
  have counted : ∀ signature,
      Function.update state.seen (toolUseSignature call)
          (state.seen (toolUseSignature call) + 1) signature =
        state.seen signature + copies toolUseSignature [call] signature := by
    intro signature
    rw [copies_cons]
    by_cases same : toolUseSignature call = signature
    · subst same
      rw [Function.update_self, if_pos rfl]
      rfl
    · rw [Function.update_of_ne (Ne.symm same), if_neg same]
      rfl
  unfold runOnToolUse
  simp only [some_, if_true]
  split_ifs with wanted
  · exact ⟨rfl, by rw [forwarded, if_pos wanted]; rfl, rfl, rfl, counted⟩
  · exact ⟨rfl, by rw [forwarded, if_neg wanted]; rfl, rfl, rfl, counted⟩

theorem tracks_then (state : StreamState Credit) (earlier later : List KiroToolUse)
    (drawn more : Nat) (first : StreamRun Credit) (next : StreamState Credit → StreamRun Credit)
    (left : Tracks callback state earlier drawn first)
    (right : Tracks callback first.state later more (next first.state)) :
    Tracks callback state (earlier ++ later) (drawn + more) (first.andThen next) := by
  rw [then_of_none first next left.clean]
  refine ⟨right.clean, ?_, right.markup.trans left.markup, ?_, ?_⟩
  · rw [forwarded_append, ← left.outputs, ← right.outputs]
  · change (next first.state).state.newIDs = _
    rw [right.newIDs, left.newIDs, Nat.add_assoc]
  · intro signature
    change (next first.state).state.seen signature = _
    rw [right.seen, left.seen, copies_append, Nat.add_assoc]

theorem calls_track (calls : List KiroToolUse) (state : StreamState Credit)
    (some_ : state.markup.isSome = true) :
    Tracks callback state calls 0 (emitAll (runOnToolUse callback) state calls) := by
  induction calls generalizing state with
  | nil => exact nothing_tracks callback state
  | cons call calls ih =>
      have first := call_tracks callback state some_ call
      apply tracks_then callback state [call] calls 0 0 _ _ first
      apply ih
      rw [first.markup, some_]

theorem with_new_ids_cons (ids : Nat) (call : KiroToolUse) (calls : List KiroToolUse) :
    withNewIDs newID ids (call :: calls) =
      { call with toolUseID := newID ids } :: withNewIDs newID (ids + 1) calls := by
  unfold withNewIDs
  rw [List.mapIdx_cons, Nat.add_zero]
  congr 1
  apply List.mapIdx_eq_mapIdx_iff.mpr
  intro index inside
  rw [Nat.add_assoc, Nat.add_comm 1 index]

/-- A new id is no part of a signature. -/
theorem copies_new_ids (ids : Nat) (calls : List KiroToolUse) (signature : GoString) :
    copies toolUseSignature (withNewIDs newID ids calls) signature =
      copies toolUseSignature calls signature := by
  induction calls generalizing ids with
  | nil => rfl
  | cons call calls ih =>
      rw [with_new_ids_cons, copies_cons, copies_cons, ih]
      rfl

/-- The counts of the real calls cancel their copies, whatever the loop itself adds to `seen`. -/
theorem forward_tracks (rescued : List KiroToolUse) (realCalls : GoString → Nat)
    (state : StreamState Credit) (some_ : state.markup.isSome = true) :
    Tracks callback state
      (withNewIDs newID state.newIDs (cancel toolUseSignature realCalls rescued))
      (cancel toolUseSignature realCalls rescued).length
      (forwardRescued callback newID realCalls rescued state) := by
  induction rescued generalizing realCalls state with
  | nil => exact nothing_tracks callback state
  | cons toolUse rescued ih =>
      rw [forwardRescued, cancel]
      by_cases again : 0 < realCalls (toolUseSignature toolUse)
      · simp only [if_pos again]
        exact ih _ state some_
      · simp only [if_neg again]
        have first := call_tracks callback { state with newIDs := state.newIDs + 1 } some_
          { toolUse with toolUseID := newID state.newIDs }
        have later := ih realCalls _ (first.markup ▸ some_)
        rw [first.newIDs] at later
        rw [with_new_ids_cons, List.length_cons,
          Nat.add_comm (cancel toolUseSignature realCalls rescued).length]
        exact tracks_then callback state [_] _ 1 _ _ _
          ⟨first.clean, first.outputs, first.markup, first.newIDs, first.seen⟩ later

/-- The state with its filter and its count of ids replaced. -/
def refit (filter : ToolMarkupFilter) (ids : Nat) (state : StreamState Credit) :
    StreamState Credit :=
  { state with markup := some filter, newIDs := ids }

/-- The tracked callback reads neither the filter nor the ids. -/
theorem call_refit (filter : ToolMarkupFilter) (ids : Nat) (state : StreamState Credit)
    (some_ : state.markup.isSome = true) (call : KiroToolUse) :
    runOnToolUse callback (refit filter ids state) call =
      ⟨refit filter ids (runOnToolUse callback state call).state,
        (runOnToolUse callback state call).outputs, none⟩ := by
  unfold runOnToolUse refit
  simp only [some_, Option.isSome_some, if_true]
  split_ifs
  · rfl
  · rfl

/-- The calls are what they are when they are all taken before the first one runs. -/
theorem forward_emits (filter : ToolMarkupFilter) (rescued : List KiroToolUse)
    (realCalls : GoString → Nat) (ids : Nat) (state : StreamState Credit)
    (some_ : state.markup.isSome = true) :
    emitAll (runOnToolUse callback) (refit filter ids state)
        (rescuedCalls newID realCalls rescued state.newIDs) =
      ⟨refit filter ids (forwardRescued callback newID realCalls rescued state).state,
        (forwardRescued callback newID realCalls rescued state).outputs, none⟩ := by
  induction rescued generalizing realCalls state with
  | nil => rfl
  | cons toolUse rescued ih =>
      rw [forwardRescued, rescuedCalls]
      by_cases again : 0 < realCalls (toolUseSignature toolUse)
      · simp only [if_pos again]
        exact ih _ state some_
      · simp only [if_neg again]
        have first := call_tracks callback { state with newIDs := state.newIDs + 1 } some_
          { toolUse with toolUseID := newID state.newIDs }
        have later := ih realCalls _ (first.markup ▸ some_)
        have stripped := call_refit callback filter ids
          { state with newIDs := state.newIDs + 1 } some_
          { toolUse with toolUseID := newID state.newIDs }
        rw [emitAll, then_of_none _ _ first.clean]
        rw [first.newIDs] at later
        change Emission.andThen (runOnToolUse callback (refit filter ids
          { state with newIDs := state.newIDs + 1 }) _) _ = _
        rw [stripped, then_of_none _ _ rfl]
        change Emission.mk (emitAll (runOnToolUse callback) (refit filter ids _)
          (rescuedCalls newID realCalls rescued (state.newIDs + 1))).state _ _ = _
        rw [later]

theorem rescued_calls_length (realCalls : GoString → Nat) (rescued : List KiroToolUse)
    (ids : Nat) : (rescuedCalls newID realCalls rescued ids).length =
      (cancel toolUseSignature realCalls rescued).length := by
  induction rescued generalizing realCalls ids with
  | nil => rfl
  | cons toolUse rescued ih =>
      rw [rescuedCalls, cancel]
      by_cases again : 0 < realCalls (toolUseSignature toolUse)
      · simp only [if_pos again]
        exact ih _ ids
      · simp only [if_neg again, List.length_cons]
        rw [ih]

theorem emit_rescued_some (state : StreamState Credit) (filter : ToolMarkupFilter)
    (held : state.markup = some filter) :
    emitRescuedLoop callback newID state =
      ⟨clearRescued (forwardRescued callback newID state.seen filter.rescued state).state,
        (forwardRescued callback newID state.seen filter.rescued state).outputs, none⟩ := by
  have looped := forward_tracks callback newID filter.rescued state.seen state
    (held ▸ rfl)
  unfold emitRescuedLoop
  simp only [held, then_of_none _ _ looped.clean, done, List.append_nil]

theorem clear_refit (state : StreamState Credit) (filter : ToolMarkupFilter)
    (held : state.markup = some filter) :
    clearRescued state = refit { filter with rescued := [] } state.newIDs state := by
  unfold clearRescued refit
  rw [held]
  rfl

theorem emit_rescued_loop (state : StreamState Credit) :
    emitRescued callback newID state = emitRescuedLoop callback newID state := by
  cases held : state.markup with
  | none =>
      unfold emitRescued emitRescuedLoop
      rw [held]
  | some filter =>
      have some_ : state.markup.isSome = true := held ▸ rfl
      have looped := forward_tracks callback newID filter.rescued state.seen state
        some_
      have whole := forward_emits callback newID { filter with rescued := [] }
        filter.rescued state.seen (state.newIDs +
          (rescuedCalls newID state.seen filter.rescued state.newIDs).length) state some_
      rw [emit_rescued_some callback newID state filter held,
        clear_refit _ filter (looped.markup.trans held), looped.newIDs,
        ← rescued_calls_length newID state.seen filter.rescued state.newIDs, ← whole]
      unfold emitRescued
      rw [held]
      rfl

end Loop

section Cancelled

variable {Credit : Type} (callback : KiroStreamCallback)
  (newID : Nat → GoString)

/-- A stream that has made the real calls and holds what the filter rescued. -/
def calledFor (state : StreamState Credit) (filter : ToolMarkupFilter) (real : List KiroToolUse) :
    StreamState Credit :=
  (emitAll (runOnToolUse callback) { state with markup := some filter, seen := fun _ => 0 }
    real).state

/-- Each rescued call goes to the client but for the copies of the real calls. -/
theorem rescued_duplicates_cancelled (state : StreamState Credit) (filter : ToolMarkupFilter)
    (real : List KiroToolUse) :
    ∃ kept : List KiroToolUse, List.Sublist kept filter.rescued ∧
      (∀ signature, copies toolUseSignature kept signature =
        copies toolUseSignature filter.rescued signature - copies toolUseSignature real signature) ∧
      (emitRescuedLoop callback newID (calledFor callback state filter real)).outputs =
        forwarded callback (withNewIDs newID state.newIDs kept) ∧
      (∀ signature,
        (emitRescuedLoop callback newID (calledFor callback state filter real)).state.seen
            signature =
          copies toolUseSignature real signature + copies toolUseSignature kept signature) ∧
      emitRescued callback newID (calledFor callback state filter real) =
        emitRescuedLoop callback newID (calledFor callback state filter real) := by
  have called := calls_track callback real
    { state with markup := some filter, seen := fun _ => 0 } rfl
  have held : (calledFor callback state filter real).markup = some filter := called.markup
  have counts : (calledFor callback state filter real).seen = copies toolUseSignature real := by
    funext signature
    exact (called.seen signature).trans (Nat.zero_add _)
  have ids : (calledFor callback state filter real).newIDs = state.newIDs := called.newIDs
  have looped := forward_tracks callback newID filter.rescued
    (calledFor callback state filter real).seen (calledFor callback state filter real)
    (held ▸ rfl)
  rw [emit_rescued_loop, emit_rescued_some callback newID _ filter held, looped.outputs, ids,
    counts]
  rw [counts] at looped
  refine ⟨cancel toolUseSignature (copies toolUseSignature real) filter.rescued,
    cancel_sublist _ _ _, fun signature => copies_cancel _ _ _ signature, rfl, ?_, rfl⟩
  intro signature
  have counted := looped.seen signature
  rw [counts, copies_new_ids] at counted
  exact counted

end Cancelled

end KiroProxy.RescuedCalls
