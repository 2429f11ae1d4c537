import KiroProxy.Proxy.EventStream
import KiroProxy.Proxy.ToolMarkupConservation

/-!
# What the event stream parser shows

What a client saw of a stream that failed: nothing if no output callback ran, and otherwise
the text of every frame that was accepted.
-/

namespace KiroProxy.EventStream

open ApiKeys EventFrames Foundation.Emissions Foundation.Emissions.Emission GoStrings KiroTypes
open ThinkingSplitter ToolMarkup ToolUseEvents

set_option autoImplicit false

variable {Credit : Type} [CreditAmount Credit]

/-- `OnText` and `OnToolUse`. -/
def CallbackRun.isOutput : CallbackRun Credit → Bool
  | .text _ _ => true
  | .toolUse _ => true
  | _ => false

def CallbackRun.isStopReason : CallbackRun Credit → Bool
  | .stopReason _ => true
  | _ => false

def CallbackRun.isComplete : CallbackRun Credit → Bool
  | .complete _ _ => true
  | _ => false

def CallbackRun.answer : CallbackRun Credit → GoString
  | .text content false => content
  | _ => []

/-- The texts outside the reasoning. -/
def answerTexts (runs : List (CallbackRun Credit)) : GoString := runs.flatMap CallbackRun.answer

omit [CreditAmount Credit] in
theorem answer_texts_append (earlier later : List (CallbackRun Credit)) :
    answerTexts (earlier ++ later) = answerTexts earlier ++ answerTexts later :=
  List.flatMap_append

section Shows

/-- Output callbacks ran, and the state knows if any did. -/
structure Shows (before : Bool) (runs : List (CallbackRun Credit)) (after : Bool) : Prop where
  outputs : ∀ run ∈ runs, run.isOutput = true
  emitted : after = (before || !runs.isEmpty)

omit [CreditAmount Credit] in
theorem shows_nothing (emitted : Bool) : Shows emitted ([] : List (CallbackRun Credit)) emitted :=
  ⟨by simp, by simp⟩

omit [CreditAmount Credit] in
theorem shows_then (first middle last : Bool) (earlier later : List (CallbackRun Credit))
    (left : Shows first earlier middle) (right : Shows middle later last) :
    Shows first (earlier ++ later) last := by
  constructor
  · intro run member
    cases List.mem_append.mp member with
    | inl inside => exact left.outputs run inside
    | inr inside => exact right.outputs run inside
  · rw [right.emitted, left.emitted]
    cases earlier <;> simp

/-- A step shows what it puts out. -/
def StateShows (state : StreamState Credit) (runs : List (CallbackRun Credit))
    (next : StreamState Credit) : Prop := Shows state.emitted runs next.emitted

omit [CreditAmount Credit] in
theorem state_shows_then (state : StreamState Credit) (earlier : List (CallbackRun Credit))
    (middle : StreamState Credit) (later : List (CallbackRun Credit)) (last : StreamState Credit)
    (left : StateShows state earlier middle) (right : StateShows middle later last) :
    StateShows state (earlier ++ later) last :=
  shows_then _ _ _ earlier later left right

variable (callback : KiroStreamCallback)

omit [CreditAmount Credit] in
theorem text_shows (state before : StreamState Credit) (same : state.emitted = before.emitted)
    (text : GoString) (isThinking : Bool) :
    StateShows before (runOnText callback state text isThinking).outputs
      (runOnText callback state text isThinking).state := by
  unfold StateShows runOnText
  rw [← same]
  split_ifs
  · exact ⟨by simp [CallbackRun.isOutput], by simp⟩
  · exact shows_nothing _

omit [CreditAmount Credit] in
theorem assistant_text_shows (state before : StreamState Credit)
    (same : state.emitted = before.emitted) (content : GoString) :
    StateShows before (emitAssistantText callback state content).outputs
      (emitAssistantText callback state content).state := by
  unfold emitAssistantText
  split_ifs
  · unfold StateShows
    rw [← same]
    exact shows_nothing _
  · apply text_shows
    exact same

omit [CreditAmount Credit] in
theorem tool_use_shows (state : StreamState Credit) (toolUse : KiroToolUse) :
    StateShows state (runOnToolUse callback state toolUse).outputs
      (runOnToolUse callback state toolUse).state := by
  unfold runOnToolUse
  simp only
  by_cases set : callback.onToolUse = true
  · rw [if_pos set]
    exact ⟨by simp [CallbackRun.isOutput], by simp⟩
  · rw [if_neg set]
    exact shows_nothing _

omit [CreditAmount Credit] in
theorem tool_uses_show (calls : List KiroToolUse) (state before : StreamState Credit)
    (same : state.emitted = before.emitted) :
    StateShows before (emitAll (runOnToolUse callback) state calls).outputs
      (emitAll (runOnToolUse callback) state calls).state := by
  unfold StateShows
  rw [← same]
  exact emit_all_along StateShows (fun state => shows_nothing state.emitted) state_shows_then
    (runOnToolUse callback) (tool_use_shows callback) calls state

omit [CreditAmount Credit] in
theorem pending_run_shows (state before : StreamState Credit)
    (same : state.emitted = before.emitted) (run : ToolUseRun PendingToolUses) :
    StateShows before (runToolUses callback state run).outputs
      (runToolUses callback state run).state :=
  tool_uses_show callback run.outputs { state with pending := run.state } before same

variable (unmarshal : GoString → Option Json) (reports : EventReports Credit)
  (newID : Nat → GoString)

theorem event_shows (state : StreamState Credit) (eventType : GoString) (event : JsonFields) :
    StateShows state (handleEvent unmarshal reports callback newID state eventType event).outputs
      (handleEvent unmarshal reports callback newID state eventType event).state := by
  unfold handleEvent
  split_ifs
  · unfold assistantResponseEvent
    simp only
    split_ifs
    · exact shows_nothing _
    · apply assistant_text_shows
      rfl
  · unfold reasoningContentEvent
    simp only
    split_ifs
    · exact shows_nothing _
    · apply text_shows
      rfl
  · apply pending_run_shows
    rfl
  · exact shows_nothing _
  · exact shows_nothing _
  · exact shows_nothing _

theorem frame_shows (state : StreamState Credit) (frame : EventFrame) :
    StateShows state (handleFrame unmarshal reports callback newID state frame).outputs
      (handleFrame unmarshal reports callback newID state frame).state := by
  unfold handleFrame
  simp only
  cases decodeEvent unmarshal frame.payload with
  | none =>
      simp only
      split_ifs
      · exact shows_nothing _
      · exact shows_nothing _
  | some event =>
      simp only
      split_ifs
      · exact shows_nothing _
      · exact event_shows callback unmarshal reports newID (readReports reports state event) _ event

theorem frames_show (fuel : Nat) (body : Body) (state : StreamState Credit) :
    StateShows state (readFrames unmarshal reports callback newID fuel body state).outputs
      (readFrames unmarshal reports callback newID fuel body state).state := by
  induction fuel generalizing body state with
  | zero => exact shows_nothing _
  | succ fuel ih =>
      rw [readFrames]
      cases readFrame body with
      | ended => exact shows_nothing _
      | failed error => exact shows_nothing _
      | frame frame rest =>
          exact then_along StateShows state_shows_then state _ _
            (frame_shows callback unmarshal reports newID state frame) (ih rest)

theorem read_stream_shows (body : Body) :
    StateShows (startStream callback.markupTools : StreamState Credit)
      (readStream unmarshal reports callback newID body).outputs
      (readStream unmarshal reports callback newID body).state := by
  apply then_along StateShows state_shows_then
  · exact frames_show callback unmarshal reports newID _ body _
  · intro middle
    apply pending_run_shows
    rfl

omit [CreditAmount Credit] in
/-- What is released at the end of the stream, before its integrity is known. -/
theorem release_shows (state : StreamState Credit) :
    StateShows state ((flushText unmarshal callback state).andThen (emitRescued callback newID)).outputs
      ((flushText unmarshal callback state).andThen (emitRescued callback newID)).state := by
  apply then_along StateShows state_shows_then
  · apply assistant_text_shows
    rfl
  · intro middle
    unfold emitRescued
    split
    · exact shows_nothing _
    · apply tool_uses_show
      rfl

end Shows

section Carries

variable (unmarshal : GoString → Option Json) (tools : DeclaredTools)

def SoundMarkup (markup : Option ToolMarkupFilter) : Prop :=
  ∀ filter, markup = some filter → ToolMarkupFilter.Sound unmarshal tools filter

theorem push_keeps (markup : Option ToolMarkupFilter) (sound : SoundMarkup unmarshal tools markup)
    (chunk : GoString) :
    SoundMarkup unmarshal tools (ToolMarkupFilter.push unmarshal markup chunk).1 ∧
      (ToolMarkupFilter.push unmarshal markup chunk).2 ++
          ToolMarkupFilter.held (ToolMarkupFilter.push unmarshal markup chunk).1 =
        ToolMarkupFilter.held markup ++ chunk := by
  cases markup with
  | none => exact ⟨by simp [SoundMarkup, ToolMarkupFilter.push], List.append_nil _⟩
  | some filter =>
      obtain ⟨after, reached, still, _, text⟩ :=
        ToolMarkupFilter.push_all_keeps unmarshal tools filter (sound filter rfl) [chunk]
      have pushed : ToolMarkupFilter.pushAll unmarshal (some filter) [chunk] =
          ((ToolMarkupFilter.push unmarshal (some filter) chunk).1,
            (ToolMarkupFilter.push unmarshal (some filter) chunk).2 ++ []) := rfl
      rw [pushed, List.append_nil] at text
      rw [pushed] at reached
      simp only at reached text
      refine ⟨?_, ?_⟩
      · intro other same
        rw [reached, Option.some.injEq] at same
        rw [← same]
        exact still
      · rw [reached]
        simpa [ToolMarkupFilter.held] using text

/-- What was answered and is still held is what was held and the content. -/
def Carries (content : GoString) (before : StreamState Credit) (runs : List (CallbackRun Credit))
    (after : StreamState Credit) : Prop :=
  SoundMarkup unmarshal tools before.markup → SoundMarkup unmarshal tools after.markup ∧
    answerTexts runs ++ ToolMarkupFilter.held after.markup =
      ToolMarkupFilter.held before.markup ++ content

/-- Nothing was answered and the filter was left alone. -/
def Quiet (before : StreamState Credit) (runs : List (CallbackRun Credit))
    (after : StreamState Credit) : Prop :=
  after.markup = before.markup ∧ answerTexts runs = []

omit [CreditAmount Credit] in
theorem quiet_carries (before after : StreamState Credit) (runs : List (CallbackRun Credit))
    (quiet : Quiet before runs after) : Carries unmarshal tools [] before runs after := by
  intro sound
  rw [quiet.1, quiet.2, List.append_nil]
  exact ⟨sound, rfl⟩

omit [CreditAmount Credit] in
theorem carries_then (earlierContent laterContent : GoString)
    (first middle last : StreamState Credit) (earlier later : List (CallbackRun Credit))
    (left : Carries unmarshal tools earlierContent first earlier middle)
    (right : Carries unmarshal tools laterContent middle later last) :
    Carries unmarshal tools (earlierContent ++ laterContent) first (earlier ++ later) last := by
  intro sound
  obtain ⟨between, half⟩ := left sound
  obtain ⟨still, rest⟩ := right between
  refine ⟨still, ?_⟩
  rw [answer_texts_append, List.append_assoc, rest, ← List.append_assoc, half, List.append_assoc]

variable (callback : KiroStreamCallback)

omit [CreditAmount Credit] in
theorem assistant_text_answers (set : callback.onText = true) (state : StreamState Credit)
    (content : GoString) :
    (emitAssistantText callback state content).fault = none ∧
      (emitAssistantText callback state content).state.markup = state.markup ∧
      answerTexts (emitAssistantText callback state content).outputs = content := by
  unfold emitAssistantText
  split_ifs with empty
  · rw [empty]
    exact ⟨rfl, rfl, rfl⟩
  · unfold runOnText
    rw [if_pos set]
    exact ⟨rfl, rfl, List.append_nil _⟩

omit [CreditAmount Credit] in
theorem pending_run_quiet (state before : StreamState Credit)
    (same : state.markup = before.markup) (run : ToolUseRun PendingToolUses) :
    Quiet before (runToolUses callback state run).outputs
      (runToolUses callback state run).state := by
  have called := emit_all_along (@Quiet Credit) (fun _ => ⟨rfl, rfl⟩)
    (by
      intro first earlier middle later last left right
      exact ⟨right.1.trans left.1, by rw [answer_texts_append, left.2, right.2]; rfl⟩)
    (runOnToolUse callback)
    (by
      intro state toolUse
      unfold runOnToolUse
      simp only
      by_cases set : callback.onToolUse = true
      · rw [if_pos set]
        exact ⟨rfl, rfl⟩
      · rw [if_neg set]
        exact ⟨rfl, rfl⟩)
    run.outputs { state with pending := run.state }
  exact ⟨called.1.trans same, called.2⟩

variable (reports : EventReports Credit) (newID : Nat → GoString)

/-- The content of a frame of the answer. -/
def frameContent (frame : EventFrame) : GoString :=
  match decodeEvent unmarshal frame.payload with
  | some event =>
      if frame.headers.get (lit ":event-type") = lit "assistantResponseEvent" then
        stringField event (lit "content")
      else []
  | none => []

theorem event_carries (set : callback.onText = true) (state before : StreamState Credit)
    (same : state.markup = before.markup) (eventType : GoString) (event : JsonFields) :
    Carries unmarshal tools
      (if eventType = lit "assistantResponseEvent" then stringField event (lit "content") else [])
      before (handleEvent unmarshal reports callback newID state eventType event).outputs
      (handleEvent unmarshal reports callback newID state eventType event).state := by
  unfold handleEvent
  by_cases assistant : eventType = lit "assistantResponseEvent"
  · rw [if_pos assistant, if_pos assistant]
    unfold assistantResponseEvent
    simp only
    split_ifs with empty
    · rw [empty]
      exact quiet_carries unmarshal tools before _ _ ⟨same, rfl⟩
    · intro sound
      obtain ⟨still, text⟩ := push_keeps unmarshal tools before.markup sound
        (stringField event (lit "content"))
      obtain ⟨_, kept, answered⟩ := assistant_text_answers callback set
        { state with markup := (ToolMarkupFilter.push unmarshal state.markup
          (stringField event (lit "content"))).1 }
        (ToolMarkupFilter.push unmarshal state.markup (stringField event (lit "content"))).2
      rw [kept, answered, same]
      exact ⟨still, text⟩
  · rw [if_neg assistant, if_neg assistant]
    apply quiet_carries
    split_ifs
    · unfold reasoningContentEvent runOnText
      simp only
      split_ifs
      · exact ⟨same, rfl⟩
      · exact ⟨same, rfl⟩
    · apply pending_run_quiet
      exact same
    · exact ⟨same, rfl⟩
    · exact ⟨same, rfl⟩
    · exact ⟨same, rfl⟩

/-- A frame of the answer is always accepted. -/
theorem assistant_event_clean (set : callback.onText = true) (state : StreamState Credit)
    (event : JsonFields) :
    (handleEvent unmarshal reports callback newID state (lit "assistantResponseEvent")
      event).fault = none := by
  rw [handleEvent, if_pos rfl]
  unfold assistantResponseEvent
  simp only
  split_ifs
  · rfl
  · exact (assistant_text_answers callback set _ _).1

theorem frame_carries (set : callback.onText = true) (state : StreamState Credit)
    (frame : EventFrame) :
    Carries unmarshal tools
      (if (handleFrame unmarshal reports callback newID state frame).fault.isNone then
        frameContent unmarshal frame else [])
      state (handleFrame unmarshal reports callback newID state frame).outputs
      (handleFrame unmarshal reports callback newID state frame).state := by
  unfold handleFrame frameContent
  simp only
  cases decodeEvent unmarshal frame.payload with
  | none =>
      simp only [ite_self]
      split_ifs
      · exact quiet_carries unmarshal tools state _ _ ⟨rfl, rfl⟩
      · exact quiet_carries unmarshal tools state _ _ ⟨rfl, rfl⟩
  | some event =>
      simp only
      by_cases upstream : frame.headers.get (lit ":message-type") = lit "error" ∨
          frame.headers.get (lit ":message-type") = lit "exception"
      · rw [if_pos upstream]
        exact quiet_carries unmarshal tools state _ _ ⟨rfl, rfl⟩
      · rw [if_neg upstream]
        have carried := event_carries unmarshal tools callback reports newID set
          (readReports reports state event) state rfl (frame.headers.get (lit ":event-type")) event
        by_cases assistant :
            frame.headers.get (lit ":event-type") = lit "assistantResponseEvent"
        · rw [assistant] at carried ⊢
          rw [assistant_event_clean unmarshal callback reports newID set]
          exact carried
        · rw [if_neg assistant] at carried ⊢
          rw [ite_self]
          exact carried

/-- The frames that are handled before the first error. -/
def acceptedFrom : Nat → Body → StreamState Credit → List EventFrame
  | 0, _, _ => []
  | fuel + 1, body, state =>
      match readFrame body with
      | .frame frame rest =>
          let handled := handleFrame unmarshal reports callback newID state frame
          if handled.fault.isNone then frame :: acceptedFrom fuel rest handled.state else []
      | _ => []

def acceptedFrames (body : Body) : List EventFrame :=
  acceptedFrom unmarshal callback reports newID (body.data.length + 1) body
    (startStream callback.markupTools)

theorem frames_carry (set : callback.onText = true) (fuel : Nat) (body : Body)
    (state : StreamState Credit) :
    Carries unmarshal tools
      ((acceptedFrom unmarshal callback reports newID fuel body state).flatMap
        (frameContent unmarshal))
      state (readFrames unmarshal reports callback newID fuel body state).outputs
      (readFrames unmarshal reports callback newID fuel body state).state := by
  induction fuel generalizing body state with
  | zero => exact quiet_carries unmarshal tools state _ _ ⟨rfl, rfl⟩
  | succ fuel ih =>
      rw [readFrames, acceptedFrom]
      cases readFrame body with
      | ended => exact quiet_carries unmarshal tools state _ _ ⟨rfl, rfl⟩
      | failed error => exact quiet_carries unmarshal tools state _ _ ⟨rfl, rfl⟩
      | frame frame rest =>
          have first := frame_carries unmarshal tools callback reports newID set state frame
          simp only
          cases faulty : (handleFrame unmarshal reports callback newID state frame).fault with
          | some error =>
              rw [then_of_fault _ _ error faulty]
              rw [faulty] at first
              exact first
          | none =>
              rw [then_of_none _ _ faulty]
              rw [faulty] at first
              have later := carries_then unmarshal tools _ _ _ _ _ _ _ first
                (ih rest (handleFrame unmarshal reports callback newID state frame).state)
              simpa only [Option.isNone_none, if_true, List.flatMap_cons] using later

omit [CreditAmount Credit] in
theorem flush_pending_quiet (state : StreamState Credit) :
    Quiet state (flushPending unmarshal callback newID state).outputs
      (flushPending unmarshal callback newID state).state := by
  apply pending_run_quiet
  rfl

theorem read_stream_carries (set : callback.onText = true) (body : Body) :
    Carries unmarshal tools
      ((acceptedFrames unmarshal callback reports newID body).flatMap (frameContent unmarshal))
      (startStream callback.markupTools : StreamState Credit)
      (readStream unmarshal reports callback newID body).outputs
      (readStream unmarshal reports callback newID body).state := by
  have frames := frames_carry unmarshal tools callback reports newID set (body.data.length + 1)
    body (startStream callback.markupTools)
  unfold readStream
  cases faulty : (readFrames unmarshal reports callback newID (body.data.length + 1) body
      (startStream callback.markupTools)).fault with
  | some error =>
      rw [then_of_fault _ _ error faulty]
      exact frames
  | none =>
      rw [then_of_none _ _ faulty]
      have quiet := quiet_carries unmarshal tools _ _ _ (flush_pending_quiet unmarshal callback
        newID (readFrames unmarshal reports callback newID (body.data.length + 1) body
          (startStream callback.markupTools)).state)
      have whole := carries_then unmarshal tools _ _ _ _ _ _ _ frames quiet
      rwa [List.append_nil] at whole

omit [CreditAmount Credit] in
/-- What is held is handed back to a client that has seen a part of the answer. -/
theorem hand_back_answers (set : callback.onText = true) (run : StreamRun Credit)
    (faulty : run.fault ≠ none) (emitted : run.state.emitted = true) :
    answerTexts (handBack callback run).outputs =
      answerTexts run.outputs ++ ToolMarkupFilter.held run.state.markup := by
  have abandoned : (ToolMarkupFilter.abandon run.state.markup).2 =
      ToolMarkupFilter.held run.state.markup := by
    cases run.state.markup <;> rfl
  unfold handBack
  rw [emitted, Option.isSome_iff_ne_none.mpr faulty]
  simp only [Bool.and_self, if_true, answer_texts_append, abandoned,
    (assistant_text_answers callback set _ _).2.2]

end Carries

section Completion

variable (letters : Letters) (unmarshal : GoString → Option Json) (reports : EventReports Credit)
  (callback : KiroStreamCallback) (newID : Nat → GoString) (lenient : Bool)

theorem read_frames_whole (fuel : Nat) (body : Body) (state : StreamState Credit)
    (enough : body.data.length < fuel)
    (clean : (readFrames unmarshal reports callback newID fuel body state).fault = none) :
    ∃ frames, ReadsFrames body frames none := by
  induction fuel generalizing body state with
  | zero => omega
  | succ fuel ih =>
      rw [readFrames] at clean
      cases read : readFrame body with
      | ended => exact ⟨[], ReadsFrames.ended read⟩
      | failed error =>
          rw [read] at clean
          exact absurd clean (Option.some_ne_none _)
      | frame frame rest =>
          rw [read] at clean
          have shorter := read_frame_shorter body rest frame read
          obtain ⟨frames, later⟩ := ih rest _ (by omega) (parts_clean _ _ clean).2
          exact ⟨frame :: frames, ReadsFrames.frame read later⟩

theorem complete_stream_reports (state : StreamState Credit) :
    (∀ run ∈ completeStream callback state, run.isOutput = false) ∧
      (completeStream callback state).countP CallbackRun.isStopReason ≤ 1 ∧
      (completeStream callback state).countP CallbackRun.isComplete ≤ 1 := by
  have percentages (kind : CallbackRun Credit → Bool)
      (other : ∀ percentage, kind (.contextUsage percentage) = false) :
      (state.contextUsagePercentages.map CallbackRun.contextUsage).countP kind = 0 := by
    rw [List.countP_eq_zero]
    intro run member
    obtain ⟨percentage, _, same⟩ := List.mem_map.mp member
    rw [← same, other]
    exact Bool.false_ne_true
  have none : (completeStream callback state).countP CallbackRun.isOutput = 0 := by
    unfold completeStream
    simp only [List.countP_append]
    split_ifs <;>
      simp [CallbackRun.isOutput, -List.countP_map, percentages CallbackRun.isOutput fun _ => rfl]
  refine ⟨?_, ?_, ?_⟩
  · intro run member
    exact Bool.eq_false_iff.mpr (List.countP_eq_zero.mp none run member)
  · unfold completeStream
    simp only [List.countP_append]
    split_ifs <;>
      simp [CallbackRun.isStopReason, -List.countP_map, percentages CallbackRun.isStopReason fun _ => rfl]
  · unfold completeStream
    simp only [List.countP_append]
    split_ifs <;>
      simp [CallbackRun.isComplete, -List.countP_map, percentages CallbackRun.isComplete fun _ => rfl]

/-- The whole body was read, every tool finished and the stream proved complete. -/
structure Completed (body : Body) (run : StreamRun Credit) : Prop where
  whole : ∃ frames, ReadsFrames body frames none
  tools : (readStream unmarshal reports callback newID body).fault = none ∧
    run.state.pending = .empty
  integrity : classifyStreamIntegrity letters run.state.turn lenient = none

/-- A step that leaves the pending tool uses alone. -/
def KeepsPending (before : StreamState Credit) (_ : List (CallbackRun Credit))
    (after : StreamState Credit) : Prop := after.pending = before.pending

omit [CreditAmount Credit] in
theorem tool_uses_pending (calls : List KiroToolUse) (state : StreamState Credit) :
    KeepsPending state (emitAll (runOnToolUse callback) state calls).outputs
      (emitAll (runOnToolUse callback) state calls).state := by
  apply emit_all_along KeepsPending (fun _ => rfl) (fun _ _ _ _ _ left right => right.trans left)
  intro state toolUse
  unfold runOnToolUse
  simp only
  by_cases set : callback.onToolUse = true
  · rw [if_pos set]
    rfl
  · rw [if_neg set]
    rfl

omit [CreditAmount Credit] in
theorem flush_pending_empty (state : StreamState Credit) :
    (flushPending unmarshal callback newID state).state.pending = .empty := by
  have kept := tool_uses_pending callback
    (flushAll unmarshal (newID state.newIDs) state.pending).outputs
    { state with
      newIDs := state.newIDs + 1
      pending := (flushAll unmarshal (newID state.newIDs) state.pending).state }
  have cleared : (flushAll unmarshal (newID state.newIDs) state.pending).state = .empty :=
    emit_all_keeps _ (fun pending => pending = PendingToolUses.empty) (fun _ => True)
      (by
        intro pending id still _
        rw [finish_state, still])
      .empty rfl state.pending.order (fun _ _ => trivial)
  exact Eq.trans kept cleared

omit [CreditAmount Credit] in
theorem release_pending (state : StreamState Credit) :
    KeepsPending state
      ((flushText unmarshal callback state).andThen (emitRescued callback newID)).outputs
      ((flushText unmarshal callback state).andThen (emitRescued callback newID)).state := by
  apply then_along KeepsPending (fun _ _ _ _ _ left right => right.trans left)
  · unfold KeepsPending flushText emitAssistantText runOnText
    simp only
    split_ifs <;> rfl
  · intro middle
    unfold emitRescued
    split
    · rfl
    · exact tool_uses_pending callback _ { middle with markup := some _, newIDs := _ }

/-- A run fails without a report, or it reports and the stream proved complete. -/
def Reports (run : StreamRun Credit) (shown : List (CallbackRun Credit)) : Prop :=
  (run.fault ≠ none ∧ run.outputs = shown) ∨
    (run.fault = none ∧ run.outputs = shown ++ completeStream callback run.state ∧
      classifyStreamIntegrity letters run.state.turn lenient = none)

theorem finish_stream_reports (state : StreamState Credit) :
    (finishStream letters callback lenient state).state.emitted = state.emitted ∧
      (finishStream letters callback lenient state).state.pending = state.pending ∧
      Reports letters callback lenient (finishStream letters callback lenient state) [] := by
  unfold finishStream
  simp only
  split
  · exact ⟨rfl, rfl, Or.inl ⟨Option.some_ne_none _, rfl⟩⟩
  · rename_i whole
    exact ⟨rfl, rfl, Or.inr ⟨rfl, rfl, whole⟩⟩

/-- The end of a stream shows what was held and then either fails or reports. -/
theorem end_stream_reports (state : StreamState Credit) (run : StreamRun Credit)
    (ends : run = endStream letters unmarshal callback newID lenient state) :
    ∃ shown, Shows state.emitted shown run.state.emitted ∧
      run.state.pending = state.pending ∧ Reports letters callback lenient run shown := by
  have shows_ := release_shows callback unmarshal newID state
  have kept := release_pending unmarshal callback newID state
  rw [endStream] at ends
  revert ends shows_ kept
  generalize (flushText unmarshal callback state).andThen (emitRescued callback newID) = released
  intro ends shows_ kept
  refine ⟨released.outputs, ?_⟩
  cases faulty : released.fault with
  | some error =>
      rw [then_of_fault _ _ error faulty] at ends
      rw [ends]
      exact ⟨shows_, kept, Or.inl ⟨by rw [faulty]; exact Option.some_ne_none _, rfl⟩⟩
  | none =>
      obtain ⟨emitted, pending, reports⟩ :=
        finish_stream_reports letters callback lenient released.state
      rw [then_of_none _ _ faulty] at ends
      rw [ends]
      refine ⟨?_, pending.trans kept, ?_⟩
      · rw [emitted]
        exact shows_
      · cases reports with
        | inl fails =>
            refine Or.inl ⟨fails.1, ?_⟩
            rw [fails.2, List.append_nil]
        | inr reports =>
            refine Or.inr ⟨reports.1, ?_, reports.2.2⟩
            rw [reports.2.1, List.nil_append]

theorem parsed_reports (body : Body) (run : StreamRun Credit)
    (parsed : run = (readStream unmarshal reports callback newID body).andThen
      (endStream letters unmarshal callback newID lenient)) :
    ∃ shown, Shows false shown run.state.emitted ∧ Reports letters callback lenient run shown ∧
      (run.fault = none → Completed letters unmarshal reports callback newID lenient body run) := by
  have shows_ := read_stream_shows callback unmarshal reports newID body
  cases faulty : (readStream unmarshal reports callback newID body).fault with
  | some error =>
      rw [then_of_fault _ _ error faulty] at parsed
      rw [parsed]
      refine ⟨_, shows_, Or.inl ⟨?_, rfl⟩, ?_⟩
      · rw [faulty]
        exact Option.some_ne_none _
      · rw [faulty]
        exact fun clean => absurd clean (Option.some_ne_none _)
  | none =>
      rw [then_of_none _ _ faulty] at parsed
      obtain ⟨shown, later, pending, ended⟩ := end_stream_reports letters unmarshal callback newID
        lenient (readStream unmarshal reports callback newID body).state _ rfl
      rw [parsed]
      refine ⟨_, shows_then _ _ _ _ _ shows_ later, ?_, ?_⟩
      · cases ended with
        | inl fails => exact Or.inl ⟨fails.1, by rw [fails.2]⟩
        | inr ended => exact Or.inr ⟨ended.1, by rw [ended.2.1, List.append_assoc], ended.2.2⟩
      · intro clean
        have parts := parts_clean _ _ faulty
        have whole := read_frames_whole unmarshal reports callback newID _ body _
          (Nat.lt_succ_self _) parts.1
        cases ended with
        | inl fails => exact absurd clean fails.1
        | inr ended =>
            refine ⟨whole, ⟨faulty, ?_⟩, ended.2.2⟩
            rw [pending, readStream, then_of_none _ _ parts.1]
            exact flush_pending_empty unmarshal callback newID _

omit [CreditAmount Credit] in
theorem hand_back_shows (run : StreamRun Credit) (before : Bool)
    (shows_ : Shows before run.outputs run.state.emitted) :
    Shows before (handBack callback run).outputs (handBack callback run).state.emitted := by
  unfold handBack
  split_ifs
  · apply shows_then before run.state.emitted _ run.outputs _ shows_
    apply assistant_text_shows
    rfl
  · exact shows_

omit [CreditAmount Credit] in
theorem hand_back_clean (run : StreamRun Credit) (clean : run.fault = none) :
    handBack callback run = run := by
  rw [handBack, clean]
  rfl

omit [CreditAmount Credit] in
theorem hand_back_silent (run : StreamRun Credit) (silent : run.state.emitted = false) :
    handBack callback run = run := by
  rw [handBack, silent, Bool.and_false]
  rfl

omit [CreditAmount Credit] in
theorem hand_back_fault (run : StreamRun Credit) : (handBack callback run).fault = run.fault := by
  unfold handBack
  split_ifs <;> rfl

omit [CreditAmount Credit] in
/-- Where no output callback is known to have run, none has. -/
theorem shows_nothing_run (emitted : Bool) (runs : List (CallbackRun Credit))
    (shows_ : Shows false runs emitted) (silent : emitted = false) : runs = [] := by
  have known := shows_.emitted
  rw [silent] at known
  cases runs with
  | nil => rfl
  | cons run runs => simp at known

theorem start_sound (tools : DeclaredTools) :
    SoundMarkup unmarshal tools (startStream tools : StreamState Credit).markup := by
  intro filter new
  exact ToolMarkupFilter.sound_new unmarshal tools filter new

theorem start_holds_nothing (tools : DeclaredTools) :
    ToolMarkupFilter.held (startStream tools : StreamState Credit).markup = [] := by
  change ToolMarkupFilter.held (newToolMarkupFilter tools) = []
  unfold newToolMarkupFilter
  split_ifs <;> rfl

/-- A stream that failed without output shows nothing; one that failed after output shows all
the text it accepted; reports are made of complete streams only, once, behind the output. -/
theorem parse_output_contract (body : Body) :
    let read := readStream unmarshal reports callback newID body
    let run := parseEventStreamTracked letters unmarshal reports callback newID lenient body
    (run.state.emitted = false → ∀ ran ∈ run.outputs, ran.isOutput = false) ∧
      (∀ error, read.fault = some error → run.fault = some error ∧
        (run.state.emitted = true → callback.onText = true → answerTexts run.outputs =
          (acceptedFrames unmarshal callback reports newID body).flatMap
            (frameContent unmarshal))) ∧
      ∃ shown reported, run.outputs = shown ++ reported ∧
        (∀ ran ∈ shown, ran.isOutput = true) ∧ (∀ ran ∈ reported, ran.isOutput = false) ∧
        reported.countP CallbackRun.isStopReason ≤ 1 ∧
        reported.countP CallbackRun.isComplete ≤ 1 ∧
        (reported ≠ [] → run.fault = none ∧
          Completed letters unmarshal reports callback newID lenient body run) := by
  intro read run
  obtain ⟨shown, shows_, ended, completed⟩ := parsed_reports letters unmarshal reports callback
    newID lenient body _ rfl
  refine ⟨?_, ?_, ?_⟩
  · intro silent
    cases ended with
    | inl fails =>
        rw [← fails.2] at shows_
        have none : run.outputs = [] :=
          shows_nothing_run _ _ (hand_back_shows callback _ false shows_) silent
        intro ran member
        rw [none] at member
        simp at member
    | inr reported =>
        have same : run = _ := hand_back_clean callback _ reported.1
        rw [same] at silent ⊢
        rw [reported.2.1, shows_nothing_run _ _ shows_ silent]
        exact (complete_stream_reports callback _).1
  · intro error faulty
    have failed : read.andThen (endStream letters unmarshal callback newID lenient) = read :=
      then_of_fault _ _ error faulty
    have same : run = handBack callback read := congrArg (handBack callback) failed
    rw [same, hand_back_fault]
    refine ⟨faulty, ?_⟩
    intro emitted set
    have before : read.state.emitted = true := by
      by_contra silent
      rw [hand_back_silent callback read (Bool.eq_false_iff.mpr silent)] at emitted
      exact silent emitted
    have broken : read.fault ≠ none := by
      rw [faulty]
      exact Option.some_ne_none error
    rw [hand_back_answers callback set read broken before]
    have carried := (read_stream_carries unmarshal callback.markupTools callback reports newID set
      body (start_sound unmarshal callback.markupTools)).2
    rwa [start_holds_nothing, List.nil_append] at carried
  · cases ended with
    | inl fails =>
        rw [← fails.2] at shows_
        refine ⟨run.outputs, [], (List.append_nil _).symm,
          (hand_back_shows callback _ false shows_).outputs, by simp, by simp, by simp, ?_⟩
        exact fun some_ => absurd rfl some_
    | inr reported =>
        have same : run = _ := hand_back_clean callback _ reported.1
        have once := complete_stream_reports callback run.state
        rw [same]
        refine ⟨shown, _, reported.2.1, shows_.outputs, ?_⟩
        rw [same] at once
        exact ⟨once.1, once.2.1, once.2.2, fun _ => ⟨reported.1, completed reported.1⟩⟩

end Completion

end KiroProxy.EventStream
