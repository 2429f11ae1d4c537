import KiroProxy.Proxy.ContinuationHop

/-!
# The text of a continuation

What a continuation hop forwards is its visible text without one repeat of the answer's
end, and depends on the text between the tool calls and not on its chunks.
-/

namespace KiroProxy.AutoContinue

open ApiKeys EventStream Foundation.Emissions Foundation.Emissions.Emission GoStrings
open ThinkingSplitter

set_option autoImplicit false

section Answered

variable {Credit : Type}

def callbackRuns (events : List (CallEvent Credit)) : List (CallbackRun Credit) :=
  events.filterMap fun event =>
    match event with
    | .callback run => some run
    | .followupPayload _ => none

/-- The chunks of answer text between the tool calls. -/
def answerStretches : List (CallbackRun Credit) → List (List GoString)
  | [] => [[]]
  | .toolUse _ :: runs => [] :: answerStretches runs
  | .text text false :: runs => (answerStretches runs).modifyHead (text :: ·)
  | _ :: runs => answerStretches runs

/-- The answer text between the tool calls. -/
def answered (runs : List (CallbackRun Credit)) : List GoString :=
  (answerStretches runs).map List.flatten

def answerPart : CallbackRun Credit → GoString
  | .text text false => text
  | _ => []

def answerText (runs : List (CallbackRun Credit)) : GoString := runs.flatMap answerPart

/-- Only answer text. -/
def AnswersOnly (runs : List (CallbackRun Credit)) : Prop :=
  ∀ run ∈ runs, ∃ text, run = .text text false

theorem answer_text_append (earlier later : List (CallbackRun Credit)) :
    answerText (earlier ++ later) = answerText earlier ++ answerText later :=
  List.flatMap_append

theorem answered_text (text : GoString) (runs : List (CallbackRun Credit)) :
    answered (.text text false :: runs) = (answered runs).modifyHead (text ++ ·) := by
  unfold answered
  rw [answerStretches]
  cases answerStretches runs with
  | nil => rfl
  | cons chunks later => rfl

theorem answered_append (earlier later : List (CallbackRun Credit)) (only : AnswersOnly earlier) :
    answered (earlier ++ later) = (answered later).modifyHead (answerText earlier ++ ·) := by
  induction earlier with
  | nil =>
      rw [List.nil_append]
      cases answered later with
      | nil => rfl
      | cons head tail => rfl
  | cons run earlier ih =>
      obtain ⟨text, same⟩ := only run List.mem_cons_self
      have rest := ih fun other member => only other (List.mem_cons_of_mem _ member)
      rw [same, List.cons_append, answered_text, rest]
      cases answered later with
      | nil => rfl
      | cons head tail => simp [answerText, answerPart]

theorem answers_append {earlier later : List (CallbackRun Credit)} (left : AnswersOnly earlier)
    (right : AnswersOnly later) : AnswersOnly (earlier ++ later) := by
  intro run member
  cases List.mem_append.mp member with
  | inl inside => exact left run inside
  | inr inside => exact right run inside

theorem answer_stretches_cons (runs : List (CallbackRun Credit)) :
    ∃ chunks later, answerStretches runs = chunks :: later := by
  induction runs with
  | nil => exact ⟨[], [], rfl⟩
  | cons run runs ih =>
      obtain ⟨chunks, later, same⟩ := ih
      cases run with
      | text text isThinking =>
          cases isThinking with
          | true => exact ⟨chunks, later, same⟩
          | false => exact ⟨text :: chunks, later, by rw [answerStretches, same]; rfl⟩
      | toolUse toolUse => exact ⟨[], _, rfl⟩
      | stopReason reason => exact ⟨chunks, later, same⟩
      | credits credits => exact ⟨chunks, later, same⟩
      | contextUsage percentage => exact ⟨chunks, later, same⟩
      | cacheUsage read write => exact ⟨chunks, later, same⟩
      | complete inputTokens outputTokens => exact ⟨chunks, later, same⟩

theorem answered_flatten (runs : List (CallbackRun Credit)) :
    (answered runs).flatten = answerText runs := by
  induction runs with
  | nil => rfl
  | cons run runs ih =>
      cases run with
      | text text isThinking =>
          cases isThinking with
          | true => exact ih
          | false =>
              obtain ⟨chunks, later, same⟩ := answer_stretches_cons runs
              have whole : answerText (.text text false :: runs) = text ++ answerText runs := rfl
              rw [answered_text, whole, ← ih]
              unfold answered
              rw [same]
              simp
      | toolUse toolUse => exact ih
      | stopReason reason => exact ih
      | credits credits => exact ih
      | contextUsage percentage => exact ih
      | cacheUsage read write => exact ih
      | complete inputTokens outputTokens => exact ih

end Answered

namespace ContinuationHop

variable {Credit : Type}

/-- What is still to be forwarded where this visible text is to come and then a release. -/
def pending (hop : ContinuationHop Credit) (text : GoString) : GoString :=
  if hop.released then text
  else (hop.held ++ text).drop (repeatedOverlap hop.tail (hop.held ++ text))

theorem pending_released (hop : ContinuationHop Credit) (released : hop.released = true)
    (text : GoString) : hop.pending text = text := if_pos released

/-- Text as long as the tail decides what is cut. -/
theorem pending_long (hop : ContinuationHop Credit) (long : hop.tail.length ≤ hop.held.length)
    (text : GoString) : hop.pending text = hop.pending [] ++ text := by
  unfold pending
  split_ifs with released
  · rfl
  · rw [List.append_nil, overlap_append hop.tail hop.held text long,
      List.drop_append_of_le_length (overlap_le hop.tail hop.held)]

/-- A run that forwards only answer text, which the answer grows by. -/
structure Answers (before : ContinuationHop Credit) (run : HopRun Credit) : Prop where
  only : AnswersOnly run.outputs
  continuation : run.state.continuation = before.continuation
  splitter : run.state.splitter = before.splitter
  answer : run.state.answer = before.answer ++ answerText run.outputs

/-- A run that takes in some visible text and forwards what need not be held. -/
structure TakesIn (before : ContinuationHop Credit) (text : GoString) (run : HopRun Credit) :
    Prop extends Answers before run where
  forwards : ∀ more, answerText run.outputs ++ run.state.pending more = before.pending (text ++ more)

theorem answers_done {before after : ContinuationHop Credit}
    (continuation : after.continuation = before.continuation)
    (splitter : after.splitter = before.splitter) (answer : after.answer = before.answer) :
    before.Answers (done after) where
  only := by
    intro run member
    cases member
  continuation := continuation
  splitter := splitter
  answer := by
    rw [done, answer]
    exact (List.append_nil _).symm

theorem answers_forward {before after : ContinuationHop Credit} (text : GoString)
    (continuation : after.continuation = before.continuation)
    (splitter : after.splitter = before.splitter) (answer : after.answer = before.answer ++ text) :
    before.Answers (after.forward text false) where
  only := by
    intro run member
    exact ⟨text, List.mem_singleton.mp member⟩
  continuation := continuation
  splitter := splitter
  answer := by
    rw [forward, answer]
    simp [answerText, answerPart]

theorem answers_then {before : ContinuationHop Credit} {first : HopRun Credit}
    {next : ContinuationHop Credit → HopRun Credit} (earlier : before.Answers first)
    (later : first.state.Answers (next first.state)) :
    before.Answers (first.andThen next) where
  only := by
    rw [then_outputs]
    exact answers_append earlier.only later.only
  continuation := by rw [then_state, later.continuation, earlier.continuation]
  splitter := by rw [then_state, later.splitter, earlier.splitter]
  answer := by
    rw [then_state, then_outputs, later.answer, earlier.answer, answer_text_append,
      List.append_assoc]

theorem takes_in_then {before : ContinuationHop Credit} {text more : GoString}
    {first : HopRun Credit} {next : ContinuationHop Credit → HopRun Credit}
    (earlier : before.TakesIn text first)
    (later : first.state.TakesIn more (next first.state)) :
    before.TakesIn (text ++ more) (first.andThen next) where
  toAnswers := answers_then earlier.toAnswers later.toAnswers
  forwards := by
    intro rest
    rw [then_state, then_outputs, answer_text_append, List.append_assoc, later.forwards,
      earlier.forwards, List.append_assoc]

theorem release_answers (hop : ContinuationHop Credit) : hop.Answers hop.releaseHeld := by
  unfold releaseHeld
  simp only
  split_ifs with released empty
  · exact answers_done rfl rfl rfl
  · exact answers_done rfl rfl rfl
  · exact answers_forward _ rfl rfl rfl

/-- A release forwards all that is held but the repeat, and nothing is held behind it. -/
theorem release_forwards (hop : ContinuationHop Credit) :
    hop.releaseHeld.state.released = true ∧
      answerText hop.releaseHeld.outputs = hop.pending [] := by
  unfold releaseHeld pending
  rw [List.append_nil]
  simp only
  split_ifs with released empty
  · exact ⟨released, rfl⟩
  · exact ⟨rfl, empty.symm⟩
  · exact ⟨rfl, by simp [forward, answerText, answerPart]⟩

theorem forward_takes_in (hop : ContinuationHop Credit) (text : GoString) :
    hop.TakesIn text (hop.forwardAnswer text) := by
  unfold forwardAnswer
  simp only
  split_ifs with holding short
  · rw [Bool.not_eq_true'] at holding
    refine ⟨answers_done rfl rfl rfl, ?_⟩
    intro more
    simp [done, answerText, pending, holding]
  · rw [Bool.not_eq_true'] at holding
    have answers := release_answers { hop with held := hop.held ++ text }
    obtain ⟨freed, forwards⟩ := release_forwards { hop with held := hop.held ++ text }
    refine ⟨⟨answers.only, answers.continuation, answers.splitter, answers.answer⟩, ?_⟩
    intro more
    rw [forwards, pending_released _ freed, ← pending_long _ (Nat.le_of_not_lt short)]
    simp [pending, holding]
  · rw [Bool.not_eq_true', Bool.not_eq_false] at holding
    refine ⟨answers_forward text rfl rfl rfl, ?_⟩
    intro more
    simp [forward, answerText, answerPart, pending, holding]

theorem sink_takes_in (hop : ContinuationHop Credit) (continuation : hop.continuation = true)
    (split : Split UInt8) :
    hop.TakesIn (sinkPart false split.inBlock split.text) (hop.sinkAnswer split) := by
  unfold sinkAnswer sinkPart
  cases split.inBlock with
  | true => exact ⟨answers_done rfl rfl rfl, fun _ => rfl⟩
  | false =>
      rw [if_neg Bool.false_ne_true, if_pos continuation, if_pos rfl]
      exact forward_takes_in hop split.text

theorem sinks_take_in (splits : List (Split UInt8)) (hop : ContinuationHop Credit)
    (continuation : hop.continuation = true) :
    hop.TakesIn (sinkText false splits) (emitAll sinkAnswer hop splits) := by
  induction splits generalizing hop with
  | nil => exact ⟨answers_done rfl rfl rfl, fun _ => rfl⟩
  | cons split splits ih =>
      have first := sink_takes_in hop continuation split
      rw [sink_text_cons, emitAll]
      apply takes_in_then first
      exact ih _ (by rw [first.continuation, continuation])

/-- A flush forwards all that is visible, and nothing is held behind it. -/
theorem flush_forwards (hop : ContinuationHop Credit) (continuation : hop.continuation = true) :
    let flushed := hop.splitter.flush thinkingByteTags
    ({ hop with splitter := flushed.1 }).Answers hop.flush ∧
      hop.flush.state.released = true ∧
      answerText hop.flush.outputs = hop.pending (sinkText false flushed.2) := by
  intro flushed
  have taken : ({ hop with splitter := flushed.1 }).TakesIn (sinkText false flushed.2)
      (hop.sinkAll flushed) := sinks_take_in flushed.2 _ continuation
  have stays := taken.continuation.trans continuation
  have answers := release_answers (hop.sinkAll flushed).state
  obtain ⟨freed, forwards⟩ := release_forwards (hop.sinkAll flushed).state
  have whole : hop.flush = (hop.sinkAll flushed).andThen releaseHeld := by
    rw [flush, then_of_none _ _ (fault_absent _), then_of_none _ _ (fault_absent _),
      if_pos stays]
  rw [whole]
  refine ⟨answers_then taken.toAnswers answers, ?_, ?_⟩
  · rw [then_state]
    exact freed
  · rw [then_outputs, answer_text_append, forwards, taken.forwards, List.append_nil]
    rfl

section Events

variable [CreditAmount Credit]

theorem text_takes_in (hop : ContinuationHop Credit) (continuation : hop.continuation = true)
    (text : GoString) :
    ({ hop with splitter := (hop.splitter.push thinkingByteTags text).1 }).TakesIn
      (sinkText false (hop.splitter.push thinkingByteTags text).2)
      (hop.callback (.callback (.text text false))) := by
  have pushed : hop.callback (.callback (.text text false)) =
      hop.sinkAll (hop.splitter.push thinkingByteTags text) := by
    simp [callback, onText, continuation]
  rw [pushed]
  exact sinks_take_in _ _ continuation

/-- Text held for a possible tag or repeat is out before the tool call. -/
theorem call_flushes (hop : ContinuationHop Credit) (continuation : hop.continuation = true)
    (toolUse : KiroTypes.KiroToolUse) :
    let flushed := hop.splitter.flush thinkingByteTags
    let called := hop.callback (.callback (.toolUse toolUse))
    called.state.continuation = true ∧ called.state.splitter = flushed.1 ∧
      called.state.released = true ∧
      called.state.answer = hop.answer ++ answerText called.outputs ∧
      (∀ text, .text text true ∉ called.outputs) ∧
      ∀ later, answered (called.outputs ++ later) =
        hop.pending (sinkText false flushed.2) :: answered later := by
  intro flushed called
  have flushes : called =
      ({ hop with toolCount := hop.toolCount + 1 }).flush.andThen fun flushed =>
        ⟨flushed, [.toolUse toolUse], none⟩ := by
    simp [called, callback, onToolUse, continuation]
  obtain ⟨answers, freed, forwards⟩ :=
    flush_forwards { hop with toolCount := hop.toolCount + 1 } continuation
  rw [flushes]
  simp only [then_outputs, then_state]
  refine ⟨answers.continuation.trans continuation, answers.splitter, freed, ?_, ?_, ?_⟩
  · rw [answers.answer, answer_text_append]
    exact congrArg _ (List.append_nil _).symm
  · intro text member
    cases List.mem_append.mp member with
    | inl inside =>
        obtain ⟨other, same⟩ := answers.only _ inside
        cases same
    | inr inside => simp at inside
  · intro later
    rw [List.append_assoc, answered_append _ _ answers.only, forwards, List.singleton_append]
    exact congrArg₂ List.cons (List.append_nil _) rfl

/-- What a hop forwards between the tool calls, from the visible text of its events. -/
theorem run_answered (events : List (CallEvent Credit)) (hop : ContinuationHop Credit)
    (continuation : hop.continuation = true) :
    answered (hop.run events).outputs =
      (ThinkingTagSplitter.stretches thinkingByteTags hop.splitter
        (answerStretches (callbackRuns events))).modifyHead hop.pending := by
  unfold run
  rw [then_outputs]
  induction events generalizing hop with
  | nil =>
      obtain ⟨answers, _, forwards⟩ := flush_forwards hop continuation
      have quiet := answered_append hop.flush.outputs [] answers.only
      rw [List.append_nil] at quiet
      simp only [emitAll, done, List.nil_append]
      rw [quiet, forwards]
      simp [answered, callbackRuns, answerStretches, ThinkingTagSplitter.stretches,
        ThinkingTagSplitter.stretch, ThinkingTagSplitter.pushAll]
  | cons event events ih =>
      rw [emitAll, then_outputs, then_state, List.append_assoc]
      -- The events that neither carry answer text nor call a tool.
      have still (after : ContinuationHop Credit) (stays : after.continuation = true)
          (splitter : after.splitter = hop.splitter) (same : after.pending = hop.pending) :
          answered ((emitAll callback after events).outputs ++
            (emitAll callback after events).state.flush.outputs) =
          (ThinkingTagSplitter.stretches thinkingByteTags hop.splitter
            (answerStretches (callbackRuns events))).modifyHead hop.pending := by
        rw [ih after stays, splitter, same]
      cases event with
      | followupPayload payload => exact still _ continuation rfl rfl
      | callback call =>
          cases call with
          | stopReason reason => exact still _ continuation rfl rfl
          | credits credits => exact still _ continuation rfl rfl
          | contextUsage percentage => exact still _ continuation rfl rfl
          | cacheUsage read write => exact still _ continuation rfl rfl
          | complete inputTokens outputTokens => exact still _ continuation rfl rfl
          | text text isThinking =>
              cases isThinking with
              | true =>
                  have ignored : hop.callback (.callback (.text text true)) = done hop := by
                    simp [callback, onText, continuation]
                  rw [ignored]
                  exact still hop continuation rfl rfl
              | false =>
                  have taken := text_takes_in hop continuation text
                  have chunk : answerStretches (callbackRuns
                      (.callback (.text text false) :: events)) =
                      (answerStretches (callbackRuns events)).modifyHead (text :: ·) := rfl
                  rw [answered_append _ _ taken.only,
                    ih _ (taken.continuation.trans continuation), taken.splitter, chunk,
                    ThinkingTagSplitter.stretches_push, List.modifyHead_modifyHead,
                    List.modifyHead_modifyHead]
                  congr 1
                  funext more
                  exact taken.forwards more
          | toolUse toolUse =>
              obtain ⟨stays, splitter, freed, _, _, called⟩ :=
                call_flushes hop continuation toolUse
              have released : ContinuationHop.pending
                  (hop.callback (.callback (.toolUse toolUse))).state = id :=
                funext (pending_released _ freed)
              have nothing : (ThinkingTagSplitter.stretch thinkingByteTags hop.splitter []) =
                  hop.splitter.flush thinkingByteTags := rfl
              have split : answerStretches (callbackRuns
                  (.callback (.toolUse toolUse) :: events)) =
                  [] :: answerStretches (callbackRuns events) := rfl
              rw [called, ih _ stays, splitter, released, List.modifyHead_id, id, split,
                ThinkingTagSplitter.stretches, List.modifyHead_cons, nothing]

/-- The answer of a continuation hop and what it forwards, of any event. -/
def Grows (before : ContinuationHop Credit) (outputs : List (CallbackRun Credit))
    (after : ContinuationHop Credit) : Prop :=
  before.continuation = true → after.continuation = true ∧
    after.answer = before.answer ++ answerText outputs ∧ ∀ text, .text text true ∉ outputs

omit [CreditAmount Credit] in
theorem grows_then (before : ContinuationHop Credit) (earlier : List (CallbackRun Credit))
    (middle : ContinuationHop Credit) (later : List (CallbackRun Credit))
    (after : ContinuationHop Credit) (first : Grows before earlier middle)
    (rest : Grows middle later after) : Grows before (earlier ++ later) after := by
  intro continuation
  obtain ⟨between, grown, plain⟩ := first continuation
  obtain ⟨stays, more, still⟩ := rest between
  refine ⟨stays, ?_, ?_⟩
  · rw [more, grown, answer_text_append, List.append_assoc]
  · intro text member
    cases List.mem_append.mp member with
    | inl inside => exact plain text inside
    | inr inside => exact still text inside

omit [CreditAmount Credit] in
theorem answers_grow {before middle : ContinuationHop Credit} {run : HopRun Credit}
    (answers : middle.Answers run) (continuation : middle.continuation = before.continuation)
    (answer : middle.answer = before.answer) : Grows before run.outputs run.state := by
  intro continues
  refine ⟨answers.continuation.trans (continuation.trans continues), ?_, ?_⟩
  · rw [answers.answer, answer]
  · intro text member
    obtain ⟨other, same⟩ := answers.only _ member
    cases same

theorem callback_grows (hop : ContinuationHop Credit) (event : CallEvent Credit) :
    Grows hop (hop.callback event).outputs (hop.callback event).state := by
  intro continuation
  have still (after : ContinuationHop Credit) (stays : after.continuation = true)
      (same : after.answer = hop.answer) :
      (done after : HopRun Credit).state.continuation = true ∧
        (done after : HopRun Credit).state.answer =
          hop.answer ++ answerText (done after : HopRun Credit).outputs ∧
        ∀ text, .text text true ∉ (done after : HopRun Credit).outputs := by
    refine ⟨stays, ?_, fun text => List.not_mem_nil⟩
    exact same.trans (List.append_nil _).symm
  cases event with
  | followupPayload payload => exact still _ continuation rfl
  | callback call =>
      cases call with
      | stopReason reason => exact still _ continuation rfl
      | credits credits => exact still _ continuation rfl
      | contextUsage percentage =>
          refine ⟨continuation, (List.append_nil _).symm, ?_⟩
          simp [callback]
      | cacheUsage read write => exact still _ continuation rfl
      | complete inputTokens outputTokens => exact still _ continuation rfl
      | text text isThinking =>
          cases isThinking with
          | true =>
              have ignored : hop.callback (.callback (.text text true)) = done hop := by
                simp [callback, onText, continuation]
              rw [ignored]
              exact still hop continuation rfl
          | false =>
              exact answers_grow (text_takes_in hop continuation text).toAnswers rfl rfl
                continuation
      | toolUse toolUse =>
          obtain ⟨stays, _, _, answer, plain, _⟩ := call_flushes hop continuation toolUse
          exact ⟨stays, answer, plain⟩

theorem run_grows (events : List (CallEvent Credit)) (hop : ContinuationHop Credit) :
    Grows hop (hop.run events).outputs (hop.run events).state := by
  unfold run
  apply then_along Grows grows_then
  · apply emit_all_along Grows _ grows_then callback callback_grows
    intro state continuation
    exact ⟨continuation, (List.append_nil _).symm, fun text => List.not_mem_nil⟩
  · intro middle continuation
    obtain ⟨answers, _, _⟩ := flush_forwards middle continuation
    exact answers_grow answers rfl rfl continuation

end Events

end ContinuationHop

section Trimming

variable {Credit : Type} [CreditAmount Credit]

theorem run_visible (hop : Nat) (answer : GoString) (events : List (CallEvent Credit)) :
    answered ((startHop (hop + 1) answer : ContinuationHop Credit).run events).outputs =
      (visibleTexts thinkingByteTags false (answered (callbackRuns events))).modifyHead
        fun text => text.drop (repeatedOverlap (overlapTail answer) text) := by
  rw [ContinuationHop.run_answered events _ (decide_eq_true (Nat.succ_pos hop))]
  exact congrArg _ (stretches_visible false _)

/-- A continuation forwards its visible text but for one prefix of it, whatever its chunks. -/
theorem continuation_trimmed (hop : Nat) (answer : GoString) (events : List (CallEvent Credit)) :
    let run := (startHop (hop + 1) answer : ContinuationHop Credit).run events
    (∃ dropped rest later,
      visibleTexts thinkingByteTags false (answered (callbackRuns events)) =
        (dropped ++ rest) :: later ∧
      answered run.outputs = rest :: later ∧
      (dropped ≠ [] → dropped <:+ answer ∧ dropped.length ≤ 1024 ∧
        16 ≤ (trimSpace dropped).length)) ∧
    (∀ other : List (CallEvent Credit),
      answered (callbackRuns other) = answered (callbackRuns events) →
      answered ((startHop (hop + 1) answer : ContinuationHop Credit).run other).outputs =
        answered run.outputs) ∧
    run.state.answer = (answered run.outputs).flatten ∧ ∀ text, .text text true ∉ run.outputs := by
  intro run
  obtain ⟨chunks, following, texts⟩ := answer_stretches_cons (callbackRuns events)
  obtain ⟨visible, later, shown⟩ : ∃ visible later,
      visibleTexts thinkingByteTags false (answered (callbackRuns events)) = visible :: later := by
    rw [answered, texts]
    exact ⟨_, _, rfl⟩
  have forwarded := @run_visible Credit _ hop answer events
  obtain ⟨_, grown, plain⟩ := ContinuationHop.run_grows events
    (startHop (hop + 1) answer : ContinuationHop Credit) (decide_eq_true (Nat.succ_pos hop))
  refine ⟨⟨visible.take (repeatedOverlap (overlapTail answer) visible),
    visible.drop (repeatedOverlap (overlapTail answer) visible), later, ?_, ?_, ?_⟩, ?_,
    ?_, plain⟩
  · rw [shown, List.take_append_drop]
  · rw [forwarded, shown, List.modifyHead_cons]
  · intro cut
    have some_ : repeatedOverlap (overlapTail answer) visible ≠ 0 := by
      intro none
      rw [none, List.take_zero] at cut
      exact cut rfl
    obtain ⟨repeats, long⟩ := overlap_from_repeats (overlapTail answer) visible _ some_
    refine ⟨repeats.trans (overlap_tail_suffix answer), ?_, long⟩
    exact Nat.le_trans repeats.length_le (overlap_tail_bounded answer)
  · intro other same
    rw [run_visible, same, forwarded]
  · rw [answered_flatten]
    exact grown

end Trimming

end KiroProxy.AutoContinue
