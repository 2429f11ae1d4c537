import KiroProxy.Proxy.ClaudeAnswer

/-!
# The answer of the OpenAI chat endpoint

The chunks of `handleOpenAIStream`, put together as a client does, and the message that
`handleOpenAINonStream` builds with `KiroToOpenAIResponseWithReasoning`. A configured
format puts the reasoning into the content between tags or into a field of its own. The
JSON encoder of tool arguments is a parameter.
-/

namespace KiroProxy.ThinkingScanner

open Foundation
open Foundation.Delimited (Delimiters)
open Foundation.Delimited.Delimiters KiroTypes

set_option autoImplicit false

inductive ThinkingFormat where
  | thinking
  | think
  | reasoningContent
  deriving DecidableEq

/-- The tags a format puts around reasoning in the content. -/
def ThinkingFormat.tags : ThinkingFormat → Option (Runes × Runes)
  | .thinking => some ("<thinking>".toList, "</thinking>".toList)
  | .think => some ("<think>".toList, "</think>".toList)
  | .reasoningContent => none

inductive ContentPart where
  | answer (text : Runes)
  | reasoning (openTag text closeTag : Runes)
  deriving DecidableEq

namespace ContentPart

def render : ContentPart → Runes
  | .answer text => text
  | .reasoning openTag text closeTag => openTag ++ text ++ closeTag

def answerText : ContentPart → Runes
  | .answer text => text
  | .reasoning _ _ _ => []

def reasoningText : ContentPart → Runes
  | .answer _ => []
  | .reasoning _ text _ => text

end ContentPart

structure ToolCall where
  id : GoString
  name : GoString
  arguments : GoString
  deriving DecidableEq

/-- The message of a chat completion, or what its chunks add up to. -/
structure ChatMessage where
  content : Option (List ContentPart)
  reasoningContent : Runes
  toolCalls : List ToolCall
  deriving DecidableEq

namespace ChatMessage

def visibleText (message : ChatMessage) : Runes :=
  (message.content.getD []).flatMap ContentPart.answerText

def reasoningText (message : ChatMessage) : Runes :=
  (message.content.getD []).flatMap ContentPart.reasoningText ++ message.reasoningContent

/-- Equal up to the whitespace around each text. -/
def Same (left right : ChatMessage) : Prop :=
  Answer.Same ⟨left.visibleText, left.reasoningText⟩ ⟨right.visibleText, right.reasoningText⟩ ∧
    left.toolCalls = right.toolCalls

instance (left right : ChatMessage) : Decidable (left.Same right) :=
  inferInstanceAs (Decidable (_ ∧ _))

end ChatMessage

inductive ChatChunk where
  | content (part : ContentPart)
  | reasoningContent (text : Runes)

def ChatChunk.part : ChatChunk → List ContentPart
  | .content part => [part]
  | .reasoningContent _ => []

def ChatChunk.reasoning : ChatChunk → Runes
  | .content _ => []
  | .reasoningContent text => text

def sendChunk (format : ThinkingFormat) (thinking : Bool) (send : Send) : Option ChatChunk :=
  if send.text = [] && send.thinkingState = 2 then none
  else if 0 < send.thinkingState then
    if !thinking then none
    else
      match format.tags with
      | some (openTag, closeTag) =>
          let part := ContentPart.reasoning
            (if send.thinkingState = 1 then openTag else []) send.text
            (if send.thinkingState = 3 then closeTag else [])
          if part.render = [] then none else some (.content part)
      | none => if send.text = [] then none else some (.reasoningContent send.text)
  else if send.text = [] then none
  else some (.content (.answer send.text))

section Paths

variable (marshal : JsonFields → GoString)

def toolCall (call : KiroToolUse) : ToolCall where
  id := call.toolUseID
  name := call.name
  arguments := marshal call.input

def chatStreamMessage (format : ThinkingFormat) (thinking : Bool) (events : List StreamEvent) :
    ChatMessage :=
  let run := StreamRun.stream thinking events
  let chunks := run.sends.filterMap (sendChunk format thinking)
  { content := some (chunks.flatMap ChatChunk.part)
    reasoningContent := chunks.flatMap ChatChunk.reasoning
    toolCalls := run.toolUses.map (toolCall marshal) }

def kiroToOpenAIResponseWithReasoning (content reasoningContent : Runes)
    (toolUses : List KiroToolUse) (format : ThinkingFormat) : ChatMessage :=
  if 0 < toolUses.length then
    { content := none, reasoningContent := [], toolCalls := toolUses.map (toolCall marshal) }
  else if reasoningContent ≠ [] then
    match format.tags with
    | some (openTag, closeTag) =>
        { content := some [.reasoning openTag reasoningContent closeTag, .answer content]
          reasoningContent := []
          toolCalls := [] }
    | none =>
        { content := some [.answer content]
          reasoningContent := reasoningContent
          toolCalls := [] }
  else { content := some [.answer content], reasoningContent := [], toolCalls := [] }

/-- `handleOpenAINonStream`. -/
def chatNonStreamMessage (format : ThinkingFormat) (thinking : Bool)
    (events : List StreamEvent) : ChatMessage :=
  let collected := collect events
  let extracted := extractThinkingFromContent collected.content
  let reasoningContent :=
    if thinking && collected.thinkingContent = [] && extracted.2 ≠ [] then extracted.2
    else if !thinking then []
    else collected.thinkingContent
  kiroToOpenAIResponseWithReasoning marshal extracted.1 reasoningContent collected.toolUses
    format

end Paths

section Chunks

variable (format : ThinkingFormat) (thinking : Bool)

theorem chunks_flat_map {Symbol : Type} (read : ChatChunk → List Symbol)
    (given : Send → List Symbol)
    (one : ∀ send, (sendChunk format thinking send).toList.flatMap read = given send)
    (sends : List Send) :
    (sends.filterMap (sendChunk format thinking)).flatMap read = sends.flatMap given := by
  induction sends with
  | nil => rfl
  | cons send sends ih =>
      have first := one send
      rw [List.flatMap_cons, ← first, ← ih]
      cases chunk : sendChunk format thinking send with
      | none => simp [chunk]
      | some chunk' => simp [chunk]

theorem send_chunk_answer (text : Runes) :
    sendChunk format thinking ⟨text, 0⟩ =
      if text = [] then none else some (.content (.answer text)) := by
  simp [sendChunk]

theorem send_chunk_silent (text : Runes) (state : Fin 4) (reasoning : state ≠ 0) :
    sendChunk format false ⟨text, state⟩ = none := by
  simp [sendChunk, Fin.pos_iff_ne_zero.mpr reasoning]

theorem send_chunk_field (field : format.tags = none) (text : Runes) (state : Fin 4)
    (reasoning : state ≠ 0) :
    sendChunk format true ⟨text, state⟩ =
      if text = [] then none else some (.reasoningContent text) := by
  by_cases empty : text = [] <;>
    simp [sendChunk, field, empty, Fin.pos_iff_ne_zero.mpr reasoning]

theorem send_chunk_tags (inline : format.tags ≠ none) (text : Runes) (state : Fin 4)
    (reasoning : state ≠ 0) :
    (sendChunk format true ⟨text, state⟩ = none ∧ text = []) ∨
      ∃ openTag closeTag, sendChunk format true ⟨text, state⟩ =
        some (.content (.reasoning openTag text closeTag)) := by
  obtain ⟨⟨openTag, closeTag⟩, tags⟩ := Option.ne_none_iff_exists'.mp inline
  unfold sendChunk
  rw [tags]
  dsimp only
  by_cases middle : (decide (text = []) && decide (state = 2)) = true
  · rw [if_pos middle]
    rw [Bool.and_eq_true, decide_eq_true_eq] at middle
    exact Or.inl ⟨rfl, middle.1⟩
  · rw [if_neg middle, if_pos (Fin.pos_iff_ne_zero.mpr reasoning)]
    by_cases nothing : (ContentPart.reasoning (if state = 1 then openTag else []) text
        (if state = 3 then closeTag else [])).render = []
    · left
      rw [nothing]
      simp only [ContentPart.render, List.append_eq_nil_iff] at nothing
      exact ⟨by simp, nothing.1.2⟩
    · right
      refine ⟨if state = 1 then openTag else [], if state = 3 then closeTag else [], ?_⟩
      simp [nothing]

theorem send_chunk_visible (send : Send) :
    (sendChunk format thinking send).toList.flatMap
        (fun chunk => chunk.part.flatMap ContentPart.answerText) =
      if send.thinkingState = 0 then send.text else [] := by
  obtain ⟨text, state⟩ := send
  by_cases answer : state = 0
  · rw [answer, send_chunk_answer]
    by_cases empty : text = [] <;> simp [empty, ChatChunk.part, ContentPart.answerText]
  · rw [if_neg answer]
    cases thinking with
    | false =>
        rw [send_chunk_silent format text state answer]
        rfl
    | true =>
        by_cases field : format.tags = none
        · rw [send_chunk_field format field text state answer]
          split_ifs <;> rfl
        · rcases send_chunk_tags format field text state answer with
            ⟨nothing, _⟩ | ⟨openTag, closeTag, chunk⟩
          · rw [nothing]
            rfl
          · rw [chunk]
            rfl

theorem send_chunk_reasoning (send : Send) :
    (sendChunk format thinking send).toList.flatMap
        (fun chunk => chunk.part.flatMap ContentPart.reasoningText) =
      (if format.tags = none then [] else
        if send.thinkingState ≠ 0 && thinking then send.text else []) ∧
    (sendChunk format thinking send).toList.flatMap ChatChunk.reasoning =
      (if format.tags = none then
        if send.thinkingState ≠ 0 && thinking then send.text else []
      else []) := by
  obtain ⟨text, state⟩ := send
  by_cases answer : state = 0
  · rw [answer, send_chunk_answer]
    by_cases empty : text = [] <;>
      simp [empty, ChatChunk.part, ChatChunk.reasoning, ContentPart.reasoningText]
  · cases thinking with
    | false =>
        rw [send_chunk_silent format text state answer]
        simp
    | true =>
        by_cases field : format.tags = none
        · rw [send_chunk_field format field text state answer]
          by_cases empty : text = [] <;>
            simp [empty, field, answer, ChatChunk.part, ChatChunk.reasoning]
        · rcases send_chunk_tags format field text state answer with
            ⟨nothing, empty⟩ | ⟨openTag, closeTag, chunk⟩
          · rw [nothing]
            simp [empty]
          · rw [chunk]
            simp [field, answer, ChatChunk.part, ChatChunk.reasoning,
              ContentPart.reasoningText]

/-- The chunks put together carry what the scanner has sent, in every format. -/
theorem chunks_texts (sends : List Send) :
    let chunks := sends.filterMap (sendChunk format thinking)
    (chunks.flatMap ChatChunk.part).flatMap ContentPart.answerText = answerText sends ∧
      (chunks.flatMap ChatChunk.part).flatMap ContentPart.reasoningText ++
        chunks.flatMap ChatChunk.reasoning = reasoningText thinking sends := by
  dsimp only
  rw [List.flatMap_assoc, List.flatMap_assoc]
  refine ⟨chunks_flat_map format thinking _ _ (send_chunk_visible format thinking) sends, ?_⟩
  rw [chunks_flat_map format thinking _ _ (fun send => (send_chunk_reasoning format thinking send).1),
    chunks_flat_map format thinking _ _ (fun send => (send_chunk_reasoning format thinking send).2)]
  by_cases field : format.tags = none <;> simp [field, reasoningText]

end Chunks

section Messages

variable (marshal : JsonFields → GoString) (format : ThinkingFormat) (thinking : Bool)
  (events : List StreamEvent)

theorem chat_stream_message :
    (chatStreamMessage marshal format thinking events).visibleText =
        answerText (StreamRun.stream thinking events).sends ∧
      (chatStreamMessage marshal format thinking events).reasoningText =
        reasoningText thinking (StreamRun.stream thinking events).sends ∧
      (chatStreamMessage marshal format thinking events).toolCalls =
        (toolCalls events).map (toolCall marshal) := by
  obtain ⟨visible, reasoning⟩ :=
    chunks_texts format thinking (StreamRun.stream thinking events).sends
  refine ⟨visible, reasoning, ?_⟩
  rw [← stream_tool_uses thinking events]
  rfl

theorem chat_message_with_tools (content reasoning : Runes) (calls : List KiroToolUse)
    (some : calls ≠ []) :
    kiroToOpenAIResponseWithReasoning marshal content reasoning calls format =
      ⟨none, [], calls.map (toolCall marshal)⟩ :=
  if_pos (List.length_pos_iff.mpr some)

theorem chat_message_without_tools (content reasoning : Runes) :
    let message := kiroToOpenAIResponseWithReasoning marshal content reasoning [] format
    message.visibleText = content ∧ message.reasoningText = reasoning ∧
      message.toolCalls = [] := by
  unfold kiroToOpenAIResponseWithReasoning
  by_cases empty : reasoning = []
  · simp [empty, ChatMessage.visibleText, ChatMessage.reasoningText, ContentPart.answerText,
      ContentPart.reasoningText]
  · cases format <;>
      simp [empty, ThinkingFormat.tags, ChatMessage.visibleText, ChatMessage.reasoningText,
        ContentPart.answerText, ContentPart.reasoningText]

end Messages

section Agreement

def Blank (text : Runes) : Prop := trimSpace text = []

/-- Nothing but tool calls and whitespace is read, in the answer and in the reasoning. -/
def OnlyTools (thinking : Bool) (events : List StreamEvent) : Prop :=
  ∃ visible thought opened closed,
    thinkingTags.Reading (stretches events) visible thought opened closed ∧ Blank visible ∧
      (thinking = true → Blank (runReasoning (firstSource [] events) events thought))

/-- The text is seamless, and reasoning deltas come before the first tag or not at all. -/
def OneSource (thinking : Bool) (events : List StreamEvent) : Prop :=
  thinkingTags.Seamless [] (stretches events) ∧
    (thinking = true → firstSource [] events = .reasoningEvent ∨ reasoningDeltas events = [])

def ChatAlike (thinking : Bool) (events : List StreamEvent) : Prop :=
  (toolCalls events ≠ [] → OnlyTools thinking events) ∧
    (toolCalls events = [] → OneSource thinking events)

variable (marshal : JsonFields → GoString) (format : ThinkingFormat) (thinking : Bool)
  (events : List StreamEvent)

theorem chat_same_with_tools (some : toolCalls events ≠ []) :
    (chatStreamMessage marshal format thinking events).Same
        (chatNonStreamMessage marshal format thinking events) ↔
      OnlyTools thinking events := by
  obtain ⟨opened, closed, thought, reading, sent⟩ := stream_reads thinking events
  obtain ⟨visible, reasoning, calls⟩ := chat_stream_message marshal format thinking events
  have collected : chatNonStreamMessage marshal format thinking events =
      ⟨none, [], (toolCalls events).map (toolCall marshal)⟩ := by
    unfold chatNonStreamMessage
    rw [collect_eq]
    exact chat_message_with_tools marshal format _ _ _ some
  have silent : reasoningText thinking (StreamRun.stream thinking events).sends =
      if thinking then runReasoning (firstSource [] events) events thought else [] := by
    cases thinking with
    | false => exact reasoning_text_off _
    | true => exact sent rfl
  have same : (chatStreamMessage marshal format thinking events).Same
        (chatNonStreamMessage marshal format thinking events) ↔
      Blank (answerText (StreamRun.stream thinking events).sends) ∧
        (thinking = true → Blank (runReasoning (firstSource [] events) events thought)) := by
    unfold ChatMessage.Same Answer.Same
    rw [visible, reasoning, calls, collected, silent]
    simp only [ChatMessage.visibleText, ChatMessage.reasoningText, Option.getD_none,
      List.flatMap_nil, List.append_nil, and_true]
    have blanks : trimSpace [] = [] := rfl
    rw [blanks]
    cases thinking <;> simp [Blank, blanks]
  rw [same]
  constructor
  · intro ⟨blank, quiet⟩
    exact ⟨_, thought, opened, closed, reading, blank, quiet⟩
  · intro ⟨visible', thought', _, _, reading', blank, quiet⟩
    obtain ⟨rfl, rfl⟩ := reading_unique reading reading'
    exact ⟨blank, quiet⟩

theorem chat_same_without_tools (answered : toolCalls events = []) :
    ∃ opened closed removed thought visible' thought',
      thinkingTags.Reading (stretches events)
        (answerText (StreamRun.stream thinking events).sends) thought opened closed ∧
      thinkingTags.Rescan (stretches events).flatten visible' thought' removed ∧
      ((chatStreamMessage marshal format thinking events).Same
          (chatNonStreamMessage marshal format thinking events) ↔
        thinkingTags.Alike (answerText (StreamRun.stream thinking events).sends) visible' ∧
          (thinking = true →
            thinkingTags.Alike (runReasoning (firstSource [] events) events thought)
              (if reasoningDeltas events = [] then thought' else reasoningDeltas events))) := by
  obtain ⟨opened, closed, thought, reading, sent⟩ := stream_reads thinking events
  obtain ⟨visible', thought', removed, rescan, extracted⟩ :=
    extract_rescans (stretches events).flatten
  refine ⟨opened, closed, removed, thought, visible', thought', reading, rescan, ?_⟩
  obtain ⟨visible, reasoning, calls⟩ := chat_stream_message marshal format thinking events
  have collected : ∃ shown, chatNonStreamMessage marshal format thinking events =
        kiroToOpenAIResponseWithReasoning marshal (trimSpace visible') shown [] format ∧
      shown = if thinking then
        if reasoningDeltas events = [] then thought' else reasoningDeltas events
      else [] := by
    unfold chatNonStreamMessage
    rw [collect_eq, answered]
    dsimp only
    rw [extracted]
    refine ⟨_, rfl, ?_⟩
    cases thinking with
    | false => rfl
    | true =>
        by_cases deltas : reasoningDeltas events = [] <;>
          by_cases empty : thought' = [] <;> simp [deltas, empty]
  obtain ⟨shown, message, given⟩ := collected
  obtain ⟨visibleNon, reasoningNon, callsNon⟩ :=
    chat_message_without_tools marshal format (trimSpace visible') shown
  unfold ChatMessage.Same
  rw [visible, reasoning, calls, message, visibleNon, reasoningNon, callsNon, answered]
  rw [same_iff_alike, List.map_nil, and_iff_left rfl, given]
  cases thinking with
  | false =>
      rw [reasoning_text_off]
      simp [Delimiters.Alike]
  | true =>
      rw [sent rfl]
      simp

/-- Streamed and collected, a chat completion carries the same texts and tool calls if it
has tool calls and nothing else, or a seamless text with one source of reasoning. Where
both texts are compared these are the only cases. -/
theorem chat_answers_agree :
    (ChatAlike thinking events →
      (chatStreamMessage marshal format thinking events).Same
        (chatNonStreamMessage marshal format thinking events)) ∧
    (toolCalls events ≠ [] ∨ thinking = true ∧ reasoningDeltas events = [] →
      (chatStreamMessage marshal format thinking events).Same
        (chatNonStreamMessage marshal format thinking events) →
      ChatAlike thinking events) := by
  by_cases answered : toolCalls events = []
  · obtain ⟨opened, closed, removed, thought, visible', thought', reading, rescan, same⟩ :=
      chat_same_without_tools marshal format thinking events answered
    rw [same]
    constructor
    · intro alike
      obtain ⟨seamless, source⟩ := alike.2 answered
      obtain ⟨visible, reasoning⟩ := (alike_iff_seamless reading rescan).mpr seamless
      refine ⟨visible, ?_⟩
      intro on
      rcases source on with event | silent
      · rw [if_neg (first_source_event event), runReasoning, if_pos event]
        rfl
      · rw [if_pos silent, runReasoning, if_neg (first_source_without silent [])]
        exact reasoning
    · rintro (some | ⟨on, silent⟩) ⟨visible, reasoning⟩
      · exact absurd answered some
      · refine ⟨fun some => absurd answered some, fun _ => ⟨?_, fun _ => Or.inr silent⟩⟩
        have thoughts := reasoning on
        rw [if_pos silent, runReasoning, if_neg (first_source_without silent [])] at thoughts
        exact (alike_iff_seamless reading rescan).mp ⟨visible, thoughts⟩
  · rw [chat_same_with_tools marshal format thinking events answered]
    exact ⟨fun alike => alike.1 answered,
      fun _ only => ⟨fun _ => only, fun empty => absurd empty answered⟩⟩

/-- The text before a tool call is missing from the collected answer. -/
theorem text_before_tool_call_lost :
    ¬(chatStreamMessage (fun _ => []) .reasoningContent true
        [.text "Let me look.".toList false, .toolUse ⟨lit "t1", lit "read", []⟩]).Same
      (chatNonStreamMessage (fun _ => []) .reasoningContent true
        [.text "Let me look.".toList false, .toolUse ⟨lit "t1", lit "read", []⟩]) := by
  decide

end Agreement

end KiroProxy.ThinkingScanner
