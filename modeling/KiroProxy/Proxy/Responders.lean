import KiroProxy.Proxy.ChatAnswer
import KiroProxy.Proxy.ClaudeProtocol
import KiroProxy.Proxy.RequestHandling

/-!
# The answers of the handlers

What `handleClaudeStream`, `handleClaudeNonStream` and `handleOpenAIStream` of
`proxy/handler.go` make of the callbacks of an attempt, and the handlers with them.
-/

namespace KiroProxy.RequestHandling

open ApiKeys (CreditAmount)
open ClaudeStream ClaudeUsage EventStream FollowupPayloads GoStrings KiroTypes PromptCache
open ThinkingScanner TokenEstimator UpstreamCalls

set_option autoImplicit false

section Runes

/-- The rune of a valid encoding of two to four bytes. -/
def runeOf (encoding : GoString) : Char :=
  match encoding with
  | [] => '\uFFFD'
  | first :: rest =>
      Char.ofNat (rest.foldl (fun value byte => value * 64 + byte.toNat % 64)
        (first.toNat % 2 ^ (6 - rest.length)))

/-- A byte that begins no valid rune reads as U+FFFD. -/
def runesFrom : Nat → GoString → Runes
  | 0, _ => []
  | _, [] => []
  | fuel + 1, byte :: text =>
      if byte < 0x80 then Char.ofNat byte.toNat :: runesFrom fuel text
      else
        match JsonText.runeSize (byte :: text) with
        | none => '\uFFFD' :: runesFrom fuel text
        | some size =>
            runeOf ((byte :: text).take size) :: runesFrom fuel ((byte :: text).drop size)

def runes (text : GoString) : Runes := runesFrom text.length text

example : runes (lit "a<é€😀") = ['a', '<', 'é', '€', '😀'] := by decide +kernel

def encoded (text : Runes) : GoString := lit (String.ofList text)

end Runes

section Reasons

/-- Output that reaches the requested cap stands for a reason that Kiro did not send. -/
def inferMaxTokensStop (reason : GoString) (outputTokens maxTokens : Int) : GoString :=
  if trimSpace reason = [] ∧ 0 < maxTokens ∧ maxTokens ≤ outputTokens then lit "max_tokens"
  else reason

def outputCapReasons : List GoString :=
  [lit "max_tokens", lit "max_output_tokens", lit "length"]

def contextWindowReasons : List GoString :=
  [lit "model_context_window_exceeded", lit "context_window_exceeded"]

def refusalReasons : List GoString :=
  [lit "refusal", lit "content_filter", lit "content_filtered", lit "guardrail_intervened"]

def mapOpenAIFinishReason (letters : Letters) (reason : GoString) (toolCount : Nat) : GoString :=
  let reason := normalizeStopReason letters reason
  if 0 < toolCount then lit "tool_calls"
  else if reason ∈ outputCapReasons ++ contextWindowReasons then lit "length"
  else if reason ∈ refusalReasons then lit "content_filter"
  else lit "stop"

end Reasons

section Handlers

/-- What a handler is given besides the request; `contextTokens` is a context percentage in
tokens. -/
structure HandlerOptions (Credit : Type) where
  letters : Letters
  weigh : RuneClasses → Int
  contextTokens : Credit → Int
  thinking : Bool
  estimatedInputTokens : Int
  maxTokens : Int

variable {Credit : Type} [Zero Credit] (options : HandlerOptions Credit)

/-- The callbacks that the answer itself is made of. -/
def streamEvent {Credit : Type} : CallbackRun Credit → Option StreamEvent
  | .text text isThinking => some (.text (runes text) isThinking)
  | .toolUse toolUse => some (.toolUse toolUse)
  | _ => none

/-- The texts that an attempt collects, and what is reported with them. -/
structure RawAnswer (Credit : Type) where
  content : GoString
  thinkingContent : GoString
  counters : UsageCounters Credit

def startRaw : RawAnswer Credit := ⟨[], [], startCounters⟩

/-- The stream handlers write tool calls to the raw content as well. -/
def RawAnswer.onCallback (raw : RawAnswer Credit) (writesCalls : Bool)
    (callback : CallbackRun Credit) : RawAnswer Credit :=
  let counters := onReport options.contextTokens raw.counters callback
  match callback with
  | .text text true =>
      { raw with thinkingContent := raw.thinkingContent ++ text, counters := counters }
  | .text text false => { raw with content := raw.content ++ text, counters := counters }
  | .toolUse toolUse =>
      { raw with
        content :=
          if writesCalls then
            raw.content ++ toolUse.name ++ JsonText.marshal (.obj toolUse.input)
          else raw.content
        counters := counters }
  | _ => { raw with counters := counters }

/-- The final texts of an answer: without thinking blocks, and the reasoning. -/
def RawAnswer.outputs (raw : RawAnswer Credit) : GoString × GoString :=
  let extracted := extractThinkingFromContent (runes raw.content)
  let thinkingOutput :=
    if raw.thinkingContent = [] ∧ extracted.2 ≠ [] then encoded extracted.2
    else raw.thinkingContent
  (encoded extracted.1, if options.thinking then thinkingOutput else [])

/-- The input and output tokens of an answer that estimates its output. -/
def RawAnswer.finalized (raw : RawAnswer Credit) (estimatedOutputTokens : Int) : Int × Int :=
  finalizeUsageTokens raw.counters.inputTokens raw.counters.outputTokens
    options.estimatedInputTokens raw.counters.realInputTokens estimatedOutputTokens

def RawAnswer.bill (raw : RawAnswer Credit) (finalized : Int × Int)
    (estimate : CacheTokenCounts) : Bill Credit where
  inputTokens := finalized.1
  outputTokens := finalized.2
  credits := raw.counters.credits
  cache := resolveCacheTokens raw.counters.upstreamCache estimate finalized.1

def RawAnswer.stopReason (raw : RawAnswer Credit) (outputTokens : Int) : GoString :=
  inferMaxTokensStop raw.counters.upstreamStopReason outputTokens options.maxTokens

end Handlers

section Claude

variable {Credit : Type} [Zero Credit] (options : HandlerOptions Credit)

structure ClaudeOptions where
  thinkingFormat : ClaudeThinkingFormat
  omitDisplay : Bool
  hasProfile : Bool

variable (claude : ClaudeOptions)

def streamOptions : ClaudeStreamOptions :=
  ⟨options.thinking, claude.thinkingFormat, claude.omitDisplay⟩

def claudeFinalized (raw : RawAnswer Credit) (toolUses : List KiroToolUse) : Int × Int :=
  let outputs := raw.outputs options
  raw.finalized options
    (estimateClaudeOutputTokens options.weigh outputs.1 outputs.2 toolUses)

structure ClaudeStreamAnswer (Credit : Type) where
  run : ClaudeRun UsageFields
  raw : RawAnswer Credit
  cacheUsage : PromptCacheUsage

namespace ClaudeStreamAnswer

variable (answer : ClaudeStreamAnswer Credit)

/-- The usage of the start of the message. -/
def startUsage : UsageFields :=
  buildClaudeUsageMap options.estimatedInputTokens 0 answer.cacheUsage claude.hasProfile

def onEvent (event : Option StreamEvent) : ClaudeRun UsageFields :=
  match event with
  | some event =>
      answer.run.onEvent (streamOptions options claude) (answer.startUsage options claude) event
  | none => answer.run

def onCallback (callback : CallbackRun Credit) : ClaudeStreamAnswer Credit :=
  { answer with
    run := answer.onEvent options claude (streamEvent callback)
    raw := answer.raw.onCallback options true callback }

def finalized : Int × Int := claudeFinalized options answer.raw answer.run.toolUses

def succeed : ClaudeStreamAnswer Credit :=
  { answer with
    run := answer.run.succeed (streamOptions options claude) (answer.startUsage options claude)
      (mapClaudeStopReason options.letters
        (answer.raw.stopReason options (answer.finalized options).2) answer.run.toolUses.length)
      (buildClaudeUsageMap (answer.finalized options).1 (answer.finalized options).2
        answer.cacheUsage claude.hasProfile) }

def fail (message : GoString) : ClaudeStreamAnswer Credit :=
  { answer with
    run := answer.run.fail (streamOptions options claude) (answer.startUsage options claude)
      message }

end ClaudeStreamAnswer

/-- The content blocks and the rest of `KiroToClaudeResponse`, with what the handler sets. -/
structure ClaudeResponse where
  thinking : Option GoString
  text : Option GoString
  toolUses : List KiroToolUse
  stopReason : GoString
  usage : UsageFields

structure ClaudeNonStreamAnswer (Credit : Type) where
  raw : RawAnswer Credit
  toolUses : List KiroToolUse
  cacheUsage : PromptCacheUsage
  sent : List ClaudeResponse

namespace ClaudeNonStreamAnswer

variable (answer : ClaudeNonStreamAnswer Credit)

def onCallback (callback : CallbackRun Credit) : ClaudeNonStreamAnswer Credit :=
  { answer with
    raw := answer.raw.onCallback options false callback
    toolUses :=
      match callback with
      | .toolUse toolUse => answer.toolUses ++ [toolUse]
      | _ => answer.toolUses }

def finalized : Int × Int := claudeFinalized options answer.raw answer.toolUses

/-- The text with the reasoning in front where the format says so, and the reasoning that is
left for a thinking block. -/
def contents : GoString × Option GoString :=
  let outputs := answer.raw.outputs options
  if outputs.2 = [] then (outputs.1, none)
  else if claude.omitDisplay then (outputs.1, some [])
  else
    match claude.thinkingFormat with
    | .think => (lit "<think>" ++ outputs.2 ++ lit "</think>" ++ outputs.1, none)
    | .reasoningContent => (outputs.2 ++ outputs.1, none)
    | .thinking => (outputs.1, some outputs.2)

def succeed : ClaudeNonStreamAnswer Credit :=
  let contents := answer.contents options claude
  { answer with
    sent := answer.sent ++
      [{ thinking := contents.2
         text := if contents.1 = [] then none else some contents.1
         toolUses := answer.toolUses
         stopReason :=
          mapClaudeStopReason options.letters
            (answer.raw.stopReason options (answer.finalized options).2) answer.toolUses.length
         usage := responseUsage (answer.finalized options).1 (answer.finalized options).2
          answer.cacheUsage claude.hasProfile }] }

end ClaudeNonStreamAnswer

end Claude

section Chat

variable {Credit : Type} [Zero Credit] (options : HandlerOptions Credit)

structure OpenAIUsage where
  promptTokens : Int
  completionTokens : Int
  totalTokens : Int
  promptTokensDetails : Option OpenAITokenDetails
  deriving DecidableEq

def buildOpenAIUsage (inputTokens outputTokens : Int) (details : Option OpenAITokenDetails) :
    OpenAIUsage :=
  ⟨inputTokens, outputTokens, inputTokens + outputTokens, details⟩

/-- The data lines of the stream. -/
inductive ChatEvent where
  | chunk (chunk : ChatChunk)
  | toolCall (index : Nat) (call : ToolCall)
  | finish (reason : GoString) (usage : OpenAIUsage)
  | done
  | error (message : GoString)

structure ChatStreamAnswer (Credit : Type) where
  scanner : StreamScanner
  toolCalls : List ToolCall
  raw : RawAnswer Credit
  cacheDetails : Int → Option OpenAITokenDetails
  responseStarted : Bool
  sent : List ChatEvent

namespace ChatStreamAnswer

variable (format : ThinkingFormat) (answer : ChatStreamAnswer Credit)

def sendChunks (sends : List Send) : ChatStreamAnswer Credit :=
  let chunks := sends.filterMap (sendChunk format options.thinking)
  { answer with
    responseStarted := answer.responseStarted || !chunks.isEmpty
    sent := answer.sent ++ chunks.map .chunk }

def processText (text : Runes) (isThinking forceFlush : Bool) : ChatStreamAnswer Credit :=
  let processed := answer.scanner.processText options.thinking text isThinking forceFlush
  { answer with scanner := processed.1 }.sendChunks options format processed.2

/-- A tool call is sent whole. -/
def sendToolCall (call : ToolCall) : ChatStreamAnswer Credit :=
  { answer with
    toolCalls := answer.toolCalls ++ [call]
    responseStarted := true
    sent := answer.sent ++ [.toolCall answer.toolCalls.length call] }

def onEvent (event : Option StreamEvent) : ChatStreamAnswer Credit :=
  match event with
  | some (.text delta isThinking) =>
      if delta = [] then answer else answer.processText options format delta isThinking false
  | some (.toolUse toolUse) =>
      (answer.processText options format [] false true).sendToolCall
        (toolCall (fun input => JsonText.marshal (.obj input)) toolUse)
  | none => answer

def onCallback (callback : CallbackRun Credit) : ChatStreamAnswer Credit :=
  { answer.onEvent options format (streamEvent callback) with
    raw := answer.raw.onCallback options true callback }

/-- The held-back tail goes out before the answer ends. -/
def finish : ChatStreamAnswer Credit :=
  let flushed := answer.processText options format [] false true
  if flushed.scanner.eventThinkingOpen then flushed.sendChunks options format [⟨[], 3⟩]
  else flushed

def finalized : Int × Int :=
  let outputs := answer.raw.outputs options
  answer.raw.finalized options
    (answer.toolCalls.foldl (fun total call =>
      total + estimateApproxTokens options.weigh call.name +
        estimateApproxTokens options.weigh call.arguments)
      (estimateApproxTokens options.weigh outputs.1 +
        estimateApproxTokens options.weigh outputs.2))

def bill : Bill Credit :=
  let finalized := answer.finalized options
  let details := (answer.cacheDetails finalized.1).getD ⟨0, 0⟩
  answer.raw.bill finalized ⟨details.cachedTokens, details.cacheWriteTokens⟩

def succeed : ChatStreamAnswer Credit :=
  let finished := answer.finish options format
  let finalized := answer.finalized options
  { finished with
    sent := finished.sent ++
      [.finish
        (mapOpenAIFinishReason options.letters
          (answer.raw.stopReason options finalized.2) answer.toolCalls.length)
        (buildOpenAIUsage finalized.1 finalized.2 (answer.cacheDetails finalized.1)), .done] }

def fail (message : GoString) : ChatStreamAnswer Credit :=
  let finished := answer.finish options format
  { finished with sent := finished.sent ++ [.error message] }

end ChatStreamAnswer

end Chat

section Keeping

variable {Usage : Type} (startUsage : Usage)

/-- What was written stays written. -/
def Keeps (before after : ClaudeWriter Usage) : Prop := before.sent <+: after.sent

theorem keeps_send (writer : ClaudeWriter Usage) (event : SSE Usage) :
    Keeps writer (writer.sendSSE event) :=
  List.prefix_append writer.sent [event]

theorem keeps_trans {first second third : ClaudeWriter Usage} (earlier : Keeps first second)
    (later : Keeps second third) : Keeps first third :=
  List.IsPrefix.trans earlier later

theorem ensure_keeps (writer : ClaudeWriter Usage) :
    Keeps writer (writer.ensureMessageStart startUsage) := by
  unfold ClaudeWriter.ensureMessageStart
  split_ifs
  · exact List.prefix_rfl
  · exact keeps_send writer _

theorem close_keeps (writer : ClaudeWriter Usage) : Keeps writer writer.closeActiveBlock := by
  unfold ClaudeWriter.closeActiveBlock
  split_ifs
  · exact List.prefix_rfl
  · exact keeps_send writer _

theorem start_block_keeps (writer : ClaudeWriter Usage) (block : ContentBlock) :
    Keeps writer (writer.startContentBlock startUsage block) := by
  unfold ClaudeWriter.startContentBlock
  split_ifs
  · exact List.prefix_rfl
  · exact keeps_trans (ensure_keeps startUsage writer)
      (keeps_trans (close_keeps _) (keeps_send _ _))

theorem delta_keeps (writer : ClaudeWriter Usage) (delta : ContentDelta) (block : ContentBlock) :
    Keeps writer ((writer.startContentBlock startUsage block).sendDelta delta) :=
  keeps_trans (start_block_keeps startUsage writer block) (keeps_send _ _)

theorem text_delta_keeps (writer : ClaudeWriter Usage) (text : Runes) (send : Send) :
    Keeps writer (writer.sendTextDelta startUsage text send) := by
  unfold ClaudeWriter.sendTextDelta
  split_ifs
  · exact List.prefix_rfl
  · exact delta_keeps startUsage writer _ _

theorem last_close_keeps (before writer : ClaudeWriter Usage) (keeps : Keeps before writer)
    (last : Prop) [Decidable last] :
    Keeps before (if last then writer.closeActiveBlock else writer) := by
  split_ifs
  · exact keeps_trans keeps (close_keeps writer)
  · exact keeps

theorem thinking_keeps (omitDisplay : Bool) (writer : ClaudeWriter Usage) (send : Send) :
    Keeps writer (writer.sendThinking startUsage omitDisplay send) := by
  have opened := start_block_keeps startUsage writer .thinking
  unfold ClaudeWriter.sendThinking
  split_ifs
  · exact opened
  · exact keeps_trans opened (close_keeps _)
  · exact close_keeps writer
  · exact List.prefix_rfl
  · exact close_keeps writer
  · exact List.prefix_rfl
  · exact last_close_keeps writer _ (delta_keeps startUsage writer _ _) _
  · exact last_close_keeps writer writer List.prefix_rfl _

theorem send_text_keeps (opts : ClaudeStreamOptions) (writer : ClaudeWriter Usage)
    (send : Send) : Keeps writer (writer.sendText startUsage opts send) := by
  unfold ClaudeWriter.sendText
  split_ifs
  · exact text_delta_keeps startUsage writer _ _
  · exact List.prefix_rfl
  · cases opts.thinkingFormat with
    | think => exact text_delta_keeps startUsage writer _ _
    | reasoningContent => exact text_delta_keeps startUsage writer _ _
    | thinking => exact thinking_keeps startUsage opts.omitDisplay writer send

theorem tool_use_keeps (writer : ClaudeWriter Usage) (toolUse : KiroToolUse) :
    Keeps writer (writer.sendToolUse startUsage toolUse) := by
  have opened := keeps_trans (ensure_keeps startUsage writer) (close_keeps _)
  refine keeps_trans opened ?_
  change _ <+: ((_ ++ [_]) ++ [_]) ++ [_]
  rw [List.append_assoc, List.append_assoc]
  exact List.prefix_append _ _

variable (opts : ClaudeStreamOptions)

theorem process_keeps (run : ClaudeRun Usage) (text : Runes) (isThinking forceFlush : Bool) :
    Keeps run.writer (run.processClaudeText opts startUsage text isThinking forceFlush).writer :=
  @List.foldlRecOn _ _ (fun writer => Keeps run.writer writer)
    (run.scanner.processText opts.thinking text isThinking forceFlush).2 _ _ List.prefix_rfl
    (fun writer keeps send _ => keeps_trans keeps (send_text_keeps startUsage opts writer send))

theorem event_keeps (run : ClaudeRun Usage) (event : StreamEvent) :
    Keeps run.writer (run.onEvent opts startUsage event).writer := by
  cases event with
  | text delta isThinking =>
      rw [ClaudeRun.onEvent]
      split_ifs
      · exact List.prefix_rfl
      · exact process_keeps startUsage opts run delta isThinking false
  | toolUse call =>
      exact keeps_trans (process_keeps startUsage opts run [] false true)
        (tool_use_keeps startUsage _ call)

theorem finish_keeps (run : ClaudeRun Usage) :
    Keeps run.writer (run.finishBlocks opts startUsage).writer := by
  have flushed := process_keeps startUsage opts run [] false true
  unfold ClaudeRun.finishBlocks
  refine keeps_trans flushed (keeps_trans ?_ (close_keeps _))
  split_ifs
  · exact send_text_keeps startUsage opts _ _
  · exact List.prefix_rfl

end Keeping

section ClaudeResponders

variable {Credit : Type} [Zero Credit] (options : HandlerOptions Credit) (claude : ClaudeOptions)

def startClaudeStream (messageStarted : Bool) (attempt : Attempt) : ClaudeStreamAnswer Credit :=
  ⟨.start messageStarted, startRaw, attempt.cacheUsage⟩

omit [Zero Credit] in
theorem claude_callbacks_run (callbacks : List (CallbackRun Credit))
    (answer : ClaudeStreamAnswer Credit) :
    (callbacks.foldl (ClaudeStreamAnswer.onCallback options claude) answer).run =
      (callbacks.filterMap streamEvent).foldl
        (ClaudeRun.onEvent (streamOptions options claude) (answer.startUsage options claude))
        answer.run := by
  induction callbacks generalizing answer with
  | nil => rfl
  | cons callback callbacks ih =>
      rw [List.foldl_cons, ih]
      have usage : (answer.onCallback options claude callback).startUsage options claude =
          answer.startUsage options claude := rfl
      rw [usage]
      cases event : streamEvent callback with
      | none =>
          rw [List.filterMap_cons_none event]
          unfold ClaudeStreamAnswer.onCallback ClaudeStreamAnswer.onEvent
          rw [event]
      | some event' =>
          rw [List.filterMap_cons_some event, List.foldl_cons]
          unfold ClaudeStreamAnswer.onCallback ClaudeStreamAnswer.onEvent
          rw [event]

omit [Zero Credit] in
theorem claude_callback_keeps (answer : ClaudeStreamAnswer Credit)
    (callback : CallbackRun Credit) :
    Keeps answer.run.writer (answer.onCallback options claude callback).run.writer := by
  unfold ClaudeStreamAnswer.onCallback ClaudeStreamAnswer.onEvent
  cases streamEvent callback with
  | none => exact List.prefix_rfl
  | some event => exact event_keeps _ (streamOptions options claude) answer.run event

/-- `handleClaudeStream` writes the content blocks as they come. -/
def claudeStreamResponder : Responder Credit (ClaudeStreamAnswer Credit) (SSE UsageFields) where
  start := startClaudeStream
  onCallback := ClaudeStreamAnswer.onCallback options claude
  sent := fun answer => answer.run.writer.sent
  started := fun answer => answer.run.writer.messageStarted
  bill := fun answer =>
    answer.raw.bill (answer.finalized options) (cacheTokensFromPromptCache answer.cacheUsage)
  succeed := ClaudeStreamAnswer.succeed options claude
  fail := ClaudeStreamAnswer.fail options claude
  unsent := fun _ _ => rfl
  callback_keeps := claude_callback_keeps options claude
  succeed_keeps := by
    intro answer
    have finished := finish_keeps (answer.startUsage options claude)
      (streamOptions options claude) answer.run
    have ensured := keeps_trans finished (ensure_keeps (answer.startUsage options claude) _)
    exact keeps_trans ensured (keeps_trans (keeps_send _ _) (keeps_send _ _))
  fail_keeps := by
    intro answer message
    have finished := finish_keeps (answer.startUsage options claude)
      (streamOptions options claude) answer.run
    exact keeps_trans finished (keeps_send _ _)
  silent := by
    intro attempt callbacks idle
    have run := claude_callbacks_run options claude callbacks (startClaudeStream false attempt)
    rw [run] at idle ⊢
    have running := callbacks_running (streamOptions options claude)
      ((startClaudeStream false attempt : ClaudeStreamAnswer Credit).startUsage options claude)
      (callbacks.filterMap streamEvent)
    exact unstarted_silent claude.thinkingFormat _ _ running.follows.reads idle

omit [Zero Credit] in
theorem non_stream_silent (callbacks : List (CallbackRun Credit))
    (answer : ClaudeNonStreamAnswer Credit) :
    (callbacks.foldl (ClaudeNonStreamAnswer.onCallback options) answer).sent = answer.sent := by
  induction callbacks generalizing answer with
  | nil => rfl
  | cons callback callbacks ih => exact ih (answer.onCallback options callback)

/-- `handleClaudeNonStream` sends one response at the end; what an attempt collected is dropped
when it fails. -/
def claudeNonStreamResponder :
    Responder Credit (ClaudeNonStreamAnswer Credit) ClaudeResponse where
  start := fun _ attempt => ⟨startRaw, [], attempt.cacheUsage, []⟩
  onCallback := ClaudeNonStreamAnswer.onCallback options
  sent := fun answer => answer.sent
  started := fun _ => false
  bill := fun answer =>
    answer.raw.bill (answer.finalized options) (cacheTokensFromPromptCache answer.cacheUsage)
  succeed := ClaudeNonStreamAnswer.succeed options claude
  fail := fun answer _ => answer
  unsent := fun _ _ => rfl
  callback_keeps := fun _ _ => List.prefix_rfl
  succeed_keeps := fun answer => List.prefix_append answer.sent _
  fail_keeps := fun _ _ => List.prefix_rfl
  silent := fun _ callbacks _ => non_stream_silent options callbacks _

end ClaudeResponders

section ChatResponder

variable {Credit : Type} [Zero Credit] (options : HandlerOptions Credit) (format : ThinkingFormat)

namespace ChatStreamAnswer

/-- What was sent stays sent, and an answer that has not started has sent nothing. -/
structure Follows (before after : ChatStreamAnswer Credit) : Prop where
  keeps : before.sent <+: after.sent
  silent : (before.responseStarted = false → before.sent = []) →
    after.responseStarted = false → after.sent = []

omit [Zero Credit] in
theorem follows_trans {first second third : ChatStreamAnswer Credit}
    (earlier : Follows first second) (later : Follows second third) : Follows first third where
  keeps := earlier.keeps.trans later.keeps
  silent := fun silent => later.silent (earlier.silent silent)

omit [Zero Credit] in
theorem same_follows (answer next : ChatStreamAnswer Credit)
    (started : next.responseStarted = answer.responseStarted) (sent : next.sent = answer.sent) :
    Follows answer next where
  keeps := by
    rw [sent]
  silent := by
    rw [started, sent]
    exact id

omit [Zero Credit] in
theorem chunks_follow (answer : ChatStreamAnswer Credit) (sends : List Send) :
    Follows answer (answer.sendChunks options format sends) where
  keeps := List.prefix_append answer.sent _
  silent := by
    intro silent idle
    obtain ⟨quiet, nothing⟩ := Bool.or_eq_false_iff.mp idle
    have none_ : sends.filterMap (sendChunk format options.thinking) = [] := by
      rw [Bool.not_eq_false'] at nothing
      exact List.isEmpty_iff.mp nothing
    change answer.sent ++ (sends.filterMap _).map ChatEvent.chunk = []
    rw [silent quiet, none_]
    rfl

omit [Zero Credit] in
theorem process_follows (answer : ChatStreamAnswer Credit) (text : Runes)
    (isThinking forceFlush : Bool) :
    Follows answer (answer.processText options format text isThinking forceFlush) := by
  have scanned : Follows answer { answer with
      scanner :=
        (answer.scanner.processText options.thinking text isThinking forceFlush).1 } :=
    same_follows answer _ rfl rfl
  exact follows_trans scanned (chunks_follow options format _ _)

omit [Zero Credit] in
theorem call_follows (answer : ChatStreamAnswer Credit) (call : ToolCall) :
    Follows answer (answer.sendToolCall call) where
  keeps := List.prefix_append answer.sent _
  silent := fun _ idle => absurd idle.symm Bool.false_ne_true

omit [Zero Credit] in
theorem event_follows (answer : ChatStreamAnswer Credit) (event : Option StreamEvent) :
    Follows answer (answer.onEvent options format event) := by
  unfold onEvent
  cases event with
  | none => exact same_follows answer answer rfl rfl
  | some event =>
      cases event with
      | text delta isThinking =>
          simp only
          split_ifs
          · exact same_follows answer answer rfl rfl
          · exact process_follows options format answer delta isThinking false
      | toolUse toolUse =>
          exact follows_trans (process_follows options format answer [] false true)
            (call_follows _ _)

omit [Zero Credit] in
theorem callback_follows (answer : ChatStreamAnswer Credit) (callback : CallbackRun Credit) :
    Follows answer (answer.onCallback options format callback) :=
  follows_trans (event_follows options format answer (streamEvent callback))
    (same_follows _ _ rfl rfl)

omit [Zero Credit] in
theorem finish_follows (answer : ChatStreamAnswer Credit) :
    Follows answer (answer.finish options format) := by
  have flushed := process_follows options format answer [] false true
  unfold finish
  simp only
  split_ifs
  · exact follows_trans flushed (chunks_follow options format _ _)
  · exact flushed

end ChatStreamAnswer

def startChatStream (attempt : Attempt) : ChatStreamAnswer Credit :=
  ⟨.start, [], startRaw, attempt.cacheDetails, false, []⟩

/-- `handleOpenAIStream` forgets with each attempt whether the answer has started. -/
def chatStreamResponder : Responder Credit (ChatStreamAnswer Credit) ChatEvent where
  start := fun _ attempt => startChatStream attempt
  onCallback := ChatStreamAnswer.onCallback options format
  sent := fun answer => answer.sent
  started := fun answer => answer.responseStarted
  bill := ChatStreamAnswer.bill options
  succeed := ChatStreamAnswer.succeed options format
  fail := ChatStreamAnswer.fail options format
  unsent := fun _ _ => rfl
  callback_keeps := fun answer callback =>
    (ChatStreamAnswer.callback_follows options format answer callback).keeps
  succeed_keeps := fun answer =>
    (ChatStreamAnswer.finish_follows options format answer).keeps.trans (List.prefix_append _ _)
  fail_keeps := fun answer _ =>
    (ChatStreamAnswer.finish_follows options format answer).keeps.trans (List.prefix_append _ _)
  silent := by
    intro attempt callbacks
    exact @List.foldlRecOn _ _
      (fun answer => answer.responseStarted = false → answer.sent = []) callbacks
      (ChatStreamAnswer.onCallback options format) (startChatStream attempt) (fun _ => rfl)
      (fun answer silent callback _ =>
        (ChatStreamAnswer.callback_follows options format answer callback).silent silent)

end ChatResponder

section Handlers

variable {Credit : Type} [CreditAmount Credit] (surroundings : Surroundings Credit)
  (request : HandledRequest Credit) (call : KiroPayload → Nat → Called Credit)
  (options : HandlerOptions Credit) (claude : ClaudeOptions) (format : ThinkingFormat)

def handleClaudeStream : RequestRun Credit (SSE UsageFields) :=
  handleRequest surroundings request (claudeStreamResponder options claude) call claudeErrors

/-- A response that is not streamed needs no flusher. -/
def handleClaudeNonStream : RequestRun Credit ClaudeResponse :=
  handleRequest surroundings { request with flushes := true }
    (claudeNonStreamResponder options claude) call claudeErrors

def handleOpenAIStream : RequestRun Credit ChatEvent :=
  handleRequest surroundings request (chatStreamResponder options format) call openAIErrors

end Handlers

end KiroProxy.RequestHandling
