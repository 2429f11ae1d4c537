import KiroProxy.Config.ApiKeys
import KiroProxy.Foundation.Words
import KiroProxy.Proxy.EventFrames
import KiroProxy.Proxy.ThinkingSplitter
import KiroProxy.Proxy.ToolMarkup
import KiroProxy.Proxy.ToolUseEvents

/-!
# The event stream parser

`parseEventStreamTracked` of `proxy/kiro.go` and `classifyStreamIntegrity` of
`proxy/stream_integrity.go`, and the counts that an event reports. How a number is read is a
parameter of the model, as the JSON decoder is, and so is the order in which Go visits a map.
-/

namespace KiroProxy.EventStream

open ApiKeys EventFrames
open Foundation.Delimited (Delimiters)
open Foundation.Emissions Foundation.Emissions.Emission GoStrings KiroTypes ThinkingSplitter
open ToolMarkup ToolUseEvents
open Foundation.Words (word)

set_option autoImplicit false

section Integrity

/-- What one upstream stream proved about its own completeness. -/
structure StreamTurnSignals where
  sawContent : Bool
  sawReasoning : Bool
  sawInlineThinking : Bool
  toolCount : Nat
  stopReason : GoString
  sawTrailer : Bool

variable (letters : Letters)

def normalizeStopReason (reason : GoString) : GoString := letters.toLower (trimSpace reason)

def mapClaudeStopReason (reason : GoString) (toolCount : Nat) : GoString :=
  if 0 < toolCount then lit "tool_use"
  else
    let reason := normalizeStopReason letters reason
    if reason ∈ [lit "max_tokens", lit "max_output_tokens", lit "length"] then lit "max_tokens"
    else if reason ∈ [lit "model_context_window_exceeded", lit "context_window_exceeded"] then
      lit "model_context_window_exceeded"
    else if reason ∈ [lit "refusal", lit "content_filter", lit "content_filtered",
        lit "guardrail_intervened"] then lit "refusal"
    else if reason = lit "stop_sequence" then lit "stop_sequence"
    else if reason = lit "pause_turn" then lit "pause_turn"
    else lit "end_turn"

def isToolUseStopReason (reason : GoString) : Bool :=
  let plain := (normalizeStopReason letters reason).filter fun byte =>
    !(byte == 0x5F || byte == 0x2D || byte == 0x20)
  decide (plain ∈ [lit "tooluse", lit "toolcalls", lit "toolcall"])

def isExplicitNonEndTurnStop (reason : GoString) : Bool :=
  mapClaudeStopReason letters reason 0 != lit "end_turn"

inductive IntegrityError where
  | emptyKiroStream
  | upstreamTruncatedResponse
  deriving DecidableEq

/-- A clean end of the body proves nothing. -/
def classifyStreamIntegrity (turn : StreamTurnSignals) (lenient : Bool) : Option IntegrityError :=
  if 0 < turn.toolCount then none
  else if isToolUseStopReason letters turn.stopReason then some .upstreamTruncatedResponse
  else if !turn.sawContent && !turn.sawReasoning && !turn.sawInlineThinking &&
      !isExplicitNonEndTurnStop letters turn.stopReason then some .emptyKiroStream
  else if trimSpace turn.stopReason ≠ [] then none
  else if turn.sawContent && turn.sawTrailer then none
  else if lenient && turn.sawContent && !turn.sawReasoning then none
  else some .upstreamTruncatedResponse

def stopReasonFields : List GoString :=
  [lit "stopReason", lit "stop_reason", lit "finishReason", lit "finish_reason"]

/-- The stop reason of the first envelope that has one. -/
def envelopeStopReason (event : JsonFields) : List GoString → GoString
  | [] => []
  | key :: keys =>
      match event.get key with
      | some (.obj nested) =>
          if firstStringField nested stopReasonFields ≠ [] then
            firstStringField nested stopReasonFields
          else envelopeStopReason event keys
      | _ => envelopeStopReason event keys

def eventStopReason (event : JsonFields) : GoString :=
  if firstStringField event stopReasonFields ≠ [] then firstStringField event stopReasonFields
  else envelopeStopReason event
    [lit "metadata", lit "metadataEvent", lit "assistantResponseEvent"]

end Integrity

section State

/-- Which of the callbacks are set, and the tools that leaked markup is rescued for. -/
structure KiroStreamCallback where
  onText : Bool
  onToolUse : Bool
  onComplete : Bool
  onCredits : Bool
  onContextUsage : Bool
  onStopReason : Bool
  onCacheUsage : Bool
  markupTools : DeclaredTools

/-- A callback that ran. -/
inductive CallbackRun (Credit : Type) where
  | text (text : GoString) (isThinking : Bool)
  | toolUse (toolUse : KiroToolUse)
  | stopReason (reason : GoString)
  | credits (credits : Credit)
  | contextUsage (percentage : Credit)
  | cacheUsage (read write : Int)
  | complete (inputTokens outputTokens : Int)

/-- How an event is read for numbers: the number of a JSON text as `int` and as an amount,
`strconv.Atoi`, and `int` of `strconv.ParseFloat`. A loop visits every key of a map once. -/
structure EventReports (Credit : Type) where
  letters : Letters
  whole : GoString → Int
  amount : GoString → Credit
  atoi : GoString → Option Int
  parseFloat : GoString → Option Int
  visits : JsonFields → List GoString
  visits_all : ∀ fields, (visits fields).Perm (fields.map Prod.fst)

inductive StreamError where
  | frame (error : FrameError)
  | undecodablePayload (eventType : GoString)
  | upstream (detail : GoString)
  | incompleteTool (error : IncompleteToolInput)
  | integrity (error : IntegrityError)

/-- `seen` counts the real tool calls by signature; `newIDs` is how many ids were made. -/
structure StreamState (Credit : Type) where
  inputTokens : Int
  outputTokens : Int
  cacheReadTokens : Int
  cacheWriteTokens : Int
  totalCredits : Credit
  contextUsagePercentages : List Credit
  turn : StreamTurnSignals
  pending : PendingToolUses
  inlineThinking : ThinkingTagSplitter UInt8
  markup : Option ToolMarkupFilter
  seen : GoString → Nat
  newIDs : Nat
  emitted : Bool

variable {Credit : Type} [CreditAmount Credit]

def startStream (tools : DeclaredTools) : StreamState Credit where
  inputTokens := 0
  outputTokens := 0
  cacheReadTokens := 0
  cacheWriteTokens := 0
  totalCredits := 0
  contextUsagePercentages := []
  turn := ⟨false, false, false, 0, [], false⟩
  pending := .empty
  inlineThinking := .new
  markup := newToolMarkupFilter tools
  seen := fun _ => 0
  newIDs := 0
  emitted := false

abbrev StreamRun (Credit : Type) := Emission (StreamState Credit) (CallbackRun Credit) StreamError

end State

section Reports

variable {Credit : Type} (reports : EventReports Credit)

/-- The first of the keys that holds a number. -/
def readTokenNumber (usage : JsonFields) (keys : List GoString) : Option Int :=
  keys.findSome? fun key =>
    match usage.get key with
    | some (.num text) => some (reports.whole text)
    | some (.str text) => (reports.atoi text).or (reports.parseFloat text)
    | _ => none

def usageMap (key : GoString) (child : Json) : List JsonFields :=
  match child with
  | .obj usage =>
      if reports.letters.toLower key ∈ [lit "usage", lit "tokenusage", lit "token_usage"] then
        [usage]
      else []
  | _ => []

mutual

/-- The usage maps at any depth, each in front of those inside it. -/
def collectUsageMaps : Json → List JsonFields
  | .obj fields =>
      let found := fieldUsageMaps fields
      (reports.visits fields).flatMap fun key => (found.lookup key).getD []
  | .arr items => itemUsageMaps items
  | _ => []

def itemUsageMaps : List Json → List JsonFields
  | [] => []
  | item :: items => collectUsageMaps item ++ itemUsageMaps items

def fieldUsageMaps : List (GoString × Json) → List (GoString × List JsonFields)
  | [] => []
  | (key, child) :: fields =>
      (key, usageMap reports key child ++ collectUsageMaps child) :: fieldUsageMaps fields

end

def outputTokenKeys : List GoString :=
  [lit "outputTokens", lit "completionTokens", lit "totalOutputTokens",
    lit "output_tokens", lit "completion_tokens", lit "total_output_tokens"]

def inputTokenKeys : List GoString :=
  [lit "inputTokens", lit "promptTokens", lit "totalInputTokens",
    lit "input_tokens", lit "prompt_tokens", lit "total_input_tokens"]

def uncachedTokenKeys : List GoString := [lit "uncachedInputTokens", lit "uncached_input_tokens"]

def cacheReadTokenKeys : List GoString := [lit "cacheReadInputTokens", lit "cache_read_input_tokens"]

def cacheWriteTokenKeys : List GoString :=
  [lit "cacheWriteInputTokens", lit "cache_write_input_tokens",
    lit "cacheCreationInputTokens", lit "cache_creation_input_tokens"]

def totalTokenKeys : List GoString := [lit "totalTokens", lit "total_tokens"]

/-- What one map makes of the input and output tokens. An input that is not given itself is the
sum of its cached and uncached parts, or what the total leaves. -/
def updateTokens (tokens : Int × Int) (usage : JsonFields) : Int × Int :=
  let outputTokens := (readTokenNumber reports usage outputTokenKeys).getD tokens.2
  match readTokenNumber reports usage inputTokenKeys with
  | some inputTokens => (inputTokens, outputTokens)
  | none =>
      let parts := word ((readTokenNumber reports usage uncachedTokenKeys).getD 0 +
        (readTokenNumber reports usage cacheReadTokenKeys).getD 0 +
          (readTokenNumber reports usage cacheWriteTokenKeys).getD 0)
      if 0 < parts then (parts, outputTokens)
      else
        match readTokenNumber reports usage totalTokenKeys with
        | some total =>
            if 0 < total && 0 < word (total - outputTokens) then
              (word (total - outputTokens), outputTokens)
            else (tokens.1, outputTokens)
        | none => (tokens.1, outputTokens)

def updateTokensFromEvent (event : JsonFields) (inputTokens outputTokens : Int) : Int × Int :=
  (event :: collectUsageMaps reports (.obj event)).foldl (updateTokens reports)
    (inputTokens, outputTokens)

def updateCacheTokens (tokens : Int × Int) (usage : JsonFields) : Int × Int :=
  ((readTokenNumber reports usage cacheReadTokenKeys).getD tokens.1,
    (readTokenNumber reports usage cacheWriteTokenKeys).getD tokens.2)

def updateCacheTokensFromEvent (event : JsonFields) (read write : Int) : Int × Int :=
  (event :: collectUsageMaps reports (.obj event)).foldl (updateCacheTokens reports) (read, write)

end Reports

section Callbacks

variable {Credit : Type} [CreditAmount Credit] (callback : KiroStreamCallback)

/-- The thinking tags of a text in bytes. -/
def thinkingByteTags : Delimiters UInt8 where
  mark := 0x3C
  openRest := lit "thinking>"
  closeRest := lit "/thinking>"
  slash := 0x2F
  blank := fun byte => byte == 0x20 || byte == 0x0A
  openUnmarked := by decide
  closeUnmarked := by decide
  apart := by
    intro left right same
    exact absurd (List.cons.inj same).1 (by decide)
  markSolid := by decide
  restSolid := by decide
  slashOpen := by decide
  slashClose := by decide

/-- `markAnswer` and `markInlineThinking`. -/
def markSplit (turn : StreamTurnSignals) (split : Split UInt8) : StreamTurnSignals :=
  if split.inBlock then { turn with sawInlineThinking := true }
  else if trimSpace split.text ≠ [] then { turn with sawContent := true }
  else turn

def markSplits (state : StreamState Credit)
    (splitter : ThinkingTagSplitter UInt8 × List (Split UInt8)) : StreamState Credit :=
  { state with inlineThinking := splitter.1, turn := splitter.2.foldl markSplit state.turn }

/-- `OnText`, where it is set. -/
def runOnText (state : StreamState Credit) (text : GoString) (isThinking : Bool) :
    StreamRun Credit :=
  if callback.onText then ⟨{ state with emitted := true }, [.text text isThinking], none⟩
  else done state

def emitAssistantText (state : StreamState Credit) (content : GoString) : StreamRun Credit :=
  if content = [] then done state
  else
    runOnText callback (markSplits state (state.inlineThinking.push thinkingByteTags content))
      content false

def toolUseSignature (toolUse : KiroToolUse) : GoString :=
  toolUse.name ++ [0x00] ++ JsonText.marshal (.obj toolUse.input)

/-- The tracked `OnToolUse`. -/
def runOnToolUse (state : StreamState Credit) (toolUse : KiroToolUse) : StreamRun Credit :=
  let state := { state with
    turn := { state.turn with toolCount := state.turn.toolCount + 1 }
    seen :=
      if state.markup.isSome then
        Function.update state.seen (toolUseSignature toolUse)
          (state.seen (toolUseSignature toolUse) + 1)
      else state.seen }
  if callback.onToolUse then ⟨{ state with emitted := true }, [.toolUse toolUse], none⟩
  else done state

/-- The calls that a step on the pending tool uses emits, and then its fault. -/
def runToolUses (state : StreamState Credit) (run : ToolUseRun PendingToolUses) :
    StreamRun Credit :=
  let called := emitAll (runOnToolUse callback) { state with pending := run.state } run.outputs
  ⟨called.state, called.outputs, run.fault.map StreamError.incompleteTool⟩

end Callbacks

section Frames

variable {Credit : Type} [CreditAmount Credit] (unmarshal : GoString → Option Json)
  (reports : EventReports Credit) (callback : KiroStreamCallback) (newID : Nat → GoString)

def isOutputEventType (eventType : GoString) : Bool :=
  decide (eventType ∈ [lit "assistantResponseEvent", lit "reasoningContentEvent",
    lit "toolUseEvent", lit "metadataEvent"])

/-- The event of a payload; none where it cannot be decoded. -/
def decodeEvent (payload : GoString) : Option JsonFields :=
  if payload = [] then some []
  else
    match unmarshal payload with
    | some (.obj event) => some event
    | some .null => some []
    | _ => none

def upstreamDetail (messageType : GoString) (headers : Headers) (event : JsonFields) : GoString :=
  let detail := firstStringField event [lit "message", lit "Message"]
  let kind :=
    if headers.get (lit ":exception-type") ≠ [] then headers.get (lit ":exception-type")
    else headers.get (lit ":error-code")
  if kind ≠ [] && detail ≠ [] then kind ++ lit ": " ++ detail
  else if kind ≠ [] then kind
  else if detail = [] then messageType
  else detail

/-- The counters and the stop reason that any event may carry. -/
def readReports (state : StreamState Credit) (event : JsonFields) : StreamState Credit :=
  let tokens := updateTokensFromEvent reports event state.inputTokens state.outputTokens
  let cacheTokens :=
    updateCacheTokensFromEvent reports event state.cacheReadTokens state.cacheWriteTokens
  { state with
    inputTokens := tokens.1
    outputTokens := tokens.2
    cacheReadTokens := cacheTokens.1
    cacheWriteTokens := cacheTokens.2
    turn :=
      if eventStopReason event ≠ [] then { state.turn with stopReason := eventStopReason event }
      else state.turn }

def stringField (event : JsonFields) (key : GoString) : GoString :=
  match event.get key with
  | some (.str text) => text
  | _ => []

def assistantResponseEvent (state : StreamState Credit) (event : JsonFields) : StreamRun Credit :=
  let content := stringField event (lit "content")
  if content = [] then done state
  else
    let pushed := ToolMarkupFilter.push unmarshal state.markup content
    emitAssistantText callback { state with markup := pushed.1 } pushed.2

def reasoningContentEvent (state : StreamState Credit) (event : JsonFields) : StreamRun Credit :=
  let text := stringField event (lit "text")
  if text = [] then done state
  else runOnText callback { state with turn := { state.turn with sawReasoning := true } } text true

def toolUseEvent (state : StreamState Credit) (event : JsonFields) : StreamRun Credit :=
  runToolUses callback { state with newIDs := state.newIDs + 1 }
    (handleToolUseEvent unmarshal (newID state.newIDs) state.pending event)

def meteringEvent (state : StreamState Credit) (event : JsonFields) : StreamState Credit :=
  { state with
    turn := { state.turn with sawTrailer := true }
    totalCredits :=
      match event.get (lit "usage") with
      | some (.num usage) => state.totalCredits + reports.amount usage
      | _ => state.totalCredits }

def contextUsageEvent (state : StreamState Credit) (event : JsonFields) : StreamState Credit :=
  { state with
    contextUsagePercentages :=
      match event.get (lit "contextUsagePercentage") with
      | some (.num percentage) => state.contextUsagePercentages ++ [reports.amount percentage]
      | _ => state.contextUsagePercentages }

def handleEvent (state : StreamState Credit) (eventType : GoString) (event : JsonFields) :
    StreamRun Credit :=
  if eventType = lit "assistantResponseEvent" then
    assistantResponseEvent unmarshal callback state event
  else if eventType = lit "reasoningContentEvent" then reasoningContentEvent callback state event
  else if eventType = lit "toolUseEvent" then toolUseEvent unmarshal callback newID state event
  else if eventType = lit "meteringEvent" then done (meteringEvent reports state event)
  else if eventType = lit "contextUsageEvent" then done (contextUsageEvent reports state event)
  else done state

def handleFrame (state : StreamState Credit) (frame : EventFrame) : StreamRun Credit :=
  let eventType := frame.headers.get (lit ":event-type")
  let messageType := frame.headers.get (lit ":message-type")
  match decodeEvent unmarshal frame.payload with
  | none =>
      -- Other frames than output frames are advisory.
      if isOutputEventType eventType then ⟨state, [], some (.undecodablePayload eventType)⟩
      else done state
  | some event =>
      if messageType = lit "error" ∨ messageType = lit "exception" then
        ⟨state, [], some (.upstream (upstreamDetail messageType frame.headers event))⟩
      else handleEvent unmarshal reports callback newID (readReports reports state event) eventType event

/-- The loop over the frames of the body. -/
def readFrames : Nat → Body → StreamState Credit → StreamRun Credit
  | 0, _, state => done state
  | fuel + 1, body, state =>
      match readFrame body with
      | .ended => done state
      | .failed error => ⟨state, [], some (.frame error)⟩
      | .frame frame rest =>
          (handleFrame unmarshal reports callback newID state frame).andThen
            (readFrames fuel rest)

end Frames

section StreamEnd

variable {Credit : Type} [CreditAmount Credit] (letters : Letters)
  (unmarshal : GoString → Option Json) (reports : EventReports Credit)
  (callback : KiroStreamCallback) (newID : Nat → GoString) (lenient : Bool)

/-- Tools that never received a stop frame are flushed in arrival order. -/
def flushPending (state : StreamState Credit) : StreamRun Credit :=
  runToolUses callback { state with newIDs := state.newIDs + 1 }
    (flushAll unmarshal (newID state.newIDs) state.pending)

/-- The rescued calls but for the copies of real calls. -/
def rescuedCalls : (GoString → Nat) → List KiroToolUse → Nat → List KiroToolUse
  | _, [], _ => []
  | realCalls, toolUse :: rescued, ids =>
      let signature := toolUseSignature toolUse
      if 0 < realCalls signature then
        rescuedCalls (Function.update realCalls signature (realCalls signature - 1)) rescued ids
      else { toolUse with toolUseID := newID ids } :: rescuedCalls realCalls rescued (ids + 1)

def emitRescued (state : StreamState Credit) : StreamRun Credit :=
  match state.markup with
  | none => done state
  | some filter =>
      let calls := rescuedCalls newID state.seen filter.rescued state.newIDs
      emitAll (runOnToolUse callback)
        { state with
          markup := some { filter with rescued := [] }
          newIDs := state.newIDs + calls.length } calls

def flushText (state : StreamState Credit) : StreamRun Credit :=
  let flushed := ToolMarkupFilter.flush unmarshal state.markup
  emitAssistantText callback { state with markup := flushed.1 } flushed.2

/-- What is reported of a complete stream. -/
def completeStream (state : StreamState Credit) : List (CallbackRun Credit) :=
  (if callback.onStopReason then [.stopReason state.turn.stopReason] else []) ++
    (if callback.onCredits && decide (0 < state.totalCredits) then [.credits state.totalCredits]
      else []) ++
    (if callback.onContextUsage then state.contextUsagePercentages.map .contextUsage else []) ++
    (if callback.onCacheUsage && decide (0 < state.cacheReadTokens + state.cacheWriteTokens) then
      [.cacheUsage state.cacheReadTokens state.cacheWriteTokens] else []) ++
    (if callback.onComplete then [.complete state.inputTokens state.outputTokens] else [])

def finishStream (state : StreamState Credit) : StreamRun Credit :=
  let state := markSplits state (state.inlineThinking.flush thinkingByteTags)
  match classifyStreamIntegrity letters state.turn lenient with
  | some error => ⟨state, [], some (.integrity error)⟩
  | none => ⟨state, completeStream callback state, none⟩

/-- The frames and the tools still pending: all that comes before text is flushed. -/
def readStream (body : Body) : StreamRun Credit :=
  (readFrames unmarshal reports callback newID (body.data.length + 1) body
    (startStream callback.markupTools)).andThen (flushPending unmarshal callback newID)

def endStream (state : StreamState Credit) : StreamRun Credit :=
  ((flushText unmarshal callback state).andThen (emitRescued callback newID)).andThen
    (finishStream letters callback lenient)

/-- The deferred step: text held back as markup is part of the answer that a client saw. -/
def handBack (run : StreamRun Credit) : StreamRun Credit :=
  if run.fault.isSome && run.state.emitted then
    let abandoned := ToolMarkupFilter.abandon run.state.markup
    let shown := emitAssistantText callback { run.state with markup := abandoned.1 } abandoned.2
    ⟨shown.state, run.outputs ++ shown.outputs, run.fault⟩
  else run

/-- The outputs, whether an output callback ran, and the error. -/
def parseEventStreamTracked (body : Body) : StreamRun Credit :=
  handBack callback ((readStream unmarshal reports callback newID body).andThen
    (endStream letters unmarshal callback newID lenient))

end StreamEnd

end KiroProxy.EventStream
