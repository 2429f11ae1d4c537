import KiroProxy.Proxy.Responders

/-!
# The Responses event stream

The item state and the closures of the Responses stream handler in `proxy/responses_api.go`,
which write the output items of a response as server-sent events, and the output items of
`proxy/responses_tools.go`.
-/

namespace KiroProxy.Responses

open ClaudeUsage EventStream GoStrings KiroTypes RequestHandling
open ThinkingScanner (ThinkingStreamSource allowReasoningSource allowTagSource)
open ThinkingSplitter TokenEstimator

set_option autoImplicit false

section Items

inductive ItemKind where
  | message
  | reasoning
  deriving DecidableEq

/-- What a tool item holds; a search has its arguments as an object. -/
inductive ToolContent where
  | arguments (arguments : GoString)
  | input (input : GoString)
  | search (arguments : JsonFields)

/-- The `id` is the `call_id` as well. -/
structure ToolOutputItem where
  id : GoString
  name : Option GoString
  namespace_ : GoString
  content : ToolContent

inductive OutputItem where
  | text (kind : ItemKind) (id text : GoString)
  | tool (item : ToolOutputItem)

/-- An item as it is announced, in progress and without its text. -/
inductive AddedItem where
  | text (kind : ItemKind) (id : GoString)
  | tool (item : ToolOutputItem)

structure ResponsesToolIdentity where
  type : GoString
  name : GoString
  namespace_ : GoString

/-- `buildResponsesToolOutputItem`. -/
def buildResponsesToolOutputItem (toolUse : KiroToolUse) : ToolOutputItem where
  id := toolUse.toolUseID
  name := some toolUse.name
  namespace_ := []
  content := .arguments (JsonText.marshal (.obj toolUse.input))

def buildPreparedResponsesToolOutputItem
    (toolIdentities : List (GoString × ResponsesToolIdentity)) (toolUse : KiroToolUse) :
    ToolOutputItem :=
  let item := buildResponsesToolOutputItem toolUse
  match toolIdentities.lookup toolUse.name with
  | none => item
  | some identity =>
      if identity.type = lit "tool_search" then
        { item with name := none, content := .search toolUse.input }
      else
        { item with
          name := some identity.name
          namespace_ := identity.namespace_
          content :=
            if identity.type = lit "custom" then
              .input
                (match JsonFields.get toolUse.input (lit "input") with
                | some (.str input) => input
                | _ => [])
            else item.content }

/-- The text that comes as one delta. -/
def ToolContent.deltaText : ToolContent → Option GoString
  | .arguments text => some text
  | .input text => some text
  | .search _ => none

def ToolContent.withText (content : ToolContent) (text : GoString) : ToolContent :=
  match content with
  | .arguments _ => .arguments text
  | .input _ => .input text
  | .search fields => .search fields

def ToolOutputItem.withText (item : ToolOutputItem) (text : GoString) : ToolOutputItem :=
  { item with content := item.content.withText text }

end Items

section Events

/-- The status and the reason that a response is incomplete for. -/
structure Completion where
  status : GoString
  incompleteReason : Option GoString

structure ResponseObject where
  completion : Completion
  output : List (Option OutputItem)
  outputText : GoString
  inputTokens : Int
  outputTokens : Int
  cacheDetails : Option OpenAITokenDetails

/-- The events by what they are about: `partAdded`, `delta`, `textDone` and `partDone` have a
name for each kind of item. -/
inductive ResponsesEvent where
  | created
  | outputItemAdded (outputIndex : Int) (item : AddedItem)
  | partAdded (itemID : GoString) (outputIndex : Int)
  | delta (itemID : GoString) (outputIndex : Int) (delta : GoString)
  | textDone (itemID : GoString) (outputIndex : Int) (text : GoString)
  | partDone (itemID : GoString) (outputIndex : Int) (text : GoString)
  | outputItemDone (outputIndex : Int) (item : Option OutputItem)
  | completed (response : ResponseObject)
  | failed (message : GoString)

end Events

section Stream

/-- The state of one kind of text: of all its items, and of the last one. The index is negative
before there is one. -/
structure TextTrack where
  saw : Bool
  builder : GoString
  itemID : GoString
  added : Bool
  done : Bool
  outputIndex : Int
  text : GoString

structure ResponsesStream (Credit : Type) where
  splitter : ThinkingTagSplitter UInt8
  thinkingSource : ThinkingStreamSource
  message : TextTrack
  reasoning : TextTrack
  toolUses : List KiroToolUse
  started : Bool
  nextOutputIndex : Int
  outputItems : List (Option OutputItem)
  ids : Nat
  counters : UsageCounters Credit
  cacheDetails : Int → Option OpenAITokenDetails
  sent : List ResponsesEvent

variable {Credit : Type}

def ItemKind.other : ItemKind → ItemKind
  | .message => .reasoning
  | .reasoning => .message

def ItemKind.idPrefix : ItemKind → GoString
  | .message => lit "msg_"
  | .reasoning => lit "rs_"

/-- The whitespace that is trimmed in front of a text. -/
def leadingSpace : List UInt8 := [0x20, 0x09, 0x0D, 0x0A]

/-- What the stream is given: `newID` is the nth id that is made. -/
structure ResponsesOptions (Credit : Type) extends HandlerOptions Credit where
  newID : Nat → GoString
  toolIdentities : List (GoString × ResponsesToolIdentity)

variable (options : ResponsesOptions Credit)

namespace ResponsesStream

def startTrack (id : GoString) : TextTrack := ⟨false, [], id, false, false, -1, []⟩

def start [Zero Credit] (attempt : Attempt) : ResponsesStream Credit where
  splitter := .new
  thinkingSource := .unknown
  message := startTrack (ItemKind.message.idPrefix ++ options.newID 0)
  reasoning := startTrack (ItemKind.reasoning.idPrefix ++ options.newID 1)
  toolUses := []
  started := false
  nextOutputIndex := 0
  outputItems := []
  ids := 2
  counters := startCounters
  cacheDetails := attempt.cacheDetails
  sent := []

variable (stream : ResponsesStream Credit)

def track : ItemKind → TextTrack
  | .message => stream.message
  | .reasoning => stream.reasoning

def withTrack (kind : ItemKind) (track : TextTrack) : ResponsesStream Credit :=
  match kind with
  | .message => { stream with message := track }
  | .reasoning => { stream with reasoning := track }

def send (events : List ResponsesEvent) : ResponsesStream Credit :=
  { stream with sent := stream.sent ++ events }

/-- Items that are not there yet are holes until they are written. -/
def reserveOutputItem (index : Int) (item : OutputItem) : ResponsesStream Credit :=
  let padded := stream.outputItems ++
    List.replicate (index + 1 - stream.outputItems.length).toNat none
  { stream with outputItems := padded.set index.toNat (some item) }

def outputItem (index : Int) : Option OutputItem := stream.outputItems[index.toNat]?.join

def ensureStarted : ResponsesStream Credit :=
  if stream.started then stream else { stream.send [.created] with started := true }

/-- A closed item is not opened again: what comes after it is an item of its own. -/
def freshTrack (kind : ItemKind) : ResponsesStream Credit :=
  let track := stream.track kind
  if track.done then
    { stream.withTrack kind
        { track with
          itemID := kind.idPrefix ++ options.newID stream.ids
          text := []
          done := false } with
      ids := stream.ids + 1 }
  else stream

def announce (kind : ItemKind) : ResponsesStream Credit :=
  let track := stream.track kind
  let index := stream.nextOutputIndex
  ({ (stream.withTrack kind { track with outputIndex := index, added := true }) with
      nextOutputIndex := index + 1 }.reserveOutputItem index (.text kind track.itemID [])).send
    [.outputItemAdded index (.text kind track.itemID), .partAdded track.itemID index]

def ensureAdded (kind : ItemKind) : ResponsesStream Credit :=
  let stream := stream.ensureStarted
  let track := stream.track kind
  if track.added && !track.done then stream else (stream.freshTrack options kind).announce kind

def ensureReasoningAdded : ResponsesStream Credit := stream.ensureAdded options .reasoning

def finish (kind : ItemKind) : ResponsesStream Credit :=
  let track := stream.track kind
  if !track.added || track.done then stream
  else
    let written := (stream.withTrack kind { track with done := true }).reserveOutputItem
      track.outputIndex (.text kind track.itemID track.text)
    written.send
      [.textDone track.itemID track.outputIndex track.text,
        .partDone track.itemID track.outputIndex track.text,
        .outputItemDone track.outputIndex (written.outputItem track.outputIndex)]

def finishReasoning : ResponsesStream Credit := stream.finish .reasoning

def finishMessage : ResponsesStream Credit := stream.finish .message

/-- A delta of the open item. -/
def writeDelta (kind : ItemKind) (text : GoString) : ResponsesStream Credit :=
  let track := stream.track kind
  (stream.withTrack kind { track with text := track.text ++ text }).send
    [.delta track.itemID track.outputIndex text]

/-- Only one item is open at a time, and a kind of text begins without whitespace. -/
def emitDelta (kind : ItemKind) (text : GoString) : ResponsesStream Credit :=
  let track := stream.track kind
  let text := if track.saw then text else trimLeft leadingSpace text
  if !track.saw && text == [] then stream
  else
    (((stream.withTrack kind { track with saw := true, builder := track.builder ++ text }).finish
      kind.other).ensureAdded options kind).writeDelta kind text

def emitReasoningDelta (text : GoString) : ResponsesStream Credit :=
  stream.emitDelta options .reasoning text

def emitTextDelta (text : GoString) : ResponsesStream Credit :=
  stream.emitDelta options .message text

/-- Thinking in tags is dropped when it was not asked for, and yields to a reasoning stream. -/
def emitTagThinking (text : GoString) : ResponsesStream Credit :=
  if !options.thinking then stream
  else
    let allowed := allowTagSource stream.thinkingSource
    let stream := { stream with thinkingSource := allowed.2 }
    if allowed.1 then stream.emitReasoningDelta options text else stream

def emitSplits (splits : List (Split UInt8)) : ResponsesStream Credit :=
  splits.foldl (fun stream split =>
    if split.inBlock then stream.emitTagThinking options split.text
    else stream.emitTextDelta options split.text) stream

def pushText (text : GoString) : ResponsesStream Credit :=
  let pushed := stream.splitter.push thinkingByteTags text
  { stream with splitter := pushed.1 }.emitSplits options pushed.2

def flushText : ResponsesStream Credit :=
  let flushed := stream.splitter.flush thinkingByteTags
  { stream with splitter := flushed.1 }.emitSplits options flushed.2

def onText (text : GoString) (isThinking : Bool) : ResponsesStream Credit :=
  if text = [] then stream
  else if isThinking then
    if !options.thinking then stream
    else
      let allowed := allowReasoningSource stream.thinkingSource
      let stream := { stream with thinkingSource := allowed.2 }
      if allowed.1 then stream.emitReasoningDelta options text else stream
  else stream.pushText options text

/-- A tool item is announced, filled and closed at once. -/
def toolEvents (index : Int) (item : ToolOutputItem) : List ResponsesEvent :=
  .outputItemAdded index (.tool (item.withText [])) ::
    (match item.content.deltaText with
    | some text => [.delta item.id index text, .textDone item.id index text]
    | none => []) ++ [.outputItemDone index (some (.tool item))]

def sendTool (toolUse : KiroToolUse) : ResponsesStream Credit :=
  let item := buildPreparedResponsesToolOutputItem options.toolIdentities toolUse
  let index := stream.nextOutputIndex
  ({ stream with
      toolUses := stream.toolUses ++ [toolUse]
      nextOutputIndex := index + 1 }.reserveOutputItem index (.tool item)).send
    (toolEvents index item)

def onToolUse (toolUse : KiroToolUse) : ResponsesStream Credit :=
  ((((stream.ensureStarted).flushText options).finishReasoning).finishMessage).sendTool options
    toolUse

def onCallback (callback : CallbackRun Credit) : ResponsesStream Credit :=
  let stream := { stream with counters := onReport options.contextTokens stream.counters callback }
  match callback with
  | .text text isThinking => stream.onText options text isThinking
  | .toolUse toolUse => stream.onToolUse options toolUse
  | _ => stream

/-- The reasoning of a request that asked for none is left out. -/
def reasoningContent : GoString := if options.thinking then stream.reasoning.builder else []

def finalized : Int × Int :=
  finalizeUsageTokens stream.counters.inputTokens stream.counters.outputTokens
    options.estimatedInputTokens stream.counters.realInputTokens
    (estimateClaudeOutputTokens options.weigh stream.message.builder
      (stream.reasoningContent options) stream.toolUses)

/-- Reasoning that was never streamed is replayed as one delta. -/
def replayReasoning : ResponsesStream Credit :=
  let reasoningContent := stream.reasoningContent options
  if reasoningContent ≠ [] && !stream.reasoning.added then
    ((stream.finishMessage).ensureReasoningAdded options).writeDelta .reasoning reasoningContent
  else stream

/-- A response without text and tools has an empty message that was not announced. -/
def fillOutput : ResponsesStream Credit :=
  if !stream.message.added && stream.toolUses.isEmpty then
    { stream.reserveOutputItem stream.nextOutputIndex
        (.text .message stream.message.itemID stream.message.builder) with
      nextOutputIndex := stream.nextOutputIndex + 1 }
  else stream

def mapResponsesCompletion (reason : GoString) : Completion :=
  let reason := normalizeStopReason options.letters reason
  if reason ∈ outputCapReasons ++ contextWindowReasons then
    ⟨lit "incomplete", some (lit "max_output_tokens")⟩
  else if reason ∈ refusalReasons then ⟨lit "incomplete", some (lit "content_filter")⟩
  else ⟨lit "completed", none⟩

/-- The terminal object, given the stream that was flushed before the tokens were counted. -/
def buildResponse (flushed : ResponsesStream Credit) : ResponseObject :=
  let finalized := flushed.finalized options
  let stopReason := flushed.counters.upstreamStopReason
  { completion := mapResponsesCompletion options
      (if flushed.toolUses.isEmpty then
        inferMaxTokensStop stopReason finalized.2 options.maxTokens
      else stopReason)
    output := stream.outputItems
    outputText := flushed.message.builder
    inputTokens := finalized.1
    outputTokens := finalized.2
    cacheDetails := flushed.cacheDetails finalized.1 }

def succeed : ResponsesStream Credit :=
  let flushed := (stream.ensureStarted).flushText options
  let closed := (((flushed.replayReasoning options).finishReasoning).finishMessage).fillOutput
  closed.send [.completed (closed.buildResponse options flushed)]

/-- A failed response does not close its items. -/
def fail (message : GoString) : ResponsesStream Credit :=
  (stream.flushText options).send [.failed message]

end ResponsesStream

end Stream

end KiroProxy.Responses
