import KiroProxy.JsonText
import KiroProxy.Proxy.ThinkingScanner

/-!
# The Claude event stream

The callbacks of `handleClaudeStream` in `proxy/handler.go`, which write the content blocks
of a message as server-sent events, and how the message ends.
-/

namespace KiroProxy.ClaudeStream

open GoStrings KiroTypes ThinkingScanner

set_option autoImplicit false

section Events

/-- Any other format than `think` and `reasoning_content` writes thinking blocks. -/
inductive ClaudeThinkingFormat where
  | think
  | reasoningContent
  | thinking
  deriving DecidableEq

structure ClaudeStreamOptions where
  thinking : Bool
  thinkingFormat : ClaudeThinkingFormat
  omitDisplay : Bool

inductive BlockType where
  | text
  | thinking
  | toolUse
  deriving DecidableEq

inductive ContentBlock where
  | text
  | thinking
  | toolUse (id name : GoString)

def ContentBlock.blockType : ContentBlock → BlockType
  | .text => .text
  | .thinking => .thinking
  | .toolUse _ _ => .toolUse

/-- A text delta comes with the call of `sendText` that wrote it. -/
inductive ContentDelta where
  | text (text : Runes) (send : Send)
  | thinking (thinking : Runes)
  | inputJSON (partialJSON : GoString)

def ContentDelta.blockType : ContentDelta → BlockType
  | .text _ _ => .text
  | .thinking _ => .thinking
  | .inputJSON _ => .toolUse

inductive SSE (Usage : Type) where
  | messageStart (usage : Usage)
  | contentBlockStart (index : Int) (block : ContentBlock)
  | contentBlockDelta (index : Int) (delta : ContentDelta)
  | contentBlockStop (index : Int)
  | messageDelta (stopReason : GoString) (usage : Usage)
  | messageStop
  | error (message : GoString)

end Events

section Writer

/-- The index is negative and the type missing while no block is open. -/
structure ClaudeWriter (Usage : Type) where
  messageStarted : Bool
  nextContentIndex : Int
  activeBlockIndex : Int
  activeBlockType : Option BlockType
  sent : List (SSE Usage)

namespace ClaudeWriter

variable {Usage : Type}

/-- The writer of an attempt on a response that may have started. -/
def start (messageStarted : Bool) : ClaudeWriter Usage where
  messageStarted := messageStarted
  nextContentIndex := 0
  activeBlockIndex := -1
  activeBlockType := none
  sent := []

def sendSSE (writer : ClaudeWriter Usage) (event : SSE Usage) : ClaudeWriter Usage :=
  { writer with sent := writer.sent ++ [event] }

variable (startUsage : Usage)

def ensureMessageStart (writer : ClaudeWriter Usage) : ClaudeWriter Usage :=
  if writer.messageStarted then writer
  else { writer.sendSSE (.messageStart startUsage) with messageStarted := true }

def closeActiveBlock (writer : ClaudeWriter Usage) : ClaudeWriter Usage :=
  if writer.activeBlockIndex < 0 then writer
  else { writer.sendSSE (.contentBlockStop writer.activeBlockIndex) with
    activeBlockIndex := -1
    activeBlockType := none }

/-- The block is text or thinking. -/
def startContentBlock (writer : ClaudeWriter Usage) (block : ContentBlock) :
    ClaudeWriter Usage :=
  if writer.activeBlockType = some block.blockType then writer
  else
    let writer := (writer.ensureMessageStart startUsage).closeActiveBlock
    { writer.sendSSE (.contentBlockStart writer.nextContentIndex block) with
      nextContentIndex := writer.nextContentIndex + 1
      activeBlockIndex := writer.nextContentIndex
      activeBlockType := some block.blockType }

def sendDelta (writer : ClaudeWriter Usage) (delta : ContentDelta) : ClaudeWriter Usage :=
  writer.sendSSE (.contentBlockDelta writer.activeBlockIndex delta)

def thinkText (send : Send) : Runes :=
  if send.thinkingState = 1 then "<think>".toList ++ send.text
  else if send.thinkingState = 2 then send.text
  else send.text ++ "</think>".toList

/-- A thinking block of the default format. -/
def sendThinking (omitDisplay : Bool) (writer : ClaudeWriter Usage) (send : Send) :
    ClaudeWriter Usage :=
  if omitDisplay then
    if send.thinkingState = 1 then writer.startContentBlock startUsage .thinking
    else if send.thinkingState = 3 then
      (if writer.activeBlockType ≠ some .thinking then
        writer.startContentBlock startUsage .thinking
      else writer).closeActiveBlock
    else writer
  else if send.thinkingState = 3 ∧ send.text = [] then
    if writer.activeBlockType = some .thinking then writer.closeActiveBlock else writer
  else
    let writer :=
      if send.text ≠ [] then
        (writer.startContentBlock startUsage .thinking).sendDelta (.thinking send.text)
      else writer
    if send.thinkingState = 3 ∧ writer.activeBlockType = some .thinking then
      writer.closeActiveBlock
    else writer

/-- A piece of a text block. -/
def sendTextDelta (writer : ClaudeWriter Usage) (text : Runes) (send : Send) :
    ClaudeWriter Usage :=
  if text = [] then writer
  else (writer.startContentBlock startUsage .text).sendDelta (.text text send)

def sendText (opts : ClaudeStreamOptions) (writer : ClaudeWriter Usage) (send : Send) :
    ClaudeWriter Usage :=
  if send.thinkingState = 0 then writer.sendTextDelta startUsage send.text send
  else if !opts.thinking then writer
  else
    match opts.thinkingFormat with
    | .think => writer.sendTextDelta startUsage (thinkText send) send
    | .reasoningContent => writer.sendTextDelta startUsage send.text send
    | .thinking => writer.sendThinking startUsage opts.omitDisplay send

/-- A tool call is a block of its own. -/
def sendToolUse (writer : ClaudeWriter Usage) (toolUse : KiroToolUse) : ClaudeWriter Usage :=
  let writer := (writer.ensureMessageStart startUsage).closeActiveBlock
  let idx := writer.nextContentIndex
  ((({ writer with nextContentIndex := idx + 1 }.sendSSE
    (.contentBlockStart idx (.toolUse toolUse.toolUseID toolUse.name))).sendSSE
      (.contentBlockDelta idx (.inputJSON (JsonText.marshal (.obj toolUse.input))))).sendSSE
        (.contentBlockStop idx))

end ClaudeWriter

end Writer

section Runs

structure ClaudeRun (Usage : Type) where
  scanner : StreamScanner
  writer : ClaudeWriter Usage
  toolUses : List KiroToolUse

namespace ClaudeRun

variable {Usage : Type}

/-- An attempt starts with nothing of the one before but what the client got. -/
def start (messageStarted : Bool) : ClaudeRun Usage := ⟨.start, .start messageStarted, []⟩

variable (opts : ClaudeStreamOptions) (startUsage : Usage)

def processClaudeText (run : ClaudeRun Usage) (text : Runes) (isThinking forceFlush : Bool) :
    ClaudeRun Usage :=
  let processed := run.scanner.processText opts.thinking text isThinking forceFlush
  { run with
    scanner := processed.1
    writer := processed.2.foldl (ClaudeWriter.sendText startUsage opts) run.writer }

/-- `OnText` and `OnToolUse`. -/
def onEvent (run : ClaudeRun Usage) : StreamEvent → ClaudeRun Usage
  | .text delta isThinking =>
      if delta = [] then run
      else run.processClaudeText opts startUsage delta isThinking false
  | .toolUse call =>
      let flushed := run.processClaudeText opts startUsage [] false true
      { flushed with
        toolUses := flushed.toolUses ++ [call]
        writer := flushed.writer.sendToolUse startUsage call }

/-- The held-back tail goes out before the message ends. -/
def finishBlocks (run : ClaudeRun Usage) : ClaudeRun Usage :=
  let flushed := run.processClaudeText opts startUsage [] false true
  let writer :=
    if flushed.scanner.eventThinkingOpen then
      flushed.writer.sendText startUsage opts ⟨[], 3⟩
    else flushed.writer
  { flushed with writer := writer.closeActiveBlock }

def succeed (run : ClaudeRun Usage) (stopReason : GoString) (usage : Usage) :
    ClaudeRun Usage :=
  let finished := run.finishBlocks opts startUsage
  { finished with
    writer := ((finished.writer.ensureMessageStart startUsage).sendSSE
      (.messageDelta stopReason usage)).sendSSE .messageStop }

/-- The client holds a part of the answer already. -/
def fail (run : ClaudeRun Usage) (message : GoString) : ClaudeRun Usage :=
  let finished := run.finishBlocks opts startUsage
  { finished with writer := finished.writer.sendSSE (.error message) }

def callbacks (messageStarted : Bool) (events : List StreamEvent) : ClaudeRun Usage :=
  events.foldl (onEvent opts startUsage) (start messageStarted)

end ClaudeRun

end Runs

end KiroProxy.ClaudeStream
