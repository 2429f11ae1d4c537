import KiroProxy.Foundation.Delimited
import KiroProxy.Proxy.KiroTypes

/-!
# The thinking scanner

The incremental split of `processClaudeText` and `processText` in `proxy/handler.go`,
which are the same text, and `extractThinkingFromContent` of `proxy/translator.go`. A
delta is a JSON string, so it is valid UTF-8 and is modelled by its runes.
-/

namespace KiroProxy.ThinkingScanner

open Foundation Foundation.Searching KiroTypes

set_option autoImplicit false

abbrev Runes := List Char

/-- `unicode.IsSpace`. -/
def isSpace (rune : Char) : Bool :=
  let code := rune.toNat
  (0x09 ≤ code && code ≤ 0x0D) || code = 0x20 || code = 0x85 || code = 0xA0 ||
    code = 0x1680 || (0x2000 ≤ code && code ≤ 0x200A) || code = 0x2028 || code = 0x2029 ||
    code = 0x202F || code = 0x205F || code = 0x3000

def trimSpace (text : Runes) : Runes := Delimited.trim isSpace text

def thinkingTags : Delimited.Delimiters Char where
  mark := '<'
  openRest := "thinking>".toList
  closeRest := "/thinking>".toList
  slash := '/'
  blank := isSpace
  openUnmarked := by decide
  closeUnmarked := by decide
  apart := by simp
  markSolid := by decide
  restSolid := by decide
  slashOpen := by decide
  slashClose := by decide

def thinkingOpenTag : Runes := thinkingTags.openTag

def thinkingCloseTag : Runes := thinkingTags.closeTag

example : thinkingCloseTag = "</thinking>".toList := by decide

inductive ThinkingStreamSource where
  | unknown
  | reasoningEvent
  | tagBlock
  deriving DecidableEq

def allowReasoningSource (source : ThinkingStreamSource) : Bool × ThinkingStreamSource :=
  if source = .tagBlock then (false, source)
  else (true, .reasoningEvent)

def allowTagSource (source : ThinkingStreamSource) : Bool × ThinkingStreamSource :=
  if source = .reasoningEvent then (false, source)
  else
    let source := if source = .unknown then .tagBlock else source
    (source = .tagBlock, source)

instance sendStates : NeZero (4 : Nat) := ⟨by decide⟩

/-- A call of `sendText` or `sendChunk`: state 0 is answer text, 1 the first piece of
reasoning, 2 a later one and 3 the last. -/
structure Send where
  text : Runes
  thinkingState : Fin 4
  deriving DecidableEq

structure StreamScanner where
  textBuffer : Runes
  inThinkingBlock : Bool
  dropTagThinking : Bool
  thinkingSource : ThinkingStreamSource
  thinkingStarted : Bool
  eventThinkingOpen : Bool
  deriving DecidableEq

namespace StreamScanner

def start : StreamScanner where
  textBuffer := []
  inThinkingBlock := false
  dropTagThinking := false
  thinkingSource := .unknown
  thinkingStarted := false
  eventThinkingOpen := false

def leaveBlock (scanner : StreamScanner) (textBuffer : Runes) : StreamScanner :=
  { scanner with
    textBuffer := textBuffer
    inThinkingBlock := false
    dropTagThinking := false
    thinkingStarted := false }

/-- The sends that end a block with its last text. -/
def lastSends (scanner : StreamScanner) (content : Runes) : List Send :=
  if scanner.dropTagThinking then []
  else if scanner.thinkingStarted then [⟨content, 3⟩]
  else [⟨content, 1⟩, ⟨[], 3⟩]

/-- One round of the loop outside a block, and whether another one follows. -/
def scanAnswer (forceFlush : Bool) (scanner : StreamScanner) :
    StreamScanner × List Send × Bool :=
  match indexOf thinkingOpenTag scanner.textBuffer with
  | some thinkingStart =>
      let allowed := allowTagSource scanner.thinkingSource
      ({ scanner with
          textBuffer := scanner.textBuffer.drop (thinkingStart + 10)
          inThinkingBlock := true
          dropTagThinking := !allowed.1
          thinkingSource := allowed.2
          thinkingStarted := false },
        if 0 < thinkingStart then [⟨scanner.textBuffer.take thinkingStart, 0⟩] else [],
        true)
  | none =>
      if forceFlush || 50 < scanner.textBuffer.length then
        let safeLen :=
          if forceFlush then scanner.textBuffer.length else scanner.textBuffer.length - 15
        if 0 < safeLen then
          ({ scanner with textBuffer := scanner.textBuffer.drop safeLen },
            [⟨scanner.textBuffer.take safeLen, 0⟩], false)
        else (scanner, [], false)
      else (scanner, [], false)

/-- One round of the loop in a block. -/
def scanThinking (forceFlush : Bool) (scanner : StreamScanner) :
    StreamScanner × List Send × Bool :=
  match indexOf thinkingCloseTag scanner.textBuffer with
  | some thinkingEnd =>
      (scanner.leaveBlock (scanner.textBuffer.drop (thinkingEnd + 11)),
        scanner.lastSends (scanner.textBuffer.take thinkingEnd), true)
  | none =>
      if forceFlush then
        if scanner.textBuffer ≠ [] then
          (scanner.leaveBlock [], scanner.lastSends scanner.textBuffer, false)
        else (scanner.leaveBlock scanner.textBuffer, [], false)
      else if 20 < scanner.textBuffer.length then
        let safeLen := scanner.textBuffer.length - 15
        let released := scanner.textBuffer.take safeLen
        let rest := scanner.textBuffer.drop safeLen
        if scanner.dropTagThinking then ({ scanner with textBuffer := rest }, [], false)
        else if scanner.thinkingStarted then
          ({ scanner with textBuffer := rest }, [⟨released, 2⟩], false)
        else
          ({ scanner with textBuffer := rest, thinkingStarted := true }, [⟨released, 1⟩], false)
      else (scanner, [], false)

def scanRound (forceFlush : Bool) (scanner : StreamScanner) : StreamScanner × List Send × Bool :=
  if scanner.inThinkingBlock then scanner.scanThinking forceFlush
  else scanner.scanAnswer forceFlush

/-- Every round but the last takes a tag out of the buffer, so its length bounds them. -/
def scanLoop (forceFlush : Bool) : Nat → StreamScanner → StreamScanner × List Send
  | 0, scanner => (scanner, [])
  | fuel + 1, scanner =>
      match scanner.scanRound forceFlush with
      | (scanner, sends, true) =>
          let rest := scanLoop forceFlush fuel scanner
          (rest.1, sends ++ rest.2)
      | (scanner, sends, false) => (scanner, sends)

def processText (thinking : Bool) (text : Runes) (isThinking forceFlush : Bool)
    (scanner : StreamScanner) : StreamScanner × List Send :=
  if isThinking && !thinking then (scanner, [])
  else if isThinking then
    let allowed := allowReasoningSource scanner.thinkingSource
    let scanner := { scanner with thinkingSource := allowed.2 }
    if !allowed.1 then (scanner, [])
    else if !scanner.thinkingStarted then
      ({ scanner with thinkingStarted := true, eventThinkingOpen := true }, [⟨text, 1⟩])
    else (scanner, [⟨text, 2⟩])
  else
    let ended : List Send := if scanner.eventThinkingOpen then [⟨[], 3⟩] else []
    let scanner :=
      if scanner.eventThinkingOpen then
        { scanner with eventThinkingOpen := false, thinkingStarted := false }
      else scanner
    let scanner := { scanner with textBuffer := scanner.textBuffer ++ text }
    let scanned := scanLoop forceFlush (scanner.textBuffer.length + 1) scanner
    (scanned.1, ended ++ scanned.2)

end StreamScanner

/-- What the upstream callback of a request sees: `OnText` and `OnToolUse`. -/
inductive StreamEvent where
  | text (delta : Runes) (isThinking : Bool)
  | toolUse (call : KiroToolUse)

structure StreamRun where
  scanner : StreamScanner
  sends : List Send
  toolUses : List KiroToolUse

namespace StreamRun

def start : StreamRun where
  scanner := .start
  sends := []
  toolUses := []

def process (thinking : Bool) (text : Runes) (isThinking forceFlush : Bool)
    (run : StreamRun) : StreamRun :=
  let processed := run.scanner.processText thinking text isThinking forceFlush
  { run with scanner := processed.1, sends := run.sends ++ processed.2 }

def onEvent (thinking : Bool) (run : StreamRun) : StreamEvent → StreamRun
  | .text delta isThinking =>
      if delta = [] then run else run.process thinking delta isThinking false
  | .toolUse call =>
      let flushed := run.process thinking [] false true
      { flushed with toolUses := flushed.toolUses ++ [call] }

/-- The flush and the end of an open reasoning event once the upstream has answered. -/
def finish (thinking : Bool) (run : StreamRun) : StreamRun :=
  let flushed := run.process thinking [] false true
  if flushed.scanner.eventThinkingOpen then
    { flushed with sends := flushed.sends ++ [⟨[], 3⟩] }
  else flushed

def stream (thinking : Bool) (events : List StreamEvent) : StreamRun :=
  (events.foldl (onEvent thinking) start).finish thinking

end StreamRun

/-- The text that the sends carry outside the reasoning. -/
def answerText (sends : List Send) : Runes :=
  sends.flatMap (fun send => if send.thinkingState = 0 then send.text else [])

/-- The reasoning that the sends carry, which is left out when thinking is off. -/
def reasoningText (thinking : Bool) (sends : List Send) : Runes :=
  sends.flatMap (fun send => if send.thinkingState ≠ 0 && thinking then send.text else [])

/-- The final buffers of the path without streaming. -/
structure Collected where
  content : Runes
  thinkingContent : Runes
  toolUses : List KiroToolUse

def Collected.onEvent (collected : Collected) : StreamEvent → Collected
  | .text delta true =>
      { collected with thinkingContent := collected.thinkingContent ++ delta }
  | .text delta false => { collected with content := collected.content ++ delta }
  | .toolUse call => { collected with toolUses := collected.toolUses ++ [call] }

def collect (events : List StreamEvent) : Collected :=
  events.foldl Collected.onEvent ⟨[], [], []⟩

/-- The loop takes 21 runes out of the text in each round, so its length bounds them. -/
def extractLoop : Nat → Runes → Runes → Runes × Runes
  | 0, result, reasoning => (result, reasoning)
  | fuel + 1, result, reasoning =>
      match indexOf thinkingOpenTag result with
      | none => (result, reasoning)
      | some start =>
          match indexOf thinkingCloseTag (result.drop start) with
          | none => (result, reasoning)
          | some length =>
              let stop := length + start
              let thinkingContent := (result.take stop).drop (start + 10)
              extractLoop fuel (result.take start ++ result.drop (stop + 11))
                (reasoning ++ thinkingContent)

def extractThinkingFromContent (content : Runes) : Runes × Runes :=
  let extracted := extractLoop content.length content []
  (trimSpace extracted.1, extracted.2)

end KiroProxy.ThinkingScanner
