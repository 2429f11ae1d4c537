import KiroProxy.Proxy.KiroTypes

/-!
# The tool-markup filter

A transcription of `proxy/tool_markup_rescue.go`. Kiro sometimes streams a tool
call as markup in the answer text. The filter holds text back only while a tag
prefix is pending, turns complete invoke blocks for declared tools into calls, and
passes everything else through. The JSON decoder of parameter values is a
parameter of the model.
-/

namespace KiroProxy.ToolMarkup

open GoStrings Foundation.Searching KiroTypes

set_option autoImplicit false

def maxMarkupNameLen : Nat := 200

def thinkingOpenTag : GoString := lit "<thinking>"

def thinkingCloseTag : GoString := lit "</thinking>"

structure ToolMarkupTags where
  callsOpen : GoString
  callsClose : GoString
  invokeOpen : GoString
  invokeClose : GoString
  paramOpen : GoString
  paramClose : GoString
  deriving DecidableEq

def newToolMarkupTags (ns : GoString) : ToolMarkupTags where
  callsOpen := lit "<" ++ ns ++ lit "function_calls>"
  callsClose := lit "</" ++ ns ++ lit "function_calls>"
  invokeOpen := lit "<" ++ ns ++ lit "invoke name=\""
  invokeClose := lit "</" ++ ns ++ lit "invoke>"
  paramOpen := lit "<" ++ ns ++ lit "parameter name=\""
  paramClose := lit "</" ++ ns ++ lit "parameter>"

/-- The tags of a dialect are not empty, and the openings are not parts of the other
tags they are tried beside. -/
structure TagsApart (tags : ToolMarkupTags) : Prop where
  callsOpen : tags.callsOpen ≠ []
  callsClose : tags.callsClose ≠ []
  invokeOpen : tags.invokeOpen ≠ []
  invokeClose : tags.invokeClose ≠ []
  paramOpen : tags.paramOpen ≠ []
  paramClose : tags.paramClose ≠ []
  paramApart : tags.paramOpen.isPrefixOf tags.invokeClose = false
  callsCloseApart : tags.invokeOpen.isPrefixOf tags.callsClose = false
  callsOpenApart : tags.invokeOpen.isPrefixOf tags.callsOpen = false
  callsThinkingApart : tags.callsOpen.isPrefixOf thinkingOpenTag = false
  invokeThinkingApart : tags.invokeOpen.isPrefixOf thinkingOpenTag = false

abbrev Dialect := { tags : ToolMarkupTags // TagsApart tags }

/-- Leaks with and without the namespace prefix of the native format. -/
def toolMarkupDialects : List Dialect :=
  [⟨newToolMarkupTags [], by constructor <;> decide⟩,
    ⟨newToolMarkupTags (lit "antml" ++ lit ":"), by constructor <;> decide⟩]

/-- The declared tools with the JSON schema types of their parameters. -/
abbrev ParamTypes := List (GoString × GoString)

abbrev DeclaredTools := List (GoString × ParamTypes)

section Parsing

inductive NameParse where
  | invalid
  | needMore
  | complete (name : GoString) (stop : Nat)

inductive MarkupParse where
  | invalid
  | needMore
  | complete (consumed : Nat) (call : KiroToolUse)

def trimMarkupSpace (text : GoString) : GoString :=
  trimLeft [0x20, 0x09, 0x0D, 0x0A] text

/-- The text could still grow into the tag. -/
def isPartialTag (text tag : GoString) : Bool :=
  decide (text.length < tag.length) && text.isPrefixOf tag

def nameBreaks : List UInt8 := [0x3C, 0x3E, 0x22, 0x0A]

def trimQuote (text : GoString) : GoString :=
  if text.getLast? = some 0x22 then text.dropLast else text

/-- The quoted name that starts at the index and ends with `">`. -/
def markupName (text : GoString) (start : Nat) : NameParse :=
  let rest := text.drop start
  match indexOf (lit "\">") rest with
  | none =>
      let pending := trimQuote rest
      if maxMarkupNameLen < pending.length ∨ containsAny nameBreaks pending then .invalid
      else .needMore
  | some stop =>
      let name := rest.take stop
      if name = [] ∨ maxMarkupNameLen < name.length ∨ containsAny nameBreaks name then .invalid
      else .complete name (start + stop + 2)

variable (unmarshal : GoString → Option Json)

/-- Strings are written verbatim and every other type as JSON. -/
def coerceMarkupParam (raw schemaType : GoString) : Json :=
  if schemaType = lit "string" then .str raw
  else match unmarshal (trimSpace raw) with
    | some (.str _) => .str raw
    | some value => value
    | none => .str raw

/-- The loop over the parameters of an invoke block, `consumed` bytes into it. -/
def parseParams (tags : ToolMarkupTags) (name : GoString) (paramTypes : ParamTypes) :
    Nat → GoString → Nat → JsonFields → MarkupParse
  | 0, _, _, _ => .invalid
  | fuel + 1, text, consumed, input =>
      let rest := trimMarkupSpace text
      let pos := consumed + (text.length - rest.length)
      if tags.invokeClose.isPrefixOf rest then
        .complete (pos + tags.invokeClose.length) ⟨[], name, input⟩
      else if tags.paramOpen.isPrefixOf rest then
        match markupName rest tags.paramOpen.length with
        | .invalid => .invalid
        | .needMore => .needMore
        | .complete key valueStart =>
            match indexOf tags.paramClose (rest.drop valueStart) with
            | none => .needMore
            | some stop =>
                let raw := (rest.drop valueStart).take stop
                let size := valueStart + stop + tags.paramClose.length
                parseParams tags name paramTypes fuel (rest.drop size) (pos + size)
                  (input.set key
                    (coerceMarkupParam unmarshal raw ((paramTypes.lookup key).getD [])))
      else if isPartialTag rest tags.invokeClose || isPartialTag rest tags.paramOpen then
        .needMore
      else .invalid

def parseInvoke (tools : DeclaredTools) (text : GoString) (tags : ToolMarkupTags) :
    MarkupParse :=
  if !tags.invokeOpen.isPrefixOf text then
    if isPartialTag text tags.invokeOpen then .needMore else .invalid
  else match markupName text tags.invokeOpen.length with
    | .invalid => .invalid
    | .needMore => .needMore
    | .complete name pos =>
        match tools.lookup name with
        | none => .invalid
        | some paramTypes =>
            parseParams unmarshal tags name paramTypes (text.length + 1) (text.drop pos) pos []

end Parsing

/-- `calls` is the dialect of a run of rescued invokes whose closing wrapper may
still follow, `run` the parsed invokes of that run and `runRaw` their markup. The
last three fields track code spans and fences over the emitted text. -/
structure ToolMarkupFilter where
  tools : DeclaredTools
  buf : GoString
  inThinking : Bool
  calls : Option Dialect
  wrapped : Bool
  run : List KiroToolUse
  runRaw : GoString
  rescued : List KiroToolUse
  ticks : Nat
  fenced : Bool
  inlineCode : Bool

def newToolMarkupFilter (tools : DeclaredTools) : Option ToolMarkupFilter :=
  if tools = [] then none
  else some ⟨tools, [], false, none, false, [], [], [], 0, false, false⟩

namespace ToolMarkupFilter

section Writing

variable (filter : ToolMarkupFilter)

/-- Pending backticks applied: three or more toggle a fence, fewer an inline span. -/
def codeState : Bool × Bool :=
  if 3 ≤ filter.ticks then (!filter.fenced, false)
  else if 0 < filter.ticks ∧ filter.fenced = false then (filter.fenced, !filter.inlineCode)
  else (filter.fenced, filter.inlineCode)

def inCode : Bool := filter.codeState.1 || filter.codeState.2

def writeByte (byte : UInt8) : ToolMarkupFilter :=
  if byte = 0x60 then { filter with ticks := filter.ticks + 1 }
  else { filter with
    fenced := filter.codeState.1
    inlineCode := if byte = 0x0A then false else filter.codeState.2
    ticks := 0 }

/-- The code state after the text is emitted. -/
def write (text : GoString) : ToolMarkupFilter := text.foldl writeByte filter

/-- The first bytes of the buffer are emitted. -/
def emitBytes (count : Nat) : ToolMarkupFilter × GoString :=
  ({ filter.write (filter.buf.take count) with buf := filter.buf.drop count },
    filter.buf.take count)

/-- A run that turned out not to end the turn is given back as text. -/
def releaseRun : ToolMarkupFilter × GoString :=
  ({ filter.write filter.runRaw with run := [], runRaw := [] }, filter.runRaw)

def commitTrailingWhitespace : ToolMarkupFilter :=
  { filter with rescued := filter.rescued ++ filter.run, run := [], runRaw := [], buf := [] }

/-- An invoke of the run has been parsed up to the byte `consumed` of the buffer. -/
def extendRun (call : KiroToolUse) (consumed : Nat) : ToolMarkupFilter :=
  { filter with
    run := filter.run ++ [call]
    runRaw := filter.runRaw ++ filter.buf.take consumed
    buf := filter.buf.drop consumed }

end Writing

section Steps

variable (unmarshal : GoString → Option Json) (final : Bool)

/-- What a step does with the buffer: `none` is waiting for more text. -/
abbrev StepResult := Option (ToolMarkupFilter × GoString)

/-- What follows a rescued invoke: more invokes, the closing wrapper, or formatting
whitespace. Anything else ends the run and is scanned as ordinary text. -/
def stepCalls (filter : ToolMarkupFilter) (tags : ToolMarkupTags) : StepResult :=
  let rest := trimMarkupSpace filter.buf
  let skipped := filter.buf.length - rest.length
  let ended := some ({ filter with calls := none, wrapped := false }, [])
  if tags.callsClose.isPrefixOf rest then
    some ({ filter with
      runRaw := filter.runRaw ++ filter.buf.take (skipped + tags.callsClose.length)
      buf := rest.drop tags.callsClose.length
      calls := none
      wrapped := false }, [])
  else if tags.invokeOpen.isPrefixOf rest then
    match parseInvoke unmarshal filter.tools rest tags with
    | .complete consumed call => some (filter.extendRun call (skipped + consumed), [])
    | .needMore => if final then ended else none
    | .invalid => ended
  else if rest = [] then
    if final then ended else none
  else if final && filter.wrapped && isPartialTag rest tags.callsClose then
    some ({ filter with buf := [], calls := none, wrapped := false }, [])
  else if isPartialTag rest tags.callsClose || isPartialTag rest tags.invokeOpen then
    if final then ended else none
  else ended

/-- The text after a finished run, or after an opening of calls behind it, begins
like another invoke. -/
def continueRun (filter : ToolMarkupFilter) (dialect : Dialect) (rest body : GoString) :
    StepResult :=
  match parseInvoke unmarshal filter.tools body dialect.1 with
  | .needMore => if final then some filter.releaseRun else none
  | .complete consumed call =>
      some ({ filter.extendRun call (filter.buf.length - body.length + consumed) with
        calls := some dialect
        wrapped := body != rest }, [])
  | .invalid => some filter.releaseRun

/-- The dialects tried on what follows a finished run. -/
def stepAfterRunDialects (filter : ToolMarkupFilter) (rest : GoString) :
    List Dialect → StepResult
  | [] => some filter.releaseRun
  | dialect :: dialects =>
      if dialect.1.callsOpen.isPrefixOf rest then
        filter.continueRun unmarshal final dialect rest
          (trimMarkupSpace (rest.drop dialect.1.callsOpen.length))
      else if dialect.1.invokeOpen.isPrefixOf rest then
        filter.continueRun unmarshal final dialect rest rest
      else if !final && (isPartialTag rest dialect.1.callsOpen || isPartialTag rest dialect.1.invokeOpen)
      then none
      else stepAfterRunDialects filter rest dialects

/-- What follows a finished run of invokes: whitespace is held, another invoke
extends the run, and anything else turns the run back into text. -/
def stepAfterRun (filter : ToolMarkupFilter) : StepResult :=
  let rest := trimMarkupSpace filter.buf
  if rest = [] then
    if final then some (filter.commitTrailingWhitespace, []) else none
  else stepAfterRunDialects unmarshal final filter rest toolMarkupDialects

/-- An invoke block, or a block of calls, where the body begins `offset` bytes in. -/
def stepInvoke (filter : ToolMarkupFilter) (dialect : Dialect) (body : GoString)
    (offset : Nat) : StepResult :=
  match parseInvoke unmarshal filter.tools body dialect.1 with
  | .complete consumed call =>
      some ({ filter.extendRun call (offset + consumed) with
        calls := some dialect
        wrapped := decide (0 < offset) }, [])
  | .needMore => if final then some (filter.emitBytes 1) else none
  | .invalid => some (filter.emitBytes 1)

def stepTagDialects (filter : ToolMarkupFilter) : List Dialect → StepResult
  | [] =>
      if !final && isPartialTag filter.buf thinkingOpenTag then none
      else some (filter.emitBytes 1)
  | dialect :: dialects =>
      if dialect.1.callsOpen.isPrefixOf filter.buf then
        let body := trimMarkupSpace (filter.buf.drop dialect.1.callsOpen.length)
        if !dialect.1.invokeOpen.isPrefixOf body then
          if !final && isPartialTag body dialect.1.invokeOpen then none
          else some (filter.emitBytes 1)
        else stepInvoke unmarshal final filter dialect body (filter.buf.length - body.length)
      else if dialect.1.invokeOpen.isPrefixOf filter.buf then
        stepInvoke unmarshal final filter dialect filter.buf 0
      else if isPartialTag filter.buf dialect.1.callsOpen || isPartialTag filter.buf dialect.1.invokeOpen
      then
        if !final then none else stepTagDialects filter dialects
      else stepTagDialects filter dialects

/-- A buffer that starts with `<`. Markup in reasoning or in code is text. -/
def stepTag (filter : ToolMarkupFilter) : StepResult :=
  if filter.inThinking then
    if thinkingCloseTag.isPrefixOf filter.buf then
      some ({ filter with inThinking := false }.emitBytes thinkingCloseTag.length)
    else if !final && isPartialTag filter.buf thinkingCloseTag then none
    else some (filter.emitBytes 1)
  else if thinkingOpenTag.isPrefixOf filter.buf then
    some ({ filter with inThinking := true }.emitBytes thinkingOpenTag.length)
  else if filter.inCode then some (filter.emitBytes 1)
  else stepTagDialects unmarshal final filter toolMarkupDialects

/-- One round of the drain loop on a buffer that is not empty: the state after it,
the text it emitted, and whether the loop goes on. -/
def drainRound (filter : ToolMarkupFilter) : ToolMarkupFilter × GoString × Bool :=
  match filter.calls with
  | some dialect =>
      match filter.stepCalls unmarshal final dialect.1 with
      | none => (filter, [], false)
      | some (next, out) => (next, out, true)
  | none =>
      if !filter.run.isEmpty then
        match filter.stepAfterRun unmarshal final with
        | none => (filter, [], false)
        | some (next, out) => (next, out, true)
      else
        match indexOf [0x3C] filter.buf with
        | none => ((filter.emitBytes filter.buf.length).1, filter.buf, false)
        | some idx =>
            let plain := filter.emitBytes idx
            match plain.1.stepTag unmarshal final with
            | none => (plain.1, plain.2, false)
            | some (next, out) => (next, plain.2 ++ out, true)

def drainLoop : Nat → ToolMarkupFilter → ToolMarkupFilter × GoString
  | 0, filter => (filter, [])
  | fuel + 1, filter =>
      if filter.buf = [] then (filter, [])
      else
        let round := filter.drainRound unmarshal final
        if round.2.2 then
          let rest := drainLoop fuel round.1
          (rest.1, round.2.1 ++ rest.2)
        else (round.1, round.2.1)

def callsWeight : Option Dialect → Nat
  | none => 0
  | some _ => 2

def runWeight : List KiroToolUse → Nat
  | [] => 0
  | _ :: _ => 1

/-- A bound on the rounds the drain loop can make. -/
def weight (filter : ToolMarkupFilter) : Nat :=
  4 * filter.buf.length + callsWeight filter.calls + runWeight filter.run

def drain (filter : ToolMarkupFilter) : ToolMarkupFilter × GoString :=
  let drained := drainLoop unmarshal final (filter.weight + 1) filter
  if final && !drained.1.run.isEmpty && trimSpace drained.1.buf == [] then
    ({ drained.1 with calls := none }.commitTrailingWhitespace, drained.2)
  else drained

end Steps

/-- Upstream text arrives; the text that is safe to emit now is returned. -/
def push (unmarshal : GoString → Option Json) (filter : Option ToolMarkupFilter)
    (chunk : GoString) : Option ToolMarkupFilter × GoString :=
  match filter with
  | none => (none, chunk)
  | some filter =>
      let drained := { filter with buf := filter.buf ++ chunk }.drain unmarshal false
      (some drained.1, drained.2)

/-- Held text is released at stream end. -/
def flush (unmarshal : GoString → Option Json) (filter : Option ToolMarkupFilter) :
    Option ToolMarkupFilter × GoString :=
  match filter with
  | none => (none, [])
  | some filter =>
      let drained := filter.drain unmarshal true
      (some drained.1, drained.2)

/-- Everything held is handed back as text when the stream fails. -/
def abandon (filter : Option ToolMarkupFilter) : Option ToolMarkupFilter × GoString :=
  match filter with
  | none => (none, [])
  | some filter =>
      (some { filter with
        buf := [], run := [], runRaw := [], calls := none, wrapped := false, rescued := [] },
        filter.runRaw ++ filter.buf)

def pushAll (unmarshal : GoString → Option Json) (filter : Option ToolMarkupFilter) :
    List GoString → Option ToolMarkupFilter × GoString
  | [] => (filter, [])
  | chunk :: chunks =>
      let first := push unmarshal filter chunk
      let rest := pushAll unmarshal first.1 chunks
      (rest.1, first.2 ++ rest.2)

/-- The text a stream shows and the calls rescued from it, when it ends. -/
def rescueStream (unmarshal : GoString → Option Json) (tools : DeclaredTools)
    (chunks : List GoString) : GoString × List KiroToolUse :=
  let pushed := pushAll unmarshal (newToolMarkupFilter tools) chunks
  let flushed := flush unmarshal pushed.1
  (pushed.2 ++ flushed.2, (flushed.1.map ToolMarkupFilter.rescued).getD [])

end ToolMarkupFilter

end KiroProxy.ToolMarkup
