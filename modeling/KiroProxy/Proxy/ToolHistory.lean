import KiroProxy.Proxy.ToolNames

/-!
# Tool turns in the history

The passes of `proxy/tool_history.go` and `proxy/translator.go` over the history of a
payload. A tool turn travels as structured toolUses and toolResults or is narrated as
text; the passes keep the structured turns whose partner is there.
-/

namespace KiroProxy.ToolHistory

open GoStrings Foundation.Searching KiroTypes
open ToolNames (NameMap)

set_option autoImplicit false

abbrev History := List KiroHistoryMessage

def minimalFallbackUserContent : GoString :=
  lit "[No new user text in this turn. Continue from the conversation above.]"

def toolResultsContinuationPrefix : GoString := lit "Tool results:"

def historyImageOmittedNote : GoString :=
  lit "removed from this earlier turn to keep the request small"

def maxHistoryImages : Nat := 4

def maxHistoryImageBytes : Nat := 2 <<< 20

section Texts

def normalizeUserContent (text : GoString) (hasImages : Bool) : GoString :=
  let trimmed := trimSpace text
  if trimmed = [] && hasImages then lit "Please analyze the attached image." else trimmed

def joinHistoryText (existing narrated : GoString) : GoString :=
  let existing := trimSpace existing
  let narrated := trimSpace narrated
  if existing ≠ [] && narrated ≠ [] then existing ++ lit "\n\n" ++ narrated
  else if narrated ≠ [] then narrated
  else existing

/-- `[Called tool …]` up to the next closing bracket, taken out from left to right. -/
def removeToolCallText : Nat → GoString → GoString
  | 0, text => text
  | fuel + 1, text =>
      match indexOf (lit "[Called tool ") text with
      | none => text
      | some start =>
          match indexOf (lit "]") (text.drop (start + 13)) with
          | none => text
          | some length =>
              text.take start ++ removeToolCallText fuel (text.drop (start + 13 + length + 1))

/-- Three line feeds or more become two; `run` counts those just read. -/
def collapseLineFeeds : Nat → GoString → GoString
  | _, [] => []
  | run, byte :: text =>
      if byte = 0x0A then
        if run < 2 then byte :: collapseLineFeeds (run + 1) text
        else collapseLineFeeds (run + 1) text
      else byte :: collapseLineFeeds 0 text

def stripPollutedToolCallText (content : GoString) : GoString :=
  if (indexOf (lit "[Called tool ") content).isNone then content
  else trimSpace (collapseLineFeeds 0 (removeToolCallText content.length content))

def narrateToolResult (names : NameMap) (result : KiroToolResult) : GoString :=
  let texts := (result.content.map KiroResultContent.text).filter (fun text => trimSpace text ≠ [])
  let body := List.intercalate (lit "\n") texts
  let body := if trimSpace body = [] then lit "(no output)" else body
  let name := (names.lookup result.toolUseID).getD []
  if name ≠ [] then lit "[" ++ name ++ lit "] " ++ body else body

def narrateToolResults (toolResults : List KiroToolResult) (names : NameMap) : GoString :=
  if toolResults = [] then []
  else toolResultsContinuationPrefix ++ lit "\n\n" ++
    List.intercalate (lit "\n\n") (toolResults.map (narrateToolResult names))

/-- A byte that starts a rune. -/
def runeStart (byte : UInt8) : Bool := byte &&& 0xC0 != 0x80

/-- The last index of the text, from `cut` down to 0, where a rune starts. -/
def runeCut (text : GoString) : Nat → Nat
  | 0 => 0
  | cut + 1 =>
      if runeStart (text.getD (cut + 1) 0) then cut + 1 else runeCut text cut

def buildToolResultsContinuation (toolResults : List KiroToolResult) : GoString :=
  let parts := (toolResults.flatMap (fun result => result.content.map KiroResultContent.text)).filter
    (fun text => trimSpace text ≠ [])
  if parts = [] then minimalFallbackUserContent
  else
    let joined := toolResultsContinuationPrefix ++ lit "\n\n" ++ List.intercalate (lit "\n\n") parts
    if 4000 < joined.length then joined.take (runeCut joined 4000) else joined

end Texts

section Pairs

def collectToolResultIDs (toolResults : List KiroToolResult) : List GoString :=
  (toolResults.map (fun result => trimSpace result.toolUseID)).filter (· ≠ [])

def hasToolUses (msg : KiroHistoryMessage) : Bool :=
  match msg.assistantResponseMessage with
  | some assistant => !assistant.toolUses.isEmpty
  | none => false

def hasToolResults (msg : KiroUserInputMessage) : Bool :=
  match msg.userInputMessageContext with
  | some context => !context.toolResults.isEmpty
  | none => false

def toolUses (msg : KiroHistoryMessage) : List KiroToolUse :=
  match msg.assistantResponseMessage with
  | some assistant => assistant.toolUses
  | none => []

def toolResults (msg : KiroHistoryMessage) : List KiroToolResult :=
  match msg.userInputMessage with
  | some user =>
      match user.userInputMessageContext with
      | some context => context.toolResults
      | none => []
  | none => []

def currentToolResultsMatchLastAssistant (history : History) (ids : List GoString) : Bool :=
  if ids = [] then false
  else
    match history.getLast? with
    | none => false
    | some last =>
        hasToolUses last && (toolUses last).all (fun use => ids.contains use.toolUseID)

def historyToolNames (history : History) : NameMap :=
  (history.flatMap toolUses).foldl (fun names use =>
    if use.toolUseID ≠ [] && use.name ≠ [] then (use.toolUseID, use.name) :: names else names) []

/-- The ids of the uses if they are distinct, not empty and under declared names. -/
def distinctIDs (declared : Option NameMap) : List GoString → List KiroToolUse → Option (List GoString)
  | ids, [] => some ids
  | ids, use :: uses =>
      if use.toolUseID = [] || ids.contains use.toolUseID then none
      else
        match declared with
        | some names =>
            if (names.lookup use.name).getD [] = [] then none
            else distinctIDs declared (use.toolUseID :: ids) uses
        | none => distinctIDs declared (use.toolUseID :: ids) uses

def answersAll : List GoString → List KiroToolResult → Bool
  | _, [] => true
  | ids, result :: results =>
      ids.contains result.toolUseID &&
        answersAll (ids.filter (· ≠ result.toolUseID)) results

def toolPairMatches (uses : List KiroToolUse) (results : List KiroToolResult)
    (declared : Option NameMap) : Bool :=
  if uses = [] || uses.length ≠ results.length then false
  else
    match distinctIDs declared [] uses with
    | none => false
    | some ids => answersAll ids results

/-- An assistant turn and the user turn right after it that answers exactly its calls. -/
def pairAt (history : History) (declared : Option NameMap) (index : Nat) : Bool :=
  match history[index]?, history[index + 1]? with
  | some turn, some answer =>
      0 < index && hasToolUses turn &&
        match answer.userInputMessage with
        | some user =>
            user.userInputMessageContext.isSome &&
              toolPairMatches (toolUses turn) (toolResults answer) declared
        | none => false
  | _, _ => false

/-- The indices of both turns of such pairs. -/
def structuredToolPairs (history : History) (declared : Option NameMap) (index : Nat) : Bool :=
  pairAt history declared index || (0 < index && pairAt history declared (index - 1))

def toolHistoryPaired (history : History) (ids : List GoString) (pairs : Nat → Bool) : Bool :=
  let lastActive := currentToolResultsMatchLastAssistant history ids
  history.zipIdx.all (fun (msg, index) =>
    !(hasToolUses msg && !pairs index && !(lastActive && index + 1 = history.length)) &&
      !(!(toolResults msg).isEmpty && !pairs index))

end Pairs

section Sanitizing

/-- The last turn, if the current message answers it. -/
def activeIndex (history : History) (ids : List GoString) : Option Nat :=
  if currentToolResultsMatchLastAssistant history ids then some (history.length - 1) else none

def sanitizeAssistant (assistant : KiroAssistantResponseMessage) (keep : Bool) :
    KiroAssistantResponseMessage :=
  { content :=
      if assistant.content ≠ [] then stripPollutedToolCallText assistant.content
      else assistant.content
    toolUses := if keep then assistant.toolUses else [] }

def narrateContext (toolNames : NameMap) (keep : Bool) (user : KiroUserInputMessage)
    (context : UserInputMessageContext) : KiroUserInputMessage :=
  let narrates := !context.toolResults.isEmpty && !keep
  let content :=
    if trimSpace user.content = minimalFallbackUserContent then [] else user.content
  let results := if narrates then [] else context.toolResults
  { user with
    content :=
      if narrates then
        joinHistoryText content (narrateToolResults context.toolResults toolNames)
      else user.content
    userInputMessageContext :=
      if results = [] then none else some { tools := [], toolResults := results } }

def sanitizeUser (toolNames : NameMap) (keep : Bool) (user : KiroUserInputMessage) :
    KiroUserInputMessage :=
  let narrated :=
    match user.userInputMessageContext with
    | some context => narrateContext toolNames keep user context
    | none => user
  if trimSpace narrated.content = [] && narrated.images.isEmpty then
    { narrated with content := minimalFallbackUserContent }
  else narrated

/-- A kept tool turn skips the rest of the loop body. -/
def sanitizeTurn (toolNames : NameMap) (active : Option Nat) (keep : Nat → Bool) (index : Nat)
    (msg : KiroHistoryMessage) : KiroHistoryMessage :=
  let kept := decide (active = some index) || keep index
  let assistant := msg.assistantResponseMessage.map (sanitizeAssistant · kept)
  if hasToolUses msg && kept then { msg with assistantResponseMessage := assistant }
  else
    { userInputMessage := msg.userInputMessage.map (sanitizeUser toolNames (keep index))
      assistantResponseMessage := assistant }

/-- An assistant turn without calls and without text of its own. -/
def emptyAssistant (msg : KiroHistoryMessage) : Bool :=
  match msg.assistantResponseMessage with
  | some assistant =>
      let content := trimSpace assistant.content
      assistant.toolUses.isEmpty &&
        (content = [] || content = lit "." || content = minimalFallbackUserContent)
  | none => false

/-- A user turn that says what the turn before it says. A structured toolResults turn is
never a duplicate. -/
def repeatsUser (last : Option KiroHistoryMessage) (msg : KiroHistoryMessage) : Bool :=
  match msg.userInputMessage, last.bind KiroHistoryMessage.userInputMessage with
  | some user, some previous =>
      !hasToolResults user && trimSpace previous.content = trimSpace user.content &&
        trimSpace user.content ≠ [] && user.images.isEmpty
  | _, _ => false

def cleanFrom : Option KiroHistoryMessage → History → History
  | _, [] => []
  | last, msg :: rest =>
      if emptyAssistant msg || repeatsUser last msg then cleanFrom last rest
      else msg :: cleanFrom (some msg) rest

def trimLeadingAssistantHistory (history : History) : History :=
  history.dropWhile (fun msg => msg.assistantResponseMessage.isSome)

def sanitizeTurns (history : History) (ids : List GoString) (keep : Nat → Bool) : History :=
  history.mapIdx (sanitizeTurn (historyToolNames history) (activeIndex history ids) keep)

def sanitizeKiroHistoryKeeping (history : History) (ids : List GoString) (keep : Nat → Bool) :
    History :=
  if history = [] then history
  else trimLeadingAssistantHistory (cleanFrom none (sanitizeTurns history ids keep))

def sanitizeKiroHistory (history : History) (ids : List GoString) : History :=
  sanitizeKiroHistoryKeeping history ids (fun _ => false)

def ensurePairedFrom (ids : List GoString) : Nat → History → History
  | attempts, history =>
      let pairs := structuredToolPairs history none
      if toolHistoryPaired history ids pairs then history
      else
        match attempts with
        | 0 => sanitizeKiroHistory history ids
        | attempts + 1 =>
            ensurePairedFrom ids attempts (sanitizeKiroHistoryKeeping history ids pairs)

/-- Three attempts, and everything narrated after them. -/
def ensureToolHistoryPaired (history : History) (ids : List GoString) : History :=
  ensurePairedFrom ids 3 history

def renameUses (declared : NameMap) (assistant : KiroAssistantResponseMessage) :
    KiroAssistantResponseMessage :=
  { assistant with
    toolUses := assistant.toolUses.map (fun use =>
      let kiroName := (declared.lookup use.name).getD []
      if kiroName ≠ [] then { use with name := kiroName } else use) }

def renameTurn (declared : NameMap) (msg : KiroHistoryMessage) : KiroHistoryMessage :=
  { msg with assistantResponseMessage := msg.assistantResponseMessage.map (renameUses declared) }

def sanitizeKiroHistoryForTools (history : History) (ids : List GoString) (declared : NameMap) :
    History :=
  if declared = [] then sanitizeKiroHistory history ids
  else
    let kept := sanitizeKiroHistoryKeeping history ids (structuredToolPairs history (some declared))
    (ensureToolHistoryPaired kept ids).map (renameTurn declared)

/-- The history, the current content, and whether the current tool results stay structured. -/
def attachCurrentToolResults (history : History) (currentContent : GoString)
    (currentToolResults : List KiroToolResult) (toolChoice : GoString) (declared : NameMap) :
    History × GoString × Bool :=
  let ids := collectToolResultIDs currentToolResults
  let keep := toolChoice ≠ lit "none" && currentToolResultsMatchLastAssistant history ids
  let names := historyToolNames history
  let sanitized := sanitizeKiroHistoryForTools history (if keep then ids else []) declared
  if currentToolResults = [] then (sanitized, currentContent, keep)
  else if keep then
    (sanitized, joinHistoryText currentContent (buildToolResultsContinuation currentToolResults),
      true)
  else
    (sanitized, joinHistoryText currentContent (narrateToolResults currentToolResults names), false)

end Sanitizing

section Images

/-- How many of the newest images fit, with the count, the size and whether one was left out. -/
def keepImages : List KiroImage → Nat × Nat × Bool → Nat × (Nat × Nat × Bool)
  | [], budget => (0, budget)
  | image :: older, (count, size, full) =>
      if full || maxHistoryImages ≤ count || maxHistoryImageBytes < size + image.bytes.length then
        (0, count, size, true)
      else
        let rest := keepImages older (count + 1, size + image.bytes.length, full)
        (rest.1 + 1, rest.2)

def omittedNote (removed : Nat) : GoString :=
  if 1 < removed then
    lit "[" ++ lit (toString removed) ++ lit " images were " ++ historyImageOmittedNote ++ lit ".]"
  else lit "[An image was " ++ historyImageOmittedNote ++ lit ".]"

def limitImages (user : KiroUserInputMessage) (budget : Nat × Nat × Bool) :
    KiroUserInputMessage × (Nat × Nat × Bool) :=
  let kept := keepImages user.images.reverse budget
  let removed := user.images.length - kept.1
  if removed = 0 then (user, kept.2)
  else
    let images := user.images.drop removed
    let content :=
      if trimSpace user.content = normalizeUserContent [] true && images.isEmpty then []
      else user.content
    ({ user with content := joinHistoryText content (omittedNote removed), images := images },
      kept.2)

/-- From the newest turn to the oldest. -/
def limitImagesFrom : History → History × (Nat × Nat × Bool)
  | [] => ([], 0, 0, false)
  | msg :: newer =>
      let rest := limitImagesFrom newer
      match msg.userInputMessage with
      | none => (msg :: rest.1, rest.2)
      | some user =>
          let limited := limitImages user rest.2
          ({ msg with userInputMessage := some limited.1 } :: rest.1, limited.2)

def limitHistoryImages (history : History) : History := (limitImagesFrom history).1

end Images

end KiroProxy.ToolHistory
