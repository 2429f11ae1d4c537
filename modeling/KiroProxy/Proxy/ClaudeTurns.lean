import KiroProxy.Proxy.ChatTurns
import KiroProxy.Proxy.WebSearch

/-!
# Turns of Claude messages

`normalizeClaudeMessageRoles` of `proxy/claude_messages.go`, which folds system messages into the
turns of the user, and how `ClaudeToKiro` of `proxy/translator.go` reads the content blocks of
the messages as turns.
-/

namespace KiroProxy.ClaudeTurns

open ChatTurns Documents
open FollowupPayloads (InferenceConfig)
open Foundation.Grouping GoStrings InlineMedia KiroTypes
open PromptCache (ClaudeMessage textBlock)
open Responses
open ToolDeclarations (claudeDeclaration)
open ToolHistory
open ToolNames (ClaudeTool)
open TranslatedRequests
open WebSearch (scalarString)

set_option autoImplicit false

section Roles

def claudeMessageBlocks : Json → List Json
  | .str value => [textBlock value]
  | .arr value => value
  | .obj value => [.obj value]
  | _ => []

/-- The messages so far, and whether the last one was of the system. -/
structure Roles where
  result : List ClaudeMessage
  previousSystem : Bool

def isSystem (message : ClaudeMessage) : Bool := message.role == lit "system"

def asUser (message : ClaudeMessage) : ClaudeMessage :=
  if isSystem message then { message with role := lit "user" } else message

/-- A line feed keeps the texts apart. -/
def mergeMessage (previous message : ClaudeMessage) : ClaudeMessage :=
  { previous with
    content := .arr (claudeMessageBlocks previous.content ++ [textBlock (lit "\n")] ++
      claudeMessageBlocks message.content) }

def normalizeMessage (roles : Roles) (message : ClaudeMessage) : Roles :=
  let isSystem := isSystem message
  let message := asUser message
  match roles.result.getLast? with
  | some previous =>
      if message.role = lit "user" ∧ previous.role = lit "user" ∧
          (isSystem || roles.previousSystem) then
        ⟨roles.result.dropLast ++ [mergeMessage previous message], isSystem⟩
      else ⟨roles.result ++ [message], isSystem⟩
  | none => ⟨roles.result ++ [message], isSystem⟩

def normalizeClaudeMessageRoles (messages : List ClaudeMessage) : List ClaudeMessage :=
  if messages.any isSystem then (messages.foldl normalizeMessage ⟨[], false⟩).result
  else messages

end Roles

section Contents

variable (letters : Letters) (print : Json → GoString)

def toolResultDocumentPlaceholder : GoString :=
  lit "[Tool returned a document; the document is attached to this message.]"

def imageBlockTypes : List GoString := [lit "image", lit "image_url", lit "input_image"]

/-- The image of a `source`. -/
def sourceImage (source : JsonFields) : Option KiroImage :=
  let media := firstString [source.get (lit "media_type"), source.get (lit "mediaType"),
    source.get (lit "mime_type")]
  let lower := letters.toLower media
  let format := if (lit "image/").isPrefixOf lower then lower.drop 6 else lower
  [(stringOf (source.get (lit "data"))).bind (parseDataURL letters),
    (stringOf (source.get (lit "data"))).bind (parseBase64Image letters · format),
    (stringOf (source.get (lit "url"))).bind (parseDataURL letters)].findSome? id

def extractImageFromClaudeBlock (block : JsonFields) : Option KiroImage :=
  let source :=
    match block.get (lit "source") with
    | some (.obj source) => sourceImage letters source
    | _ => none
  [source, extractImageFromOpenAIPart letters (.obj block),
    (stringOf (block.get (lit "data"))).bind (parseDataURL letters)].findSome? id

/-- What the loop of `extractToolResultContent` has found. -/
structure ResultContent where
  parts : List GoString
  images : List KiroImage

/-- One round over the blocks of a result: an image, a document that travels by itself, a text,
or what is left to be an image. -/
def readResultBlock (found : ResultContent) (block : Json) : ResultContent :=
  match block with
  | .obj block =>
      let blockType := stringField block (lit "type")
      let image := extractImageFromClaudeBlock letters block
      let document :=
        if blockType = lit "document" then kiroDocumentFromBlock letters block else none
      if blockType ∈ imageBlockTypes ∧ image.isSome then
        { found with images := found.images ++ image.toList }
      else if document.isSome then found
      else
        match JsonFields.get block (lit "text") with
        | some (.str text) => { found with parts := found.parts ++ [text] }
        | _ => { found with images := found.images ++ image.toList }
  | _ => found

def extractToolResultContent : Json → GoString × List KiroImage
  | .str text => (text, [])
  | .arr blocks =>
      let found := blocks.foldl (readResultBlock letters) ⟨[], []⟩
      (found.parts.flatten, found.images)
  | _ => ([], [])

/-- What the loop of `extractClaudeUserContent` has found. -/
structure UserContent where
  text : GoString
  images : List KiroImage
  toolResults : List KiroToolResult

def nothingFound : UserContent := ⟨[], [], []⟩

/-- The text of a result that has none says what is attached. -/
def toolResultText (block : JsonFields) : GoString :=
  let content := (block.get (lit "content")).getD .null
  let (resultContent, resultImages) := extractToolResultContent letters content
  let resultContent :=
    if resultImages ≠ [] ∧ trimSpace resultContent = [] then toolResultImagePlaceholder
    else resultContent
  if trimSpace resultContent = [] ∧ collectDocuments letters content ≠ [] then
    toolResultDocumentPlaceholder
  else resultContent

def blockToolResult (block : JsonFields) : KiroToolResult where
  toolUseID := stringField block (lit "tool_use_id")
  content := [⟨toolResultText letters block⟩]
  status := lit "success"

def resultImages (block : JsonFields) : List KiroImage :=
  (extractToolResultContent letters ((block.get (lit "content")).getD .null)).2

def readUserBlock (found : UserContent) (block : Json) : UserContent :=
  match block with
  | .obj block =>
      let blockType := stringField block (lit "type")
      if blockType = lit "text" ∨ blockType = lit "input_text" then
        { found with text := found.text ++ stringField block (lit "text") }
      else if blockType ∈ imageBlockTypes then
        { found with
          images := found.images ++ (extractImageFromClaudeBlock letters block).toList }
      else if blockType = lit "tool_result" then
        { found with
          images := found.images ++ resultImages letters block
          toolResults := found.toolResults ++ [blockToolResult letters block] }
      else found
  | _ => found

def extractClaudeUserContent : Json → UserContent
  | .str text => ⟨text, [], []⟩
  | .arr blocks => blocks.foldl (readUserBlock letters) nothingFound
  | _ => nothingFound

def webSearchResultHistoryText : Json → GoString
  | .arr [] => []
  | .arr items =>
      lit "\n\nWeb search results:" ++ items.flatMap fun item =>
        match item with
        | .obj item =>
            let title := trimSpace (scalarString print (JsonFields.get item (lit "title")))
            let url := trimSpace (scalarString print (JsonFields.get item (lit "url")))
            if title = [] ∧ url = [] then [] else lit "\n- " ++ title ++ lit " (" ++ url ++ lit ")"
        | _ => []
  | _ => []

/-- An input that is no object is left out. -/
def blockToolUse (block : JsonFields) : KiroToolUse where
  toolUseID := stringField block (lit "id")
  name := stringField block (lit "name")
  input :=
    match block.get (lit "input") with
    | some (.obj input) => input
    | _ => []

/-- A search of the server is told as text. -/
def readAssistantBlock (found : GoString × List KiroToolUse) (block : Json) :
    GoString × List KiroToolUse :=
  match block with
  | .obj block =>
      let blockType := stringField block (lit "type")
      if blockType = lit "text" then (found.1 ++ stringField block (lit "text"), found.2)
      else if blockType = lit "tool_use" then (found.1, found.2 ++ [blockToolUse block])
      else if blockType = lit "web_search_tool_result" then
        (found.1 ++ webSearchResultHistoryText print
          ((JsonFields.get block (lit "content")).getD .null), found.2)
      else found
  | _ => found

def extractClaudeAssistantContent : Json → GoString × List KiroToolUse
  | .str text => (text, [])
  | .arr blocks => blocks.foldl (readAssistantBlock print) ([], [])
  | _ => ([], [])

end Contents

section Requests

variable (letters : Letters) (print : Json → GoString)

/-- One round of the loop of `ClaudeToKiro`. -/
def readMessage (read : Conversation) (msg : ClaudeMessage) (next : Option ClaudeMessage) :
    Conversation :=
  if msg.role = lit "user" then
    let found := extractClaudeUserContent letters msg.content
    let documents := extractDocuments letters msg.content
    let content :=
      normalizeDocumentUserContent (normalizeUserContent found.text (found.images ≠ [])) documents
    if next.isNone then
      { read with
        currentContent := content
        currentImages := found.images
        currentDocuments := documents
        currentToolResults := found.toolResults }
    else
      { read with
        turns := read.turns ++ [.user content found.images documents found.toolResults] }
  else if msg.role = lit "assistant" then
    let (content, toolUses) := extractClaudeAssistantContent print msg.content
    { read with turns := read.turns ++ [.assistant content toolUses] }
  else read

def readMessages (messages : List ClaudeMessage) : Conversation :=
  scan (readMessage letters print) noMessages (normalizeClaudeMessageRoles messages)

/-- `toolChoice` is what `claudeToolChoice` makes of the choice: its kind and the name. -/
structure ClaudeChatRequest where
  modelID : GoString
  messages : List ClaudeMessage
  system : Json
  tools : List ClaudeTool
  toolChoice : GoString × GoString
  inferenceConfig : Option InferenceConfig

def extractSystemPrompt : Json → GoString
  | .str text => text
  | .arr blocks =>
      List.intercalate (lit "\n") (blocks.filterMap fun block =>
        match block with
        | .obj block => stringOf (JsonFields.get block (lit "text"))
        | _ => none)
  | _ => []

/-- `filters` is `applyPromptFilters`. -/
def buildClaudeSystemPrompt (filters : GoString → GoString) (system : Json) (thinking : Bool) :
    GoString :=
  let systemPrompt := filters (extractSystemPrompt system)
  if !thinking then systemPrompt
  else if systemPrompt = [] then thinkingModePrompt
  else thinkingModePrompt ++ lit "\n\n" ++ systemPrompt

def chosenTools (request : ClaudeChatRequest) : List ClaudeTool :=
  let (choice, name) := request.toolChoice
  if choice = lit "none" then []
  else if choice = lit "tool" then request.tools.filter (·.name = name)
  else request.tools

/-- What `ClaudeToKiro` reads of a request. -/
def claudeRequest (filters : GoString → GoString) (request : ClaudeChatRequest)
    (thinking : Bool) : TranslatedRequest :=
  let read := readMessages letters print request.messages
  { modelID := request.modelID
    systemPrompt := buildClaudeSystemPrompt filters request.system thinking
    turns := read.turns
    currentContent := read.currentContent
    currentImages := read.currentImages
    currentDocuments := read.currentDocuments
    currentToolResults := read.currentToolResults
    choice := request.toolChoice.1
    tools := claudeDeclaration (chosenTools request)
    inferenceConfig := request.inferenceConfig }

end Requests

section Groups

/-- The messages that become turns of the user. -/
def userSide (message : ClaudeMessage) : Bool :=
  isSystem message || message.role == lit "user"

/-- Neighbours of one turn: an instruction is told in the turn next to it. -/
def sharesTurn (first second : ClaudeMessage) : Bool :=
  userSide first && userSide second && (isSystem first || isSystem second)

theorem user_role (message : ClaudeMessage) :
    (asUser message).role = lit "user" ↔ userSide message = true := by
  unfold asUser userSide
  by_cases system : isSystem message = true
  · simp [system]
  · simp [system]

theorem merge_as_user (previous message : ClaudeMessage) :
    mergeMessage previous (asUser message) = mergeMessage previous message := by
  unfold asUser mergeMessage
  split <;> rfl

/-- The loop goes as one that merges neighbours of a turn. -/
theorem normalize_gathers (messages done : List ClaudeMessage) (last previous : ClaudeMessage)
    (same : last.role = (asUser previous).role) :
    (messages.foldl normalizeMessage ⟨done ++ [last], isSystem previous⟩).result =
      (messages.foldl (gather sharesTurn asUser mergeMessage)
        (done ++ [last], some previous)).1 := by
  induction messages generalizing done last previous with
  | nil => rfl
  | cons message messages ih =>
      have guard : ((asUser message).role = lit "user" ∧ last.role = lit "user" ∧
          (isSystem message || isSystem previous) = true) ↔ sharesTurn previous message = true := by
        rw [same, user_role, user_role, sharesTurn, Bool.and_eq_true, Bool.and_eq_true,
          Bool.or_comm]
        tauto
      rw [List.foldl_cons, List.foldl_cons]
      by_cases shared : sharesTurn previous message = true
      · have merges : normalizeMessage ⟨done ++ [last], isSystem previous⟩ message =
            ⟨done ++ [mergeMessage last message], isSystem message⟩ := by
          simp [normalizeMessage, guard.mpr shared, merge_as_user]
        have gathers : gather sharesTurn asUser mergeMessage (done ++ [last], some previous)
            message = (done ++ [mergeMessage last message], some message) := by
          simp [gather, shared]
        rw [merges, gathers]
        apply ih
        rw [(guard.mpr shared).1]
        exact (guard.mpr shared).2.1
      · have starts : normalizeMessage ⟨done ++ [last], isSystem previous⟩ message =
            ⟨done ++ [last] ++ [asUser message], isSystem message⟩ := by
          simp only [normalizeMessage, List.getLast?_concat, if_neg (guard.not.mpr shared)]
        have gathers : gather sharesTurn asUser mergeMessage (done ++ [last], some previous)
            message = (done ++ [last] ++ [asUser message], some message) := by
          simp [gather, shared]
        rw [starts, gathers]
        exact ih (done ++ [last]) (asUser message) message rfl

theorem unfolded_groups (messages : List ClaudeMessage)
    (plain : ∀ message ∈ messages, isSystem message = false) :
    (messages.splitBy sharesTurn).filterMap (merged asUser mergeMessage) = messages := by
  induction messages with
  | nil => rfl
  | cons first messages ih =>
      have own : asUser first = first := by simp [asUser, plain first]
      have rest := ih fun message member => plain message (List.mem_cons_of_mem _ member)
      cases messages with
      | nil => simp [List.splitBy, List.splitBy.loop, merged, own]
      | cons second messages =>
          have apart : sharesTurn first second = false := by
            simp [sharesTurn, plain first, plain second]
          rw [split_by_apart sharesTurn first second messages apart, List.filterMap_cons, rest]
          simp [merged, own]

theorem normalized_groups (messages : List ClaudeMessage) :
    normalizeClaudeMessageRoles messages =
      (messages.splitBy sharesTurn).filterMap (merged asUser mergeMessage) := by
  rw [normalizeClaudeMessageRoles]
  by_cases system : messages.any isSystem = true
  · rw [if_pos system, ← gather_groups sharesTurn asUser mergeMessage messages]
    cases messages with
    | nil => rfl
    | cons first messages =>
        exact normalize_gathers messages [] (asUser first) first rfl
  · rw [if_neg system]
    refine (unfolded_groups messages fun message member => ?_).symm
    simpa using fun found => system (List.any_eq_true.mpr ⟨message, member, found⟩)

/-- What is read of each message of a turn: a message that is alone keeps its content. -/
def turnContents : List ClaudeMessage → List Json
  | [message] => [message.content]
  | group => group.map fun message => .arr (claudeMessageBlocks message.content)

/-- The content of a turn: the blocks of its messages, with a line feed between them. -/
def turnContent : List ClaudeMessage → Json
  | [message] => message.content
  | group => .arr (List.intercalate [textBlock (lit "\n")]
      (group.map fun message => claudeMessageBlocks message.content))

theorem intercalate_flat {β : Type} (separator first : List β) (rest : List (List β)) :
    List.intercalate separator (first :: rest) = first ++ rest.flatMap (separator ++ ·) := by
  induction rest generalizing first with
  | nil => simp
  | cons second rest ih =>
      rw [List.intercalate_cons_cons, ih, List.flatMap_cons]
      simp only [List.append_assoc]

theorem merged_blocks (group : List ClaudeMessage) (first : ClaudeMessage) (blocks : List Json)
    (written : first.content = .arr blocks) :
    (group.foldl mergeMessage first).role = first.role ∧
      (group.foldl mergeMessage first).content =
        .arr (blocks ++ group.flatMap fun message =>
          textBlock (lit "\n") :: claudeMessageBlocks message.content) := by
  induction group generalizing first blocks with
  | nil => simpa using written
  | cons message group ih =>
      obtain ⟨role, content⟩ := ih (mergeMessage first message)
        (blocks ++ [textBlock (lit "\n")] ++ claudeMessageBlocks message.content)
        (by rw [mergeMessage, written, claudeMessageBlocks])
      rw [List.foldl_cons]
      refine ⟨role, content.trans ?_⟩
      simp

theorem merged_content (first : ClaudeMessage) (group : List ClaudeMessage) :
    (group.foldl mergeMessage (asUser first)).role = (asUser first).role ∧
      (group.foldl mergeMessage (asUser first)).content = turnContent (first :: group) := by
  have own : (asUser first).content = first.content := by
    unfold asUser
    split <;> rfl
  cases group with
  | nil => exact ⟨rfl, own⟩
  | cons second group =>
      obtain ⟨role, content⟩ := merged_blocks group (mergeMessage (asUser first) second)
        (claudeMessageBlocks (asUser first).content ++ [textBlock (lit "\n")] ++
          claudeMessageBlocks second.content) rfl
      rw [List.foldl_cons]
      refine ⟨role, content.trans ?_⟩
      rw [own, turnContent]
      · rw [List.map_cons, intercalate_flat, List.map_cons, List.flatMap_cons, List.flatMap_map]
        simp
      · simp

end Groups

section Additions

variable (letters : Letters)

/-- What is found in blocks and then in more of them. -/
def UserContent.append (found more : UserContent) : UserContent where
  text := found.text ++ more.text
  images := found.images ++ more.images
  toolResults := found.toolResults ++ more.toolResults

theorem read_block_append (found : UserContent) (block : Json) :
    readUserBlock letters found block =
      found.append (readUserBlock letters nothingFound block) := by
  unfold readUserBlock UserContent.append nothingFound
  cases block with
  | obj block =>
      simp only
      split_ifs <;> simp
  | _ => simp

theorem read_blocks_append (blocks : List Json) (found : UserContent) :
    blocks.foldl (readUserBlock letters) found =
      found.append (blocks.foldl (readUserBlock letters) nothingFound) := by
  induction blocks generalizing found with
  | nil => simp [UserContent.append, nothingFound]
  | cons block blocks ih =>
      rw [List.foldl_cons, List.foldl_cons, ih, read_block_append letters found block,
        ih (readUserBlock letters nothingFound block)]
      simp [UserContent.append]

theorem found_append (blocks more : List Json) :
    extractClaudeUserContent letters (.arr (blocks ++ more)) =
      (extractClaudeUserContent letters (.arr blocks)).append
        (extractClaudeUserContent letters (.arr more)) := by
  rw [extractClaudeUserContent, List.foldl_append, read_blocks_append]
  rfl

theorem text_block_type (text : GoString) :
    stringField [(lit "text", .str text), (lit "type", .str (lit "text"))] (lit "type") =
      lit "text" ∧
    stringField [(lit "text", .str text), (lit "type", .str (lit "text"))] (lit "text") = text := by
  have apart : (lit "type" == lit "text") = false := by decide
  constructor <;> simp [stringField, JsonFields.get, List.lookup_cons, apart]

theorem found_text (text : GoString) :
    extractClaudeUserContent letters (.arr [textBlock text]) = ⟨text, [], []⟩ := by
  simp only [extractClaudeUserContent, List.foldl_cons, List.foldl_nil, readUserBlock, textBlock,
    text_block_type, true_or, if_true]
  rfl

theorem collected_append (blocks more : List Json) :
    collectDocuments letters (.arr (blocks ++ more)) =
      collectDocuments letters (.arr blocks) ++ collectDocuments letters (.arr more) := by
  simp only [collectDocuments]
  induction blocks with
  | nil => simp [documentsOfBlocks]
  | cons block blocks ih => simp only [List.cons_append, documentsOfBlocks, ih, List.append_assoc]

theorem collected_text (text : GoString) :
    collectDocuments letters (.arr [textBlock text]) = [] := by
  have kinds : lit "text" ≠ lit "tool_result" ∧ lit "text" ∉ documentTypes := by decide
  simp only [collectDocuments, documentsOfBlocks, documentsOfBlock, textBlock, text_block_type,
    if_neg kinds.1, if_neg kinds.2, List.append_nil]

/-- The texts of a turn are those of its messages, with a line feed between them. -/
theorem spaced_found (blocks : List Json) (rest : List (List Json)) :
    let found := (blocks :: rest).map fun blocks => extractClaudeUserContent letters (.arr blocks)
    extractClaudeUserContent letters
        (.arr (List.intercalate [textBlock (lit "\n")] (blocks :: rest))) =
      ⟨List.intercalate (lit "\n") (found.map UserContent.text),
        found.flatMap UserContent.images, found.flatMap UserContent.toolResults⟩ := by
  induction rest generalizing blocks with
  | nil => simp
  | cons next rest ih =>
      simp only at ih ⊢
      rw [List.intercalate_cons_cons, found_append, found_append, found_text, ih]
      simp [UserContent.append]

theorem spaced_collected (blocks : List Json) (rest : List (List Json)) :
    collectDocuments letters
        (.arr (List.intercalate [textBlock (lit "\n")] (blocks :: rest))) =
      (blocks :: rest).flatMap fun blocks => collectDocuments letters (.arr blocks) := by
  induction rest generalizing blocks with
  | nil => simp
  | cons next rest ih =>
      rw [List.intercalate_cons_cons, collected_append, collected_append, collected_text, ih]
      simp

end Additions

section Readings

variable {β : Type} (letters : Letters) (print : Json → GoString)

/-- The turn of a message that is no longer of the system. -/
def messageTurn (msg : ClaudeMessage) : Option TranslatedTurn :=
  if msg.role = lit "user" then
    let found := extractClaudeUserContent letters msg.content
    let documents := extractDocuments letters msg.content
    some (.user
      (normalizeDocumentUserContent (normalizeUserContent found.text (found.images ≠ []))
        documents)
      found.images documents found.toolResults)
  else if msg.role = lit "assistant" then
    let (content, toolUses) := extractClaudeAssistantContent print msg.content
    some (.assistant content toolUses)
  else none

theorem read_message_settled (read : Conversation) (msg : ClaudeMessage)
    (next : Option ClaudeMessage) :
    readMessage letters print read msg next =
      push read (messageTurn letters print msg) next.isNone := by
  unfold readMessage messageTurn
  by_cases user : msg.role = lit "user"
  · rw [if_pos user, if_pos user]
    cases next <;> rfl
  · rw [if_neg user, if_neg user]
    by_cases assistant : msg.role = lit "assistant"
    · rw [if_pos assistant, if_pos assistant]
      cases next <;> rfl
    · rw [if_neg assistant, if_neg assistant]
      cases next <;> simp [push]

/-- The turn of neighbours, read of each of them. -/
def groupTurn : List ClaudeMessage → Option TranslatedTurn
  | [] => none
  | first :: group =>
      if userSide first then
        let contents := turnContents (first :: group)
        let found := contents.map (extractClaudeUserContent letters)
        let images := found.flatMap UserContent.images
        let documents := numberDocuments [] (contents.flatMap (collectDocuments letters))
        let text := List.intercalate (lit "\n") (found.map UserContent.text)
        some (.user
          (normalizeDocumentUserContent (normalizeUserContent text (images ≠ [])) documents)
          images documents (found.flatMap UserContent.toolResults))
      else if first.role = lit "assistant" then
        let (content, toolUses) := extractClaudeAssistantContent print first.content
        some (.assistant content toolUses)
      else none

theorem turn_found (first : ClaudeMessage) (group : List ClaudeMessage) :
    let found := (turnContents (first :: group)).map (extractClaudeUserContent letters)
    extractClaudeUserContent letters (turnContent (first :: group)) =
      ⟨List.intercalate (lit "\n") (found.map UserContent.text),
        found.flatMap UserContent.images, found.flatMap UserContent.toolResults⟩ := by
  cases group with
  | nil => simp [turnContent, turnContents]
  | cons second group =>
      have spaced := spaced_found letters (claudeMessageBlocks first.content)
        ((second :: group).map fun message => claudeMessageBlocks message.content)
      rw [turnContent, turnContents]
      · simpa only [List.map_cons, List.map_map, Function.comp_def] using spaced
      all_goals simp

theorem turn_collected (first : ClaudeMessage) (group : List ClaudeMessage) :
    collectDocuments letters (turnContent (first :: group)) =
      (turnContents (first :: group)).flatMap (collectDocuments letters) := by
  cases group with
  | nil => simp [turnContent, turnContents]
  | cons second group =>
      rw [turnContent, turnContents]
      · rw [List.map_cons, spaced_collected]
        simp [List.flatMap_map]
      all_goals simp

/-- Messages that share a turn with others are the user's. -/
theorem group_cases (first : ClaudeMessage) (group : List ClaudeMessage)
    (chain : (first :: group).IsChain fun message next => sharesTurn message next = true) :
    group = [] ∨ ∀ message ∈ first :: group, userSide message = true := by
  induction group generalizing first with
  | nil => exact Or.inl rfl
  | cons second group ih =>
      rw [List.isChain_cons_cons] at chain
      obtain ⟨shared, rest⟩ := chain
      simp only [sharesTurn, Bool.and_eq_true] at shared
      refine Or.inr fun message member => ?_
      obtain rfl | member := List.mem_cons.mp member
      · exact shared.1.1
      · obtain rfl | all := ih second rest
        · obtain rfl := List.mem_singleton.mp member
          exact shared.1.2
        · exact all message member

theorem group_turn (first : ClaudeMessage) (group : List ClaudeMessage)
    (chain : (first :: group).IsChain fun message next => sharesTurn message next = true) :
    messageTurn letters print (group.foldl mergeMessage (asUser first)) =
      groupTurn letters print (first :: group) := by
  obtain ⟨role, content⟩ := merged_content first group
  rw [messageTurn, groupTurn, role, content]
  by_cases user : userSide first = true
  · rw [if_pos ((user_role first).mpr user), if_pos user]
    simp only [extractDocuments, turn_found letters first group, turn_collected]
  · rw [if_neg ((user_role first).not.mpr user), if_neg user]
    have alone : group = [] := by
      obtain alone | all := group_cases first group chain
      · exact alone
      · exact absurd (all first (List.mem_cons_self ..)) user
    have own : asUser first = first := by
      rw [asUser, if_neg]
      intro system
      exact user (by simp [userSide, system])
    rw [own, alone]
    rfl

theorem claude_messages_read (messages : List ClaudeMessage) :
    readMessages letters print messages =
      conversation ((messages.splitBy sharesTurn).map (groupTurn letters print)) := by
  have turns : (normalizeClaudeMessageRoles messages).map (messageTurn letters print) =
      (messages.splitBy sharesTurn).map (groupTurn letters print) := by
    rw [normalized_groups, List.map_filterMap]
    conv_rhs => rw [← List.filterMap_eq_map]
    apply List.filterMap_congr
    intro group member
    cases group with
    | nil => simp at member
    | cons first group =>
        have chain := List.isChain_of_mem_splitBy member
        simp [merged, group_turn letters print first group chain]
  rw [readMessages, conversation, ← turns, scan_map]
  apply scan_within _ _ fun _ => True
  · intro read msg next _
    rw [read_message_settled, Option.isNone_map]
  · simp
  · trivial

/-- The contents that turns of the user are read of. -/
def userContents (messages : List ClaudeMessage) : List Json :=
  (messages.splitBy sharesTurn).flatMap fun group =>
    if group.all userSide then turnContents group else []

def sentToolUses (msg : ClaudeMessage) : List KiroToolUse :=
  if msg.role = lit "assistant" then (extractClaudeAssistantContent print msg.content).2 else []

/-- What `ClaudeToKiro` reads of messages: one turn for each group of neighbours. The images, the
documents and the results are those of the contents, the calls those of the assistant. -/
structure MessagesRead (messages : List ClaudeMessage) (read : Conversation) : Prop where
  turns : read = conversation ((messages.splitBy sharesTurn).map (groupTurn letters print))
  images : read.images =
    (userContents messages).flatMap fun content => (extractClaudeUserContent letters content).images
  documents : read.documents.map KiroDocument.bytes =
    (userContents messages).flatMap fun content =>
      (collectDocuments letters content).map KiroDocument.bytes
  toolResults : read.toolResults =
    (userContents messages).flatMap fun content =>
      (extractClaudeUserContent letters content).toolResults
  toolUses : read.toolUses = messages.flatMap (sentToolUses print)

/-- A group is of the user, or one message of somebody else. -/
theorem split_cases (messages group : List ClaudeMessage)
    (member : group ∈ messages.splitBy sharesTurn) :
    (∃ first rest, group = first :: rest ∧ group.all userSide = true) ∨
      ∃ message, group = [message] ∧ userSide message = false := by
  have nonempty := List.ne_nil_of_mem_splitBy member
  cases group with
  | nil => exact absurd rfl nonempty
  | cons first rest =>
      by_cases all : (first :: rest).all userSide = true
      · exact Or.inl ⟨first, rest, rfl, all⟩
      · obtain rfl | found := group_cases first rest (List.isChain_of_mem_splitBy member)
        · exact Or.inr ⟨first, rfl, by simpa using all⟩
        · exact absurd (List.all_eq_true.mpr found) all

/-- What turns of the user bring is in the conversation, in its order. -/
theorem contents_kept (part : TranslatedTurn → List β) (whole : Conversation → List β)
    (sent : Json → List β)
    (pushed : ∀ read turn last, read.Settled →
      whole (push read turn last) = whole read ++ turn.toList.flatMap part)
    (silent : ∀ content toolUses, part (.assistant content toolUses) = [])
    (users : ∀ first rest, userSide first = true →
      (groupTurn letters print (first :: rest)).toList.flatMap part =
        (turnContents (first :: rest)).flatMap sent)
    (start : whole noMessages = []) (messages : List ClaudeMessage) :
    whole (readMessages letters print messages) = (userContents messages).flatMap sent := by
  rw [claude_messages_read, conversation_parts part whole pushed start, List.flatMap_map,
    userContents, List.flatMap_assoc]
  apply List.flatMap_congr
  intro group member
  obtain ⟨first, rest, rfl, all⟩ | ⟨message, rfl, other⟩ := split_cases messages group member
  · rw [if_pos all]
    exact users first rest (List.all_eq_true.mp all first (List.mem_cons_self ..))
  · have foreign : ¬[message].all userSide = true := by simp [other]
    rw [if_neg foreign, groupTurn, other]
    by_cases assistant : message.role = lit "assistant"
    · simp [assistant, silent]
    · simp [assistant]

theorem numbered_bytes (seen : List GoString) (documents : List KiroDocument) :
    (numberDocuments seen documents).map KiroDocument.bytes =
      documents.map KiroDocument.bytes := by
  induction documents generalizing seen with
  | nil => rfl
  | cons document documents ih => rw [numberDocuments, List.map_cons, List.map_cons, ih]

theorem conversation_read (messages : List ClaudeMessage) :
    MessagesRead letters print messages (readMessages letters print messages) where
  turns := claude_messages_read letters print messages
  images := by
    apply contents_kept letters print ChatTurns.turnImages Conversation.images
    · exact push_images
    · exact fun _ _ => rfl
    · intro first rest user
      simp [groupTurn, user, ChatTurns.turnImages, List.flatMap_map]
    · rfl
  documents := by
    apply contents_kept letters print (fun turn => (turnDocuments turn).map KiroDocument.bytes)
      fun read => read.documents.map KiroDocument.bytes
    · intro read turn last settled
      rw [push_documents read turn last settled, List.map_append, List.map_flatMap]
    · exact fun _ _ => rfl
    · intro first rest user
      simp [groupTurn, user, turnDocuments, numbered_bytes, List.map_flatMap]
    · rfl
  toolResults := by
    apply contents_kept letters print turnToolResults Conversation.toolResults
    · exact push_tool_results
    · exact fun _ _ => rfl
    · intro first rest user
      simp [groupTurn, user, turnToolResults, List.flatMap_map]
    · rfl
  toolUses := by
    rw [claude_messages_read, conversation_parts turnToolUses Conversation.toolUses push_tool_uses
      rfl, List.flatMap_map]
    conv_rhs => rw [← List.flatten_splitBy sharesTurn messages, List.flatten_eq_flatMap,
      List.flatMap_assoc]
    apply List.flatMap_congr
    intro group member
    obtain ⟨first, rest, rfl, all⟩ | ⟨message, rfl, other⟩ := split_cases messages group member
    · have user := List.all_eq_true.mp all first (List.mem_cons_self ..)
      simp only [groupTurn, user, if_true, Option.toList_some, List.flatMap_singleton,
        turnToolUses, id]
      symm
      rw [List.flatMap_eq_nil_iff]
      intro message inside
      rw [sentToolUses, if_neg]
      intro assistant
      have side := List.all_eq_true.mp all message inside
      have apart : lit "assistant" ≠ lit "system" := by decide
      simp [userSide, isSystem, assistant, roles_apart, apart] at side
    · rw [groupTurn, other]
      by_cases assistant : message.role = lit "assistant"
      · simp [assistant, turnToolUses, sentToolUses]
      · simp [assistant, sentToolUses]

/-- The messages of a Claude request as its turns. -/
theorem claude_request_read (filters : GoString → GoString) (request : ClaudeChatRequest)
    (thinking : Bool) :
    MessagesRead letters print request.messages
      (readOf (claudeRequest letters print filters request thinking)) :=
  conversation_read letters print request.messages

end Readings

end KiroProxy.ClaudeTurns
