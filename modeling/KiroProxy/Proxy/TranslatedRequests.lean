import KiroProxy.Proxy.FlattenedHistory

/-!
# Payloads of translated requests

What `ClaudeToKiro` and `OpenAIToKiro` of `proxy/translator.go` make of the turns that they read
from the messages: the history behind the priming turns, the current message, and the images that
stay. `truncatePayloadToLimit`, which comes last, leaves a payload alone that is small enough.
-/

namespace KiroProxy.TranslatedRequests

open FollowupPayloads GoStrings KiroTypes ToolDeclarations ToolHistory
open ToolNames (NameMap)

set_option autoImplicit false

def origin : GoString := lit "AI_EDITOR"

/-- A turn before the last message; a chat tool message is a user turn without text. -/
inductive TranslatedTurn where
  | user (content : GoString) (images : List KiroImage) (documents : List KiroDocument)
      (toolResults : List KiroToolResult)
  | assistant (content : GoString) (toolUses : List KiroToolUse)

/-- What is read from a request: the turns, the last message, and the tools that the choice
leaves. -/
structure TranslatedRequest where
  modelID : GoString
  systemPrompt : GoString
  turns : List TranslatedTurn
  currentContent : GoString
  currentImages : List KiroImage
  currentDocuments : List KiroDocument
  currentToolResults : List KiroToolResult
  choice : GoString
  tools : ToolDeclaration
  inferenceConfig : Option InferenceConfig

section Histories

def userTurn (modelID content : GoString) (images : List KiroImage)
    (documents : List KiroDocument) (toolResults : List KiroToolResult) : KiroHistoryMessage where
  userInputMessage := some
    { content := content
      modelID := modelID
      origin := origin
      images := images
      documents := documents
      userInputMessageContext := if toolResults = [] then none else some ⟨[], toolResults⟩ }
  assistantResponseMessage := none

def TranslatedTurn.message (modelID : GoString) : TranslatedTurn → KiroHistoryMessage
  | .user content images documents toolResults =>
      userTurn modelID content images documents toolResults
  | .assistant content toolUses => assistantTurn content toolUses

def priming (modelID systemPrompt : GoString) : History :=
  [userTurn modelID systemPrompt [] [] [],
    assistantTurn (lit "I will follow these instructions.") []]

variable (request : TranslatedRequest)

def messages : History := request.turns.map (TranslatedTurn.message request.modelID)

/-- A Claude conversation begins with a user, before the priming turns are put in front. -/
def claudeHistory : History :=
  let history := trimLeadingAssistantHistory (messages request)
  if request.systemPrompt ≠ [] then priming request.modelID request.systemPrompt ++ history
  else history

def openAIHistory : History :=
  let history := messages request
  if request.systemPrompt ≠ [] then
    priming request.modelID (trimSpace request.systemPrompt) ++ history
  else history

inductive Translator where
  | claude
  | openAI

def Translator.history (request : TranslatedRequest) : Translator → History
  | .claude => claudeHistory request
  | .openAI => openAIHistory request

end Histories

section Payloads

/-- `quoted` is the verb `%q`. -/
def toolChoiceDirective (quoted : GoString → GoString) (kind toolName : GoString) : GoString :=
  if kind = lit "any" then
    lit "The client requires a tool call on this turn. Call at least one available tool."
  else if kind = lit "tool" then
    lit "The client requires the tool " ++ quoted toolName ++ lit " on this turn. Call that tool."
  else []

def finalContent (quoted : GoString → GoString) (request : TranslatedRequest)
    (attached : GoString) : GoString :=
  let content :=
    if attached = [] then
      if request.currentImages ≠ [] then normalizeUserContent [] true
      else minimalFallbackUserContent
    else attached
  match request.tools.tools with
  | [] => content
  | tool :: _ =>
      if request.choice = lit "any" || request.choice = lit "tool" then
        joinHistoryText content (toolChoiceDirective quoted request.choice tool.name)
      else content

/-- The payload of a request that needs no truncation. `enabled` is
`structuredToolHistoryEnabled()`, `order` the name map as the loop visits it. -/
def buildPayload (quoted : GoString → GoString) (enabled : Bool) (order : NameMap)
    (request : TranslatedRequest) (translator : Translator) : KiroPayload :=
  let attached := attachCurrentToolResults (translator.history request) request.currentContent
    request.currentToolResults request.choice
    (structuredToolHistoryNames enabled request.tools.tools order)
  let attachToolResults := if attached.2.2 then request.currentToolResults else []
  { current :=
      { content := finalContent quoted request attached.2.1
        modelID := request.modelID
        origin := origin
        images := request.currentImages
        documents := request.currentDocuments
        userInputMessageContext :=
          if request.tools.tools = [] && attachToolResults = [] then none
          else some ⟨request.tools.tools, attachToolResults⟩ }
    history := limitHistoryImages attached.1
    inferenceConfig := request.inferenceConfig
    toolNameMap := request.tools.nameMap }

theorem attach_history (history : History) (content : GoString) (results : List KiroToolResult)
    (choice : GoString) (declared : NameMap) :
    (attachCurrentToolResults history content results choice declared).1 =
      sanitizeKiroHistoryForTools history
        (if choice ≠ lit "none" &&
          currentToolResultsMatchLastAssistant history (collectToolResultIDs results) then
            collectToolResultIDs results else []) declared := by
  unfold attachCurrentToolResults
  simp only
  split_ifs
  · rfl
  · rfl
  · rfl
  · rfl

variable (quoted : GoString → GoString) (order : NameMap) (request : TranslatedRequest)
  (translator : Translator)

/-- The ids that the current message answers, if its results stay structured. -/
def answeredIDs : List GoString :=
  let ids := collectToolResultIDs request.currentToolResults
  if request.choice ≠ lit "none" &&
    currentToolResultsMatchLastAssistant (translator.history request) ids then ids else []

theorem built_history (enabled : Bool) :
    (buildPayload quoted enabled order request translator).history =
      limitHistoryImages (sanitizeKiroHistoryForTools (translator.history request)
        (answeredIDs request translator)
        (structuredToolHistoryNames enabled request.tools.tools order)) :=
  congrArg limitHistoryImages (attach_history _ _ _ _ _)

end Payloads

end KiroProxy.TranslatedRequests
