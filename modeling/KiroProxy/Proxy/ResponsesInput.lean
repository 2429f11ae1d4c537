import KiroProxy.Proxy.ResponsesTools

/-!
# Input of Responses requests

How `proxy/responses.go` reads input items as messages, the text of a message as
`proxy/translator.go` reads it, and the JSON of the output items, which clients send back as input.
-/

namespace KiroProxy.Responses

open GoStrings KiroTypes

set_option autoImplicit false

section Messages

/-- The `type` is always `function`. -/
structure ToolCall where
  id : GoString
  name : GoString
  arguments : GoString

structure OpenAIMessage where
  role : GoString
  content : Json
  toolCalls : List ToolCall
  toolCallID : GoString

def textMessage (role : GoString) (content : Json) : OpenAIMessage := ⟨role, content, [], []⟩

def callMessage (call : ToolCall) : OpenAIMessage := ⟨lit "assistant", .null, [call], []⟩

/-- A value that is no string is empty. -/
def stringField (fields : JsonFields) (key : GoString) : GoString :=
  match fields.get key with
  | some (.str text) => text
  | _ => []

/-- `extractOpenAITextPart`, whatever the type of the part is. -/
def extractOpenAITextPart (part : JsonFields) : GoString := stringField part (lit "text")

/-- The text of `extractOpenAIUserContent`. -/
def userContentText : Json → GoString
  | .str text => text
  | .obj part => extractOpenAITextPart part
  | .arr parts => parts.flatMap fun part =>
      match part with
      | .obj part => extractOpenAITextPart part
      | _ => []
  | _ => []

def blank (text : GoString) : Bool := trimSpace text == []

mutual

/-- Content without text is shown as JSON. -/
def extractOpenAIMessageText : Json → GoString
  | .null => []
  | .str text => text
  | .obj fields =>
      let text := userContentText (.obj fields)
      let nested := nestedText fields
      if !blank text then text
      else if !blank nested then nested
      else JsonText.marshal (.obj fields)
  | .arr items =>
      let text := userContentText (.arr items)
      let parts := partTexts items
      if !blank text then text
      else if parts.isEmpty then JsonText.marshal (.arr items)
      else parts.flatten
  | .bool value => JsonText.marshal (.bool value)
  | .num text => JsonText.marshal (.num text)

/-- The text of the field `content`. -/
def nestedText : List (GoString × Json) → GoString
  | [] => []
  | (key, value) :: fields =>
      if key = lit "content" then extractOpenAIMessageText value else nestedText fields

def partTexts : List Json → List GoString
  | [] => []
  | item :: items =>
      let text := extractOpenAIMessageText item
      if blank text then partTexts items else text :: partTexts items

end

def OpenAIMessage.text (message : OpenAIMessage) : GoString :=
  extractOpenAIMessageText message.content

end Messages

section Input

/-- What reading an input takes from outside: the letters of package `strings`, and how
`encoding/json` reads the declarations of a search. -/
structure InputOptions where
  letters : Letters
  decodeTools : Json → List ResponsesTool

variable (options : InputOptions)

/-- `developer` is a name of `system`. -/
def normalizeResponsesRole (role : GoString) : GoString :=
  let role := options.letters.toLower (trimSpace role)
  if role = lit "developer" ∨ role = lit "system" then lit "system" else role

def responseTextFromItem (item : JsonFields) : GoString :=
  firstString [item.get (lit "text"), item.get (lit "content"), item.get (lit "output")]

def textPartTypes : List GoString := [lit "input_text", lit "output_text", lit "refusal"]

def responsesContentPartToOpenAI : Json → Json
  | .obj part =>
      if stringField part (lit "type") ∈ textPartTypes then
        .obj [(lit "type", .str (lit "text")), (lit "text", .str (responseTextFromItem part))]
      else .obj part
  | part => part

def responsesContentToOpenAIContent : Json → Json
  | .arr parts => .arr (parts.map responsesContentPartToOpenAI)
  | .obj part => responsesContentPartToOpenAI (.obj part)
  | content => content

def agentPartText (part : JsonFields) : Option GoString :=
  let text := firstString [part.get (lit "text"), part.get (lit "encrypted_content")]
  if text ≠ [] then some text else none

/-- The texts of an `agent_message`. -/
def agentTexts (item : JsonFields) : List GoString :=
  match item.get (lit "content") with
  | some (.arr parts) => parts.filterMap fun part =>
      match part with
      | .obj part => agentPartText part
      | _ => none
  | _ => []

def toolOutputMessage (callID : GoString) (content : Json) : OpenAIMessage :=
  ⟨lit "tool", content, [], callID⟩

/-- Arguments that are no text are written out. -/
def callArguments (item : JsonFields) : GoString :=
  let arguments := firstString [item.get (lit "arguments")]
  if arguments ≠ [] then arguments
  else
    match item.get (lit "arguments") with
    | none => []
    | some value => JsonText.marshal value

def wrappedInput (input : GoString) : JsonFields := [(lit "input", .str input)]

def functionCallMessage (item : JsonFields) (arguments : GoString) : OpenAIMessage :=
  callMessage {
    id := firstString [item.get (lit "call_id"), item.get (lit "id")]
    name := qualifiedResponsesToolName (firstString [item.get (lit "namespace")])
      (firstString [item.get (lit "name")])
    arguments }

/-- A search that is called without an identifier is left out. -/
def toolSearchCallMessages (item : JsonFields) : List OpenAIMessage :=
  let callID := firstString [item.get (lit "call_id")]
  if callID = [] then []
  else
    let arguments := firstString [item.get (lit "arguments")]
    [callMessage {
      id := callID
      name := toolSearchToolType
      arguments :=
        if arguments ≠ [] then arguments
        else JsonText.marshal ((item.get (lit "arguments")).getD .null) }]

/-- The messages of an item that is an object. -/
def itemMessages (item : JsonFields) : Except GoString (List OpenAIMessage) :=
  let itemType := stringField item (lit "type")
  let role := normalizeResponsesRole options (stringField item (lit "role"))
  let content := responsesContentToOpenAIContent ((item.get (lit "content")).getD .null)
  if itemType = lit "additional_tools" then .ok []
  else if itemType = lit "agent_message" then
    let parts := agentTexts item
    if parts = [] then .error (lit "agent_message requires text content")
    else .ok [textMessage (lit "user") (.str (List.intercalate (lit "\n") parts))]
  else if itemType = [] ∨ itemType = lit "message" then
    .ok [textMessage (if role = [] then lit "user" else role) content]
  else if itemType = lit "input_text" then
    .ok [textMessage (lit "user") (.str (responseTextFromItem item))]
  else if itemType = lit "output_text" then
    .ok [textMessage (lit "assistant") (.str (responseTextFromItem item))]
  else if itemType = lit "function_call_output" ∨ itemType = lit "custom_tool_call_output" then
    .ok [toolOutputMessage
      (firstString [item.get (lit "call_id"), item.get (lit "tool_call_id"), item.get (lit "id")])
      (responsesContentToOpenAIContent (firstExisting item [lit "output", lit "content"]))]
  else if itemType = lit "tool_search_call" then .ok (toolSearchCallMessages item)
  else if itemType = lit "tool_search_output" then
    let callID := firstString [item.get (lit "call_id")]
    if callID = [] then .ok []
    else
      .ok [toolOutputMessage callID (.str (toolSearchOutputText options.letters
        options.decodeTools ((item.get (lit "tools")).getD .null)))]
  else if itemType = lit "function_call" then
    .ok [functionCallMessage item (callArguments item)]
  else if itemType = lit "custom_tool_call" then
    match item.get (lit "input") with
    | some (.str input) =>
        .ok [functionCallMessage item (JsonText.marshal (.obj (wrappedInput input)))]
    | _ => .error (lit "custom_tool_call input must be a string")
  else if role ≠ [] then .ok [textMessage role content]
  else if !blank itemType then .ok []
  else .error (lit "unsupported Responses input item type: " ++ itemType)

def responseInputItemToMessages : Json → Except GoString (List OpenAIMessage)
  | .obj item => itemMessages options item
  | _ => .error (lit "input item must be an object")

def OpenAIMessage.joins (last message : OpenAIMessage) : Bool :=
  last.role == lit "assistant" && message.role == lit "assistant" &&
    !last.toolCalls.isEmpty && !message.toolCalls.isEmpty && blank last.text && blank message.text

/-- Calls that follow calls are one message. -/
def appendResponseMessage (messages : List OpenAIMessage) (message : OpenAIMessage) :
    List OpenAIMessage :=
  match messages.getLast? with
  | some last =>
      if last.joins message then
        messages.dropLast ++ [{ last with toolCalls := last.toolCalls ++ message.toolCalls }]
      else messages ++ [message]
  | none => messages ++ [message]

def appendResponseMessages (messages next : List OpenAIMessage) : List OpenAIMessage :=
  next.foldl appendResponseMessage messages

def responsesItemsToMessages (messages : List OpenAIMessage) :
    List Json → Except GoString (List OpenAIMessage)
  | [] => .ok messages
  | item :: items => do
      let next ← responseInputItemToMessages options item
      responsesItemsToMessages (appendResponseMessages messages next) items

/-- An input that is missing is null. -/
def responsesInputToMessages : Json → Except GoString (List OpenAIMessage)
  | .null => .ok []
  | .str text => .ok (if blank text then [] else [textMessage (lit "user") (.str text)])
  | .arr items => responsesItemsToMessages options [] items
  | .obj item => itemMessages options item
  | _ => .error (lit "input must be a string or array")

end Input

section Items

def jsonText (text : String) : Json := .str (lit text)

/-- `buildResponsesMessageOutputItem`. -/
def messageItemJson (id content : GoString) : JsonFields :=
  [(lit "id", .str id), (lit "type", jsonText "message"), (lit "status", jsonText "completed"),
    (lit "role", jsonText "assistant"),
    (lit "content", .arr [.obj [(lit "type", jsonText "output_text"),
      (lit "text", .str content), (lit "annotations", .arr [])]])]

def reasoningParts (type : String) (reasoning : GoString) : Json :=
  .arr (if reasoning ≠ [] then
    [.obj [(lit "type", jsonText type), (lit "text", .str reasoning)]] else [])

/-- `buildResponsesReasoningOutputItemWithID`. -/
def reasoningItemJson (id reasoning : GoString) : JsonFields :=
  [(lit "id", .str id), (lit "type", jsonText "reasoning"), (lit "status", jsonText "completed"),
    (lit "summary", reasoningParts "summary_text" reasoning),
    (lit "content", reasoningParts "reasoning_text" reasoning)]

def ToolContent.itemType : ToolContent → String
  | .arguments _ => "function_call"
  | .input _ => "custom_tool_call"
  | .search _ => "tool_search_call"

def ToolContent.members : ToolContent → JsonFields
  | .arguments written => [(lit "arguments", .str written)]
  | .input written => [(lit "input", .str written)]
  | .search fields => [(lit "execution", jsonText "client"), (lit "arguments", .obj fields)]

def ToolOutputItem.members (item : ToolOutputItem) : JsonFields :=
  [(lit "id", .str item.id), (lit "type", jsonText item.content.itemType),
    (lit "status", jsonText "completed"), (lit "call_id", .str item.id)] ++
  ((match item.name with
    | some name => [(lit "name", .str name)]
    | none => []) ++
  ((if item.namespace_ ≠ [] then [(lit "namespace", .str item.namespace_)] else []) ++
  item.content.members))

def OutputItem.json : OutputItem → Json
  | .text .message id content => .obj (messageItemJson id content)
  | .text .reasoning id reasoning => .obj (reasoningItemJson id reasoning)
  | .tool item => .obj item.members

end Items

end KiroProxy.Responses
