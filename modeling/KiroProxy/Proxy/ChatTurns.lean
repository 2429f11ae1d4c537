import KiroProxy.Foundation.Grouping
import KiroProxy.Proxy.Documents
import KiroProxy.Proxy.HistoryMedia
import KiroProxy.Proxy.TranslatedRequests

/-!
# Turns of chat messages

How `OpenAIToKiro` of `proxy/translator.go` reads the messages of a chat request: the system
prompt, the turns of the history and the current message. The loop carries the results and the
images of tool messages along until a message that is of no tool.
-/

namespace KiroProxy.ChatTurns

open Documents
open FollowupPayloads (InferenceConfig)
open Foundation.Grouping GoStrings InlineMedia KiroTypes OpenAITools Responses
open ToolDeclarations (openAIDeclaration)
open ToolHistory TranslatedRequests

set_option autoImplicit false

section Conversations

variable {β : Type}

/-- The turns that a translator has read, and the message that it sends last. -/
structure Conversation where
  turns : List TranslatedTurn
  currentContent : GoString
  currentImages : List KiroImage
  currentDocuments : List KiroDocument
  currentToolResults : List KiroToolResult

def noMessages : Conversation := ⟨[], [], [], [], []⟩

def turnImages : TranslatedTurn → List KiroImage
  | .user _ images _ _ => images
  | .assistant _ _ => []

def turnDocuments : TranslatedTurn → List KiroDocument
  | .user _ _ documents _ => documents
  | .assistant _ _ => []

def turnToolResults : TranslatedTurn → List KiroToolResult
  | .user _ _ _ toolResults => toolResults
  | .assistant _ _ => []

def turnToolUses : TranslatedTurn → List KiroToolUse
  | .user _ _ _ _ => []
  | .assistant _ toolUses => toolUses

namespace Conversation

variable (read : Conversation)

def images : List KiroImage := read.turns.flatMap turnImages ++ read.currentImages

def documents : List KiroDocument := read.turns.flatMap turnDocuments ++ read.currentDocuments

def toolResults : List KiroToolResult :=
  read.turns.flatMap turnToolResults ++ read.currentToolResults

def toolUses : List KiroToolUse := read.turns.flatMap turnToolUses

/-- Nothing waits for the last message. -/
def Settled : Prop :=
  read.currentContent = [] ∧ read.currentImages = [] ∧ read.currentDocuments = [] ∧
    read.currentToolResults = []

end Conversation

/-- One more turn, if it is one; a user's turn that comes last is the current message. -/
def push (read : Conversation) (turn : Option TranslatedTurn) (last : Bool) : Conversation :=
  match turn, last with
  | some (.user content images documents toolResults), true =>
      ⟨read.turns, content, images, documents, toolResults⟩
  | turn, _ => { read with turns := read.turns ++ turn.toList }

/-- The conversation that turns make one after the other. -/
def conversation (turns : List (Option TranslatedTurn)) : Conversation :=
  scan (fun read turn next => push read turn next.isNone) noMessages turns

theorem push_settled (read : Conversation) (turn : Option TranslatedTurn)
    (settled : read.Settled) : (push read turn false).Settled := by
  cases turn with
  | none => exact settled
  | some turn => cases turn <;> exact settled

theorem push_images (read : Conversation) (turn : Option TranslatedTurn) (last : Bool)
    (settled : read.Settled) :
    (push read turn last).images = read.images ++ turn.toList.flatMap turnImages := by
  obtain ⟨_, images, _, _⟩ := settled
  rcases turn with _ | _ | _ <;> cases last <;>
    simp [push, Conversation.images, images, turnImages]

theorem push_documents (read : Conversation) (turn : Option TranslatedTurn) (last : Bool)
    (settled : read.Settled) :
    (push read turn last).documents = read.documents ++ turn.toList.flatMap turnDocuments := by
  obtain ⟨_, _, documents, _⟩ := settled
  rcases turn with _ | _ | _ <;> cases last <;>
    simp [push, Conversation.documents, documents, turnDocuments]

theorem push_tool_results (read : Conversation) (turn : Option TranslatedTurn) (last : Bool)
    (settled : read.Settled) :
    (push read turn last).toolResults =
      read.toolResults ++ turn.toList.flatMap turnToolResults := by
  obtain ⟨_, _, _, toolResults⟩ := settled
  rcases turn with _ | _ | _ <;> cases last <;>
    simp [push, Conversation.toolResults, toolResults, turnToolResults]

theorem push_tool_uses (read : Conversation) (turn : Option TranslatedTurn) (last : Bool)
    (_ : read.Settled) :
    (push read turn last).toolUses = read.toolUses ++ turn.toList.flatMap turnToolUses := by
  rcases turn with _ | _ | _ <;> cases last <;>
    simp [push, Conversation.toolUses, turnToolUses]

/-- What is read of turns is in the conversation, whichever of them is the current message. -/
theorem scan_push (part : TranslatedTurn → List β) (whole : Conversation → List β)
    (pushed : ∀ read turn last, read.Settled →
      whole (push read turn last) = whole read ++ turn.toList.flatMap part)
    (turns : List (Option TranslatedTurn)) (read : Conversation) (settled : read.Settled) :
    whole (scan (fun read turn next => push read turn next.isNone) read turns) =
      whole read ++ turns.flatMap fun turn => turn.toList.flatMap part := by
  induction turns generalizing read with
  | nil => simp [scan]
  | cons turn turns ih =>
      cases turns with
      | nil => simpa [scan] using pushed read turn true settled
      | cons next turns =>
          rw [scan, List.head?_cons, Option.isNone_some, ih _ (push_settled read turn settled),
            pushed read turn false settled]
          simp only [List.flatMap_cons, List.append_assoc]

theorem conversation_parts (part : TranslatedTurn → List β) (whole : Conversation → List β)
    (pushed : ∀ read turn last, read.Settled →
      whole (push read turn last) = whole read ++ turn.toList.flatMap part)
    (start : whole noMessages = []) (turns : List (Option TranslatedTurn)) :
    whole (conversation turns) = turns.flatMap fun turn => turn.toList.flatMap part := by
  rw [conversation, scan_push part whole pushed turns noMessages ⟨rfl, rfl, rfl, rfl⟩, start,
    List.nil_append]

end Conversations

section ChatMessages

variable (letters : Letters) (unmarshal : GoString → Option JsonFields)

def toolResultImagePlaceholder : GoString :=
  lit "[Tool returned an image; the image is attached to this message.]"

/-- The images of `extractOpenAIUserContent`. -/
def userContentImages : Json → List KiroImage
  | .obj part => (extractImageFromOpenAIPart letters (.obj part)).toList
  | .arr parts => parts.filterMap (extractImageFromOpenAIPart letters)
  | _ => []

def extractOpenAIUserContent (content : Json) : GoString × List KiroImage :=
  (userContentText content, userContentImages letters content)

/-- Arguments that are no object are left out. -/
def toolUse (call : ToolCall) : KiroToolUse where
  toolUseID := call.id
  name := call.name
  input := (unmarshal call.arguments).getD []

def toolResultText (msg : OpenAIMessage) : GoString :=
  let (cleanText, toolImages) := extractOpenAIUserContent letters msg.content
  if toolImages ≠ [] then
    let content := trimSpace cleanText
    if content = [] then toolResultImagePlaceholder else content
  else msg.text

def toolResult (msg : OpenAIMessage) : KiroToolResult where
  toolUseID := msg.toolCallID
  content := [⟨toolResultText letters msg⟩]
  status := lit "success"

/-- One round of the loop. The results and the images of tools wait for the last of their run. -/
def readMessage (read : Conversation) (msg : OpenAIMessage) (next : Option OpenAIMessage) :
    Conversation :=
  if msg.role = lit "user" then
    let (content, images) := extractOpenAIUserContent letters msg.content
    let documents := extractDocuments letters msg.content
    let content :=
      normalizeDocumentUserContent (normalizeUserContent content (images ≠ [])) documents
    if next.isNone then
      { read with
        currentContent := content
        currentImages := images
        currentDocuments := documents }
    else { read with turns := read.turns ++ [.user content images documents []] }
  else if msg.role = lit "assistant" then
    { read with
      turns := read.turns ++ [.assistant msg.text (msg.toolCalls.map (toolUse unmarshal))] }
  else if msg.role = lit "tool" then
    let (_, toolImages) := extractOpenAIUserContent letters msg.content
    let read := { read with
      currentImages := read.currentImages ++ toolImages
      currentToolResults := read.currentToolResults ++ [toolResult letters msg] }
    match next with
    | none => read
    | some other =>
        if other.role = lit "tool" then read
        else { read with
          turns := read.turns ++ [.user [] read.currentImages [] read.currentToolResults]
          currentImages := []
          currentToolResults := [] }
  else read

def readMessages (messages : List OpenAIMessage) : Conversation :=
  scan (readMessage letters unmarshal) noMessages messages

end ChatMessages

section Requests

def thinkingModePrompt : GoString :=
  lit "<thinking_mode>enabled</thinking_mode>\n<max_thinking_length>200000</max_thinking_length>"

/-- `toolChoice` is what `openAIToolChoice` makes of the choice: its kind and the name. -/
structure OpenAIRequest where
  modelID : GoString
  messages : List OpenAIMessage
  tools : List OpenAITool
  toolChoice : GoString × GoString
  inferenceConfig : Option InferenceConfig

/-- `developer` is the newer name of `system`. -/
def isSystem (msg : OpenAIMessage) : Bool :=
  msg.role == lit "system" || msg.role == lit "developer"

def systemText (msg : OpenAIMessage) : GoString :=
  if isSystem msg ∧ msg.text ≠ [] then msg.text ++ lit "\n" else []

def openAISystemPrompt (messages : List OpenAIMessage) (thinking : Bool) : GoString :=
  let systemPrompt := messages.flatMap systemText
  if thinking then thinkingModePrompt ++ lit "\n\n" ++ systemPrompt else systemPrompt

def nonSystemMessages (messages : List OpenAIMessage) : List OpenAIMessage :=
  messages.filter (!isSystem ·)

/-- The tools that the choice leaves. -/
def chosenTools (request : OpenAIRequest) : List OpenAITool :=
  let (choice, name) := request.toolChoice
  if choice = lit "none" then []
  else if choice = lit "tool" then request.tools.filter (·.name = name)
  else request.tools

/-- What `OpenAIToKiro` reads of a request. -/
def openAIRequest (letters : Letters) (unmarshal : GoString → Option JsonFields)
    (request : OpenAIRequest) (thinking : Bool) : TranslatedRequest :=
  let read := readMessages letters unmarshal (nonSystemMessages request.messages)
  { modelID := request.modelID
    systemPrompt := openAISystemPrompt request.messages thinking
    turns := read.turns
    currentContent := read.currentContent
    currentImages := read.currentImages
    currentDocuments := read.currentDocuments
    currentToolResults := read.currentToolResults
    choice := request.toolChoice.1
    tools := openAIDeclaration letters (chosenTools request)
    inferenceConfig := request.inferenceConfig }

end Requests

section Runs

variable (letters : Letters) (unmarshal : GoString → Option JsonFields)

def isTool (msg : OpenAIMessage) : Bool := msg.role == lit "tool"

/-- Tool messages that follow each other are answered in one turn. -/
def sameRun (msg next : OpenAIMessage) : Bool := isTool msg && isTool next

def messageImages (msg : OpenAIMessage) : List KiroImage := userContentImages letters msg.content

/-- The turn of a run of messages. -/
def runTurn : List OpenAIMessage → Option TranslatedTurn
  | [] => none
  | msg :: run =>
      if msg.role = lit "user" then
        let images := messageImages letters msg
        let documents := extractDocuments letters msg.content
        some (.user
          (normalizeDocumentUserContent
            (normalizeUserContent (userContentText msg.content) (images ≠ [])) documents)
          images documents [])
      else if msg.role = lit "assistant" then
        some (.assistant msg.text (msg.toolCalls.map (toolUse unmarshal)))
      else if msg.role = lit "tool" then
        some (.user [] ((msg :: run).flatMap (messageImages letters)) []
          ((msg :: run).map (toolResult letters)))
      else none

/-- The loop on a whole run, from any state. -/
def readRun (read : Conversation) (run : List OpenAIMessage) (last : Bool) : Conversation :=
  match run with
  | [] => read
  | msg :: _ =>
      if msg.role = lit "tool" then
        let images := read.currentImages ++ run.flatMap (messageImages letters)
        let toolResults := read.currentToolResults ++ run.map (toolResult letters)
        if last then { read with currentImages := images, currentToolResults := toolResults }
        else { read with
          turns := read.turns ++ [.user [] images [] toolResults]
          currentImages := []
          currentToolResults := [] }
      else
        readMessage letters unmarshal read msg (if last then none else some msg)

theorem read_alone (read : Conversation) (msg : OpenAIMessage) (next : Option OpenAIMessage)
    (apart : ∀ other ∈ next, sameRun msg other = false) :
    readMessage letters unmarshal read msg next =
      readRun letters unmarshal read [msg] next.isNone := by
  by_cases tool : msg.role = lit "tool"
  · have other : msg.role ≠ lit "user" ∧ msg.role ≠ lit "assistant" := by
      rw [tool]
      decide
    rw [readMessage, readRun, if_neg other.1, if_neg other.2, if_pos tool, if_pos tool]
    cases next with
    | none => simp [extractOpenAIUserContent, messageImages]
    | some next =>
        have foreign : next.role ≠ lit "tool" := by
          intro same
          have joined := apart next rfl
          simp [sameRun, isTool, tool, same] at joined
        simp [extractOpenAIUserContent, messageImages, foreign]
  · rw [readRun, if_neg tool, readMessage, readMessage, if_neg tool, if_neg tool]
    cases next <;> rfl

theorem read_within_run (read : Conversation) (msg other : OpenAIMessage)
    (run : List OpenAIMessage) (last : Bool) (joined : sameRun msg other = true) :
    readRun letters unmarshal (readMessage letters unmarshal read msg (some other))
        (other :: run) last =
      readRun letters unmarshal read (msg :: other :: run) last := by
  simp only [sameRun, isTool, Bool.and_eq_true, beq_iff_eq] at joined
  have kind : msg.role ≠ lit "user" ∧ msg.role ≠ lit "assistant" := by
    rw [joined.1]
    decide
  have passed : readMessage letters unmarshal read msg (some other) =
      { read with
        currentImages := read.currentImages ++ messageImages letters msg
        currentToolResults := read.currentToolResults ++ [toolResult letters msg] } := by
    rw [readMessage, if_neg kind.1, if_neg kind.2, if_pos joined.1]
    simp only [if_pos joined.2]
    rfl
  rw [passed, readRun, readRun, if_pos joined.1, if_pos joined.2]
  simp

/-- A run that starts with nothing left to send is one turn. -/
theorem read_run_settled (read : Conversation) (run : List OpenAIMessage) (last : Bool)
    (settled : read.Settled) :
    readRun letters unmarshal read run last =
      push read (runTurn letters unmarshal run) last := by
  obtain ⟨content, images, documents, toolResults⟩ := settled
  cases run with
  | nil => cases last <;> simp [readRun, runTurn, push]
  | cons msg run =>
      by_cases tool : msg.role = lit "tool"
      · have kind : msg.role ≠ lit "user" ∧ msg.role ≠ lit "assistant" := by
          rw [tool]
          decide
        rw [readRun, runTurn, if_pos tool, if_neg kind.1, if_neg kind.2, if_pos tool]
        cases last with
        | true => simp [push, content, images, documents, toolResults]
        | false => simp [push, ← images, ← toolResults]
      · rw [readRun, if_neg tool, readMessage, runTurn]
        by_cases user : msg.role = lit "user"
        · rw [if_pos user, if_pos user]
          cases last with
          | true =>
              simp only [push, ← toolResults]
              rfl
          | false => rfl
        · rw [if_neg user, if_neg user, if_neg tool, if_neg tool]
          by_cases assistant : msg.role = lit "assistant"
          · rw [if_pos assistant, if_pos assistant]
            cases last <;> rfl
          · rw [if_neg assistant, if_neg assistant]
            cases last <;> simp [push]

theorem messages_read (messages : List OpenAIMessage) :
    readMessages letters unmarshal messages =
      conversation ((messages.splitBy sameRun).map (runTurn letters unmarshal)) := by
  calc readMessages letters unmarshal messages
    _ = scan (fun read run next => readRun letters unmarshal read run next.isNone) noMessages
          (messages.splitBy sameRun) :=
        scan_groups sameRun (readMessage letters unmarshal) (readRun letters unmarshal)
          (read_alone letters unmarshal) (read_within_run letters unmarshal) noMessages messages
    _ = scan (fun read run next => push read (runTurn letters unmarshal run) next.isNone)
          noMessages (messages.splitBy sameRun) := by
        apply scan_within _ _ Conversation.Settled
        · intro read run next settled
          exact read_run_settled letters unmarshal read run next.isNone settled
        · intro read run next settled
          exact push_settled read (runTurn letters unmarshal run) settled
        · exact ⟨rfl, rfl, rfl, rfl⟩
    _ = conversation ((messages.splitBy sameRun).map (runTurn letters unmarshal)) := by
        rw [conversation, scan_map]
        simp only [Option.isNone_map]

end Runs

section Parts

variable {β : Type} (letters : Letters) (unmarshal : GoString → Option JsonFields)

/-- The images that a message brings. -/
def sentImages (msg : OpenAIMessage) : List KiroImage :=
  if msg.role = lit "user" ∨ msg.role = lit "tool" then messageImages letters msg else []

def sentDocuments (msg : OpenAIMessage) : List KiroDocument :=
  if msg.role = lit "user" then extractDocuments letters msg.content else []

def sentToolResults (msg : OpenAIMessage) : List KiroToolResult :=
  if msg.role = lit "tool" then [toolResult letters msg] else []

def sentToolUses (msg : OpenAIMessage) : List KiroToolUse :=
  if msg.role = lit "assistant" then msg.toolCalls.map (toolUse unmarshal) else []

/-- A run is one message or consists of tool messages. -/
theorem run_cases (run : List OpenAIMessage) (nonempty : run ≠ [])
    (chain : run.IsChain fun msg next => sameRun msg next = true) :
    (∃ msg, run = [msg]) ∨ ∀ msg ∈ run, msg.role = lit "tool" := by
  induction run with
  | nil => exact absurd rfl nonempty
  | cons first run ih =>
      cases run with
      | nil => exact Or.inl ⟨first, rfl⟩
      | cons second run =>
          rw [List.isChain_cons_cons] at chain
          obtain ⟨joined, rest⟩ := chain
          simp only [sameRun, isTool, Bool.and_eq_true, beq_iff_eq] at joined
          refine Or.inr fun msg member => ?_
          obtain rfl | member := List.mem_cons.mp member
          · exact joined.1
          · obtain ⟨alone, same⟩ | tools := ih (List.cons_ne_nil _ _) rest
            · cases same
              obtain rfl := List.mem_singleton.mp member
              exact joined.2
            · exact tools msg member

/-- What messages bring is in their conversation, in their order. -/
theorem parts_kept (part : TranslatedTurn → List β) (whole : Conversation → List β)
    (sent : OpenAIMessage → List β)
    (pushed : ∀ read turn last, read.Settled →
      whole (push read turn last) = whole read ++ turn.toList.flatMap part)
    (alone : ∀ msg, (runTurn letters unmarshal [msg]).toList.flatMap part = sent msg)
    (tools : ∀ run : List OpenAIMessage, run ≠ [] → (∀ msg ∈ run, msg.role = lit "tool") →
      (runTurn letters unmarshal run).toList.flatMap part = run.flatMap sent)
    (start : whole noMessages = []) (messages : List OpenAIMessage) :
    whole (readMessages letters unmarshal messages) = messages.flatMap sent := by
  have turns : ∀ run ∈ messages.splitBy sameRun,
      (runTurn letters unmarshal run).toList.flatMap part = run.flatMap sent := by
    intro run member
    have nonempty := List.ne_nil_of_mem_splitBy member
    obtain ⟨msg, rfl⟩ | all := run_cases run nonempty (List.isChain_of_mem_splitBy member)
    · simpa using alone msg
    · exact tools run nonempty all
  rw [messages_read, conversation_parts part whole pushed start, List.flatMap_map]
  conv_rhs => rw [← List.flatten_splitBy sameRun messages]
  rw [List.flatten_eq_flatMap, List.flatMap_assoc]
  exact List.flatMap_congr turns

theorem roles_apart :
    lit "user" ≠ lit "assistant" ∧ lit "user" ≠ lit "tool" ∧ lit "assistant" ≠ lit "user" ∧
      lit "assistant" ≠ lit "tool" ∧ lit "tool" ≠ lit "user" ∧ lit "tool" ≠ lit "assistant" := by
  decide

/-- The turn of a message for itself. -/
theorem alone_turn (msg : OpenAIMessage) :
    (msg.role = lit "user" ∧ ∃ content, runTurn letters unmarshal [msg] =
      some (.user content (messageImages letters msg) (extractDocuments letters msg.content) [])) ∨
    (msg.role = lit "assistant" ∧ runTurn letters unmarshal [msg] =
      some (.assistant msg.text (msg.toolCalls.map (toolUse unmarshal)))) ∨
    (msg.role = lit "tool" ∧ runTurn letters unmarshal [msg] =
      some (.user [] (messageImages letters msg) [] [toolResult letters msg])) ∨
    (msg.role ≠ lit "user" ∧ msg.role ≠ lit "assistant" ∧ msg.role ≠ lit "tool" ∧
      runTurn letters unmarshal [msg] = none) := by
  by_cases user : msg.role = lit "user"
  · exact Or.inl ⟨user, _, by rw [runTurn, if_pos user]⟩
  · by_cases assistant : msg.role = lit "assistant"
    · exact Or.inr (Or.inl ⟨assistant, by rw [runTurn, if_neg user, if_pos assistant]⟩)
    · by_cases tool : msg.role = lit "tool"
      · refine Or.inr (Or.inr (Or.inl ⟨tool, ?_⟩))
        rw [runTurn, if_neg user, if_neg assistant, if_pos tool]
        simp
      · refine Or.inr (Or.inr (Or.inr ⟨user, assistant, tool, ?_⟩))
        rw [runTurn, if_neg user, if_neg assistant, if_neg tool]

/-- A run of tool messages as one turn. -/
theorem tools_turn (run : List OpenAIMessage) (nonempty : run ≠ [])
    (tools : ∀ msg ∈ run, msg.role = lit "tool") :
    runTurn letters unmarshal run =
      some (.user [] (run.flatMap (messageImages letters)) []
        (run.map (toolResult letters))) := by
  cases run with
  | nil => exact absurd rfl nonempty
  | cons msg run =>
      have tool := tools msg (List.mem_cons_self ..)
      have kind : msg.role ≠ lit "user" ∧ msg.role ≠ lit "assistant" := by
        rw [tool]
        decide
      rw [runTurn, if_neg kind.1, if_neg kind.2, if_pos tool]

/-- What `OpenAIToKiro` reads of messages: one turn for each message and one for each run of tool
messages. The images, the documents, the results and the calls are those of the messages. -/
structure MessagesRead (messages : List OpenAIMessage) (read : Conversation) : Prop where
  turns : read = conversation ((messages.splitBy sameRun).map (runTurn letters unmarshal))
  images : read.images = messages.flatMap (sentImages letters)
  documents : read.documents = messages.flatMap (sentDocuments letters)
  toolResults : read.toolResults = messages.flatMap (sentToolResults letters)
  toolUses : read.toolUses = messages.flatMap (sentToolUses unmarshal)

theorem conversation_read (messages : List OpenAIMessage) :
    MessagesRead letters unmarshal messages (readMessages letters unmarshal messages) where
  turns := messages_read letters unmarshal messages
  images := by
    apply parts_kept letters unmarshal turnImages Conversation.images (sentImages letters)
    · exact push_images
    · intro msg
      obtain ⟨role, content, turn⟩ | ⟨role, turn⟩ | ⟨role, turn⟩ | ⟨user, assistant, tool, turn⟩ :=
        alone_turn letters unmarshal msg
      all_goals rw [turn]
      · simp [turnImages, sentImages, role]
      · simp [turnImages, sentImages, role, roles_apart]
      · simp [turnImages, sentImages, role]
      · simp [sentImages, user, tool]
    · intro run nonempty tools
      rw [tools_turn letters unmarshal run nonempty tools]
      simp only [turnImages, Option.toList_some, List.flatMap_singleton]
      apply List.flatMap_congr
      intro msg member
      rw [sentImages, if_pos (Or.inr (tools msg member))]
    · rfl
  documents := by
    apply parts_kept letters unmarshal turnDocuments Conversation.documents (sentDocuments letters)
    · exact push_documents
    · intro msg
      obtain ⟨role, content, turn⟩ | ⟨role, turn⟩ | ⟨role, turn⟩ | ⟨user, assistant, tool, turn⟩ :=
        alone_turn letters unmarshal msg
      all_goals rw [turn]
      · simp [turnDocuments, sentDocuments, role]
      · simp [turnDocuments, sentDocuments, role, roles_apart]
      · simp [turnDocuments, sentDocuments, role, roles_apart]
      · simp [sentDocuments, user]
    · intro run nonempty tools
      rw [tools_turn letters unmarshal run nonempty tools]
      symm
      simp only [turnDocuments, Option.toList_some, List.flatMap_singleton,
        List.flatMap_eq_nil_iff]
      intro msg member
      rw [sentDocuments, tools msg member, if_neg roles_apart.2.2.2.2.1]
    · rfl
  toolResults := by
    apply parts_kept letters unmarshal turnToolResults Conversation.toolResults
      (sentToolResults letters)
    · exact push_tool_results
    · intro msg
      obtain ⟨role, content, turn⟩ | ⟨role, turn⟩ | ⟨role, turn⟩ | ⟨user, assistant, tool, turn⟩ :=
        alone_turn letters unmarshal msg
      all_goals rw [turn]
      · simp [turnToolResults, sentToolResults, role, roles_apart]
      · simp [turnToolResults, sentToolResults, role, roles_apart]
      · simp [turnToolResults, sentToolResults, role]
      · simp [sentToolResults, tool]
    · intro run nonempty tools
      rw [tools_turn letters unmarshal run nonempty tools]
      simp only [turnToolResults, Option.toList_some, List.flatMap_singleton,
        List.map_eq_flatMap]
      apply List.flatMap_congr
      intro msg member
      rw [sentToolResults, if_pos (tools msg member)]
    · rfl
  toolUses := by
    apply parts_kept letters unmarshal turnToolUses Conversation.toolUses (sentToolUses unmarshal)
    · exact push_tool_uses
    · intro msg
      obtain ⟨role, content, turn⟩ | ⟨role, turn⟩ | ⟨role, turn⟩ | ⟨user, assistant, tool, turn⟩ :=
        alone_turn letters unmarshal msg
      all_goals rw [turn]
      · simp [turnToolUses, sentToolUses, role, roles_apart]
      · simp [turnToolUses, sentToolUses, role]
      · simp [turnToolUses, sentToolUses, role, roles_apart]
      · simp [sentToolUses, assistant]
    · intro run nonempty tools
      rw [tools_turn letters unmarshal run nonempty tools]
      symm
      simp only [turnToolUses, Option.toList_some, List.flatMap_singleton,
        List.flatMap_eq_nil_iff]
      intro msg member
      rw [sentToolUses, tools msg member, if_neg roles_apart.2.2.2.2.2]
    · rfl

/-- The conversation in a request that has been read. -/
def readOf (request : TranslatedRequest) : Conversation where
  turns := request.turns
  currentContent := request.currentContent
  currentImages := request.currentImages
  currentDocuments := request.currentDocuments
  currentToolResults := request.currentToolResults

/-- A system message does not end a run of tool messages. -/
theorem openai_request_read (request : OpenAIRequest) (thinking : Bool) :
    MessagesRead letters unmarshal (nonSystemMessages request.messages)
      (readOf (openAIRequest letters unmarshal request thinking)) :=
  conversation_read letters unmarshal (nonSystemMessages request.messages)

/-- Two results of one turn, around an instruction; the text behind them is sent last. -/
def answeredMessages : List OpenAIMessage :=
  [textMessage (lit "user") (.str (lit "Go")),
    ⟨lit "assistant", .null, [⟨lit "a", lit "f", []⟩, ⟨lit "b", lit "f", []⟩], []⟩,
    ⟨lit "tool", .str (lit "1"), [], lit "a"⟩, textMessage (lit "developer") (.str (lit "Briefly")),
    ⟨lit "tool", .str (lit "2"), [], lit "b"⟩, textMessage (lit "user") (.str (lit "Thanks"))]

example :
    let read := readMessages asciiLetters (fun _ => none) (nonSystemMessages answeredMessages)
    read.turns.map (fun turn => (turnToolResults turn).map KiroToolResult.toolUseID) =
        [[], [], [lit "a", lit "b"]] ∧
      read.currentContent = lit "Thanks" := by decide

end Parts

end KiroProxy.ChatTurns
