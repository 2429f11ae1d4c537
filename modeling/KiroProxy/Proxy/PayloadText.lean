import KiroProxy.JsonText
import KiroProxy.Proxy.FollowupPayloads
import Mathlib.Algebra.BigOperators.Ring.Finset
import Mathlib.Algebra.Order.BigOperators.Group.List
import Mathlib.Algebra.Order.Ring.Nat

/-!
# The text of a payload

What `json.Marshal` writes of the types of `proxy/kiro.go`, and the sizes
`proxy/translator.go` counts: inline media bytes are left out of them.
-/

namespace KiroProxy.PayloadText

open FollowupPayloads JsonText KiroTypes ToolHistory

set_option autoImplicit false

/-- A payload with everything that is sent. The two sampling numbers are the texts they are
written as, none where they are zero. -/
structure SentPayload extends KiroPayload where
  agentContinuationId : GoString
  agentTaskType : GoString
  chatTriggerType : GoString
  conversationID : GoString
  profileArn : GoString
  temperature : Option GoString
  topP : Option GoString
  additionalModelRequestFields : JsonFields

section Texts

def marshalImage (image : KiroImage) : GoString :=
  marshalObject [marshalMember (lit "format") (marshalString image.format),
    marshalMember (lit "source")
      (marshalObject [marshalMember (lit "bytes") (marshalString image.bytes)])]

def marshalDocument (document : KiroDocument) : GoString :=
  marshalObject [marshalMember (lit "format") (marshalString document.format),
    marshalMember (lit "name") (marshalString document.name),
    marshalMember (lit "source")
      (marshalObject [marshalMember (lit "bytes") (marshalString document.bytes)])]

def marshalTool (tool : KiroToolWrapper) : GoString :=
  marshalObject [marshalMember (lit "toolSpecification")
    (marshalObject [marshalMember (lit "name") (marshalString tool.name),
      marshalMember (lit "description") (marshalString tool.description),
      marshalMember (lit "inputSchema")
        (marshalObject [marshalMember (lit "json") (marshal tool.inputSchema)])])]

/-- An empty list of contents is a nil slice. -/
def marshalToolResult (result : KiroToolResult) : GoString :=
  marshalObject [marshalMember (lit "toolUseId") (marshalString result.toolUseID),
    marshalMember (lit "content")
      (if result.content = [] then lit "null"
      else marshalArray (result.content.map fun content =>
        marshalObject [marshalMember (lit "text") (marshalString content.text)])),
    marshalMember (lit "status") (marshalString result.status)]

def marshalContext (context : UserInputMessageContext) : GoString :=
  marshalObject
    (marshalOptional context.tools.isEmpty (lit "tools")
        (marshalArray (context.tools.map marshalTool)) ++
      marshalOptional context.toolResults.isEmpty (lit "toolResults")
        (marshalArray (context.toolResults.map marshalToolResult)))

def marshalUser (user : KiroUserInputMessage) : GoString :=
  marshalObject
    ([marshalMember (lit "content") (marshalString user.content)] ++
      marshalOptional (user.modelID = []) (lit "modelId") (marshalString user.modelID) ++
      [marshalMember (lit "origin") (marshalString user.origin)] ++
      marshalOptional user.images.isEmpty (lit "images")
        (marshalArray (user.images.map marshalImage)) ++
      marshalOptional user.documents.isEmpty (lit "documents")
        (marshalArray (user.documents.map marshalDocument)) ++
      user.userInputMessageContext.toList.map fun context =>
        marshalMember (lit "userInputMessageContext") (marshalContext context))

def marshalToolUse (use : KiroToolUse) : GoString :=
  marshalObject [marshalMember (lit "toolUseId") (marshalString use.toolUseID),
    marshalMember (lit "name") (marshalString use.name),
    marshalMember (lit "input") (marshal (.obj use.input))]

def marshalAssistant (assistant : KiroAssistantResponseMessage) : GoString :=
  marshalObject
    ([marshalMember (lit "content") (marshalString assistant.content)] ++
      marshalOptional assistant.toolUses.isEmpty (lit "toolUses")
        (marshalArray (assistant.toolUses.map marshalToolUse)))

def marshalMessage (msg : KiroHistoryMessage) : GoString :=
  marshalObject
    ((msg.userInputMessage.toList.map fun user =>
        marshalMember (lit "userInputMessage") (marshalUser user)) ++
      msg.assistantResponseMessage.toList.map fun assistant =>
        marshalMember (lit "assistantResponseMessage") (marshalAssistant assistant))

def marshalHistory (history : History) : List GoString :=
  marshalOptional history.isEmpty (lit "history") (marshalArray (history.map marshalMessage))

/-- The members of `conversationState` before the history. -/
def stateMembers (payload : SentPayload) : List GoString :=
  marshalOptional (payload.agentContinuationId = []) (lit "agentContinuationId")
      (marshalString payload.agentContinuationId) ++
    marshalOptional (payload.agentTaskType = []) (lit "agentTaskType")
      (marshalString payload.agentTaskType) ++
    [marshalMember (lit "chatTriggerType") (marshalString payload.chatTriggerType),
      marshalMember (lit "conversationId") (marshalString payload.conversationID),
      marshalMember (lit "currentMessage")
        (marshalObject [marshalMember (lit "userInputMessage") (marshalUser payload.current)])]

def marshalInference (payload : SentPayload) (config : InferenceConfig) : GoString :=
  marshalObject
    (marshalOptional (config.maxTokens = 0) (lit "maxTokens") (lit (toString config.maxTokens)) ++
      (payload.temperature.toList.map fun number => marshalMember (lit "temperature") number) ++
      payload.topP.toList.map fun number => marshalMember (lit "topP") number)

/-- The members behind `conversationState`. -/
def otherMembers (payload : SentPayload) : List GoString :=
  marshalOptional (payload.profileArn = []) (lit "profileArn") (marshalString payload.profileArn) ++
    (payload.inferenceConfig.toList.map fun config =>
      marshalMember (lit "inferenceConfig") (marshalInference payload config)) ++
    marshalOptional payload.additionalModelRequestFields.isEmpty
      (lit "additionalModelRequestFields") (marshal (.obj payload.additionalModelRequestFields))

def marshalPayload (payload : SentPayload) : GoString :=
  marshalObject
    (marshalMember (lit "conversationState")
        (marshalObject (stateMembers payload ++ marshalHistory payload.history)) ::
      otherMembers payload)

end Texts

section Sizes

def inlineMediaBytes (msg : Option KiroUserInputMessage) : Int :=
  match msg with
  | none => 0
  | some user =>
      (user.images.map fun image => (image.bytes.length : Int)).sum +
        (user.documents.map fun document => (document.bytes.length : Int)).sum

def historyEntryByteSize (entry : KiroHistoryMessage) : Int :=
  (marshalMessage entry).length + 1 - inlineMediaBytes entry.userInputMessage

def payloadByteSize (payload : SentPayload) : Int :=
  (marshalPayload payload).length - inlineMediaBytes (some payload.current) -
    (payload.history.map fun entry => inlineMediaBytes entry.userInputMessage).sum

def withHistory (payload : SentPayload) (history : History) : SentPayload :=
  { payload with history := history }

/-- What the entries add together, the array apart. -/
def entriesByteSize (history : History) : Int := (history.map historyEntryByteSize).sum

theorem entries_append (before after : History) :
    entriesByteSize (before ++ after) = entriesByteSize before + entriesByteSize after := by
  simp [entriesByteSize]

theorem entries_cons (entry : KiroHistoryMessage) (history : History) :
    entriesByteSize (entry :: history) = historyEntryByteSize entry + entriesByteSize history := by
  simp [entriesByteSize]

theorem history_member_length (history : History) (some_ : history ≠ []) :
    ((marshalHistory history).map fun item => item.length + 1).sum =
      (history.map fun entry => (marshalMessage entry).length + 1).sum + 12 := by
  have key : (marshalString (lit "history")).length = 9 := by decide
  have colon : (lit ":").length = 1 := by decide
  have array := array_length (history.map marshalMessage) (by simpa using some_)
  rw [List.map_map] at array
  have absent : history.isEmpty = false := by simpa using some_
  simp only [marshalHistory, marshalOptional, absent, Bool.false_eq_true, if_false, List.map_cons,
    List.map_nil, List.sum_singleton, marshalMember, List.length_append, key, colon, array]
  simp only [Function.comp_def]
  omega

theorem marshal_payload_length (payload : SentPayload) (history : History)
    (some_ : history ≠ []) :
    (marshalPayload (withHistory payload history)).length =
      (marshalPayload (withHistory payload [])).length +
        (history.map fun entry => (marshalMessage entry).length + 1).sum + 12 := by
  have members : stateMembers payload ≠ [] := by simp [stateMembers]
  have state := object_length_append (stateMembers payload) (marshalHistory history) members
  rw [history_member_length history some_] at state
  have none : marshalHistory [] = [] := rfl
  have whole : ∀ turns : History, (marshalPayload (withHistory payload turns)).length =
      (marshalMember (lit "conversationState")
        (marshalObject (stateMembers payload ++ marshalHistory turns))).length + 2 +
      ((otherMembers payload).map fun item => item.length + 1).sum :=
    fun turns => object_length_cons _ (otherMembers payload)
  rw [whole history, whole [], none, List.append_nil]
  simp only [marshalMember, List.length_append, state]
  omega

theorem entries_size (history : History) :
    entriesByteSize history =
      ((history.map fun entry => (marshalMessage entry).length + 1).sum : Nat) -
        (history.map fun entry => inlineMediaBytes entry.userInputMessage).sum := by
  induction history with
  | nil => rfl
  | cons entry history ih =>
      rw [entries_cons, ih, historyEntryByteSize]
      simp only [List.map_cons, List.sum_cons]
      omega

/-- A history costs its entries and 12 bytes for the array. -/
theorem payload_size_history (payload : SentPayload) (history : History) (some_ : history ≠ []) :
    payloadByteSize (withHistory payload history) =
      payloadByteSize (withHistory payload []) + 12 + entriesByteSize history := by
  have text := marshal_payload_length payload history some_
  have entries := entries_size history
  simp only [payloadByteSize]
  rw [text, entries]
  simp only [withHistory, List.map_nil, List.sum_nil]
  omega

theorem object_covers (members : List GoString) (item : GoString) (member : item ∈ members) :
    item.length ≤ (marshalObject members).length := by
  have whole := intercalate_length 0x2C members (List.ne_nil_of_mem member)
  have part : item.length + 1 ≤ (members.map fun item => item.length + 1).sum :=
    List.le_sum_of_mem (List.mem_map_of_mem member)
  have comma : lit "," = [0x2C] := by decide
  simp only [marshalObject, comma, List.length_append]
  omega

/-- The text of a list of media holds the bytes of each. -/
theorem media_covered {Media : Type} (render bytes : Media → GoString)
    (covers : ∀ media, (bytes media).length ≤ (render media).length) (key : GoString)
    (items : List Media) :
    (items.map fun media => (bytes media).length).sum ≤
      ((marshalOptional items.isEmpty key (marshalArray (items.map render))).map
        fun item => item.length + 1).sum := by
  cases items with
  | nil => exact Nat.zero_le _
  | cons media items =>
      have array := array_length ((media :: items).map render) (by simp)
      have member := member_length key (marshalArray ((media :: items).map render))
      have each : ((media :: items).map fun media => (bytes media).length).sum ≤
          ((media :: items).map fun media => (render media).length + 1).sum := by
        apply List.sum_le_sum
        intro media _
        exact Nat.le_succ_of_le (covers media)
      rw [List.map_map, Function.comp_def] at array
      simp only [marshalOptional, List.isEmpty_cons, Bool.false_eq_true, if_false,
        List.map_singleton, List.sum_singleton]
      omega

theorem image_covered (image : KiroImage) : image.bytes.length ≤ (marshalImage image).length := by
  have text := marshal_string_length image.bytes
  have bytes := member_length (lit "bytes") (marshalString image.bytes)
  have source := member_length (lit "source")
    (marshalObject [marshalMember (lit "bytes") (marshalString image.bytes)])
  rw [object_length_cons] at source
  rw [marshalImage, object_length_cons, List.map_singleton, List.sum_singleton]
  omega

theorem document_covered (document : KiroDocument) :
    document.bytes.length ≤ (marshalDocument document).length := by
  have text := marshal_string_length document.bytes
  have bytes := member_length (lit "bytes") (marshalString document.bytes)
  have source := member_length (lit "source")
    (marshalObject [marshalMember (lit "bytes") (marshalString document.bytes)])
  rw [object_length_cons] at source
  rw [marshalDocument, object_length_cons, List.map_cons, List.map_singleton, List.sum_cons,
    List.sum_singleton]
  omega

theorem user_covered (user : KiroUserInputMessage) :
    inlineMediaBytes (some user) ≤ (marshalUser user).length := by
  have images := media_covered marshalImage KiroImage.bytes image_covered (lit "images")
    user.images
  have documents := media_covered marshalDocument KiroDocument.bytes document_covered
    (lit "documents") user.documents
  have imageSum : (user.images.map fun image => (image.bytes.length : Int)).sum =
      ((user.images.map fun image => image.bytes.length).sum : Nat) := by
    rw [Nat.cast_list_sum, List.map_map, Function.comp_def]
  have documentSum : (user.documents.map fun document => (document.bytes.length : Int)).sum =
      ((user.documents.map fun document => document.bytes.length).sum : Nat) := by
    rw [Nat.cast_list_sum, List.map_map, Function.comp_def]
  rw [inlineMediaBytes, imageSum, documentSum, marshalUser]
  simp only [List.cons_append, object_length_cons, List.map_append,
    List.sum_append]
  omega

theorem entry_size_nonneg (entry : KiroHistoryMessage) : 0 ≤ historyEntryByteSize entry := by
  obtain ⟨user, assistant⟩ := entry
  unfold historyEntryByteSize
  cases user with
  | none =>
      simp only [inlineMediaBytes]
      omega
  | some user =>
      have covered := user_covered user
      have member := member_length (lit "userInputMessage") (marshalUser user)
      simp only [marshalMessage, Option.toList_some, List.map_singleton, List.singleton_append,
        object_length_cons]
      omega

end Sizes

end KiroProxy.PayloadText
