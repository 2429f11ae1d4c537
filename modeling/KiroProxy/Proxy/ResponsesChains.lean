import KiroProxy.Foundation.Coalescing
import KiroProxy.Proxy.ResponsesProtocol
import KiroProxy.Proxy.ToolIdentityTrips

/-!
# Chains of responses

The messages that are stored with a response, for a request that names it, against those of a
client that sends its inputs and the output items again. Assistant messages that meet count as
one where that moves no text in front of a call.
-/

namespace KiroProxy.Responses

open Foundation.Coalescing GoStrings KiroTypes

set_option autoImplicit false

section Turns

abbrev Turn := Entry UInt8 ToolCall OpenAIMessage

def OpenAIMessage.turn (message : OpenAIMessage) : Turn :=
  if message.role = lit "assistant" then .block message.text message.toolCalls
  else .single message

def turns (messages : List OpenAIMessage) : List Turn := messages.map OpenAIMessage.turn

/-- A history up to assistant messages that meet. -/
def mergedTurns (messages : List OpenAIMessage) : List Turn := coalesce (turns messages)

theorem turns_append (front back : List OpenAIMessage) :
    turns (front ++ back) = turns front ++ turns back :=
  List.map_append

/-- Messages of calls have no text, as input items are read. -/
def Bare (messages : List OpenAIMessage) : Prop :=
  ∀ message ∈ messages, message.toolCalls ≠ [] → message.content = .null

theorem bare_append (front back : List OpenAIMessage) :
    Bare (front ++ back) ↔ Bare front ∧ Bare back :=
  List.forall_mem_append

theorem bare_single (message : OpenAIMessage)
    (bare : message.toolCalls ≠ [] → message.content = .null) : Bare [message] := by
  intro other member
  rw [List.mem_singleton.mp member]
  exact bare

/-- Joining calls to the calls before changes no turn. -/
theorem append_message_same (messages : List OpenAIMessage) (message : OpenAIMessage)
    (bare : Bare (messages ++ [message])) :
    Same (turns (appendResponseMessage messages message)) (turns (messages ++ [message])) ∧
      Bare (appendResponseMessage messages message) := by
  unfold appendResponseMessage
  cases found : messages.getLast? with
  | none => exact ⟨.refl _, bare⟩
  | some last =>
      simp only
      split_ifs with joins
      · obtain ⟨front, split⟩ := List.getLast?_eq_some_iff.mp found
        rw [split] at bare ⊢
        rw [List.dropLast_concat]
        unfold OpenAIMessage.joins at joins
        simp only [Bool.and_eq_true, beq_iff_eq, Bool.not_eq_true', List.isEmpty_eq_false_iff]
          at joins
        obtain ⟨⟨⟨⟨⟨speaks, replies⟩, calls⟩, more⟩, -⟩, -⟩ := joins
        rw [bare_append, bare_append] at bare
        have silent := bare.1.2 last List.mem_cons_self calls
        have quiet := bare.2 message List.mem_cons_self more
        refine ⟨?_, (bare_append _ _).mpr ⟨bare.1.1, bare_single _ fun _ => silent⟩⟩
        have text : message.text = [] := by
          unfold OpenAIMessage.text
          rw [quiet]
          rfl
        have lastTurn : last.turn = .block last.text last.toolCalls := if_pos speaks
        have turn : message.turn = .block [] message.toolCalls := by
          rw [← text]
          exact if_pos replies
        have joined : OpenAIMessage.turn { last with
            toolCalls := last.toolCalls ++ message.toolCalls } =
            .block last.text (last.toolCalls ++ message.toolCalls) := if_pos speaks
        rw [turns_append, List.append_assoc, turns_append]
        apply Same.append (.refl (turns front))
        have met := blocks_meet OpenAIMessage last.text [] last.toolCalls message.toolCalls (.inr rfl)
        rw [List.append_nil] at met
        change Same [OpenAIMessage.turn _] [last.turn, message.turn]
        rw [joined, lastTurn, turn]
        exact met.symm
      · exact ⟨.refl _, bare⟩

theorem append_messages_same (messages next : List OpenAIMessage) (bare : Bare (messages ++ next)) :
    Same (turns (appendResponseMessages messages next)) (turns (messages ++ next)) ∧
      Bare (appendResponseMessages messages next) := by
  induction next generalizing messages with
  | nil =>
      rw [List.append_nil] at bare ⊢
      exact ⟨.refl _, bare⟩
  | cons message next ih =>
      rw [List.append_cons] at bare ⊢
      obtain ⟨front, back⟩ := (bare_append _ _).mp bare
      obtain ⟨same, kept⟩ := append_message_same messages message front
      obtain ⟨rest, all⟩ := ih (appendResponseMessage messages message)
        ((bare_append _ _).mpr ⟨kept, back⟩)
      refine ⟨rest.trans ?_, all⟩
      rw [turns_append, turns_append]
      exact same.append (.refl (turns next))

end Turns

section Reading

variable (options : InputOptions)

/-- What input items are read as, one after the other. -/
inductive Reading : List Json → List OpenAIMessage → Prop where
  | nil : Reading [] []
  | cons (item : Json) (items : List Json) (next rest : List OpenAIMessage)
      (read : responseInputItemToMessages options item = .ok next)
      (others : Reading items rest) : Reading (item :: items) (next ++ rest)

variable {options}

theorem Reading.append {items more : List Json} {front back : List OpenAIMessage}
    (first : Reading options items front) (second : Reading options more back) :
    Reading options (items ++ more) (front ++ back) := by
  induction first with
  | nil => exact second
  | cons item items next rest read others ih =>
      rw [List.append_assoc]
      exact .cons item _ next _ read ih

theorem Reading.single {item : Json} {messages : List OpenAIMessage}
    (read : responseInputItemToMessages options item = .ok messages) :
    Reading options [item] messages := by
  have one := Reading.cons item [] messages [] read .nil
  rwa [List.append_nil] at one

theorem bare_text (role : GoString) (content : Json) : Bare [textMessage role content] :=
  bare_single _ fun calls => absurd rfl calls

theorem bare_call (call : ToolCall) : Bare [callMessage call] :=
  bare_single _ fun _ => rfl

theorem bare_output (callID : GoString) (content : Json) :
    Bare [toolOutputMessage callID content] :=
  bare_single _ fun calls => absurd rfl calls

theorem bare_nil : Bare [] := fun _ member => absurd member List.not_mem_nil

/-- The result of reading an item, where it is one. -/
def BareResult (read : Except GoString (List OpenAIMessage)) : Prop :=
  ∀ messages, read = .ok messages → Bare messages

theorem bare_ok (messages : List OpenAIMessage) (bare : Bare messages) :
    BareResult (.ok messages) := by
  intro others same
  rw [← Except.ok.inj same]
  exact bare

theorem bare_error (message : GoString) : BareResult (.error message) := by
  intro messages same
  cases same

theorem bare_search (item : JsonFields) : Bare (toolSearchCallMessages item) := by
  unfold toolSearchCallMessages
  simp only
  split_ifs
  · exact bare_nil
  · exact bare_call _
  · exact bare_call _

theorem bare_branch (condition : Prop) [Decidable condition]
    (first second : Except GoString (List OpenAIMessage)) (left : BareResult first)
    (right : BareResult second) : BareResult (if condition then first else second) := by
  by_cases holds : condition
  · rwa [if_pos holds]
  · rwa [if_neg holds]

theorem custom_bare (item : JsonFields) (input : Option Json) :
    BareResult (match input with
      | some (.str input) =>
          .ok [functionCallMessage item (JsonText.marshal (.obj (wrappedInput input)))]
      | _ => .error (lit "custom_tool_call input must be a string")) := by
  split
  · exact bare_ok _ (bare_call _)
  · exact bare_error _

/-- One case for each kind of item. -/
theorem item_bare (item : JsonFields) : BareResult (itemMessages options item) := by
  unfold itemMessages
  refine bare_branch _ _ _ (bare_ok [] bare_nil) ?_
  refine bare_branch _ _ _ (bare_branch _ _ _ (bare_error _) (bare_ok _ (bare_text _ _))) ?_
  refine bare_branch _ _ _ (bare_ok _ (bare_text _ _)) ?_
  refine bare_branch _ _ _ (bare_ok _ (bare_text _ _)) ?_
  refine bare_branch _ _ _ (bare_ok _ (bare_text _ _)) ?_
  refine bare_branch _ _ _ (bare_ok _ (bare_output _ _)) ?_
  refine bare_branch _ _ _ (bare_ok _ (bare_search item)) ?_
  refine bare_branch _ _ _
    (bare_branch _ _ _ (bare_ok [] bare_nil) (bare_ok _ (bare_output _ _))) ?_
  refine bare_branch _ _ _ (bare_ok _ (bare_call _)) ?_
  refine bare_branch _ _ _ (custom_bare item _) ?_
  refine bare_branch _ _ _ (bare_ok _ (bare_text _ _)) ?_
  exact bare_branch _ _ _ (bare_ok [] bare_nil) (bare_error _)

theorem read_bare (item : Json) : BareResult (responseInputItemToMessages options item) := by
  cases item with
  | obj fields => exact item_bare fields
  | _ => exact bare_error _

/-- Items that can be read are read into the turns of their messages. -/
theorem reading_read {items : List Json} {all : List OpenAIMessage}
    (reading : Reading options items all) (messages : List OpenAIMessage) (bare : Bare messages) :
    ∃ result, responsesItemsToMessages options messages items = .ok result ∧
      Same (turns result) (turns (messages ++ all)) := by
  induction reading generalizing messages with
  | nil =>
      rw [List.append_nil]
      exact ⟨messages, rfl, .refl _⟩
  | cons item items next rest read others ih =>
      have both := (bare_append messages next).mpr ⟨bare, read_bare item next read⟩
      obtain ⟨same, kept⟩ := append_messages_same messages next both
      obtain ⟨result, done, joined⟩ := ih (appendResponseMessages messages next) kept
      refine ⟨result, ?_, joined.trans ?_⟩
      · rw [responsesItemsToMessages, read]
        exact done
      · rw [← List.append_assoc, turns_append, turns_append _ rest]
        exact same.append (.refl (turns rest))

/-- Items are read only if each of them can be. -/
theorem read_reading (items : List Json) (messages result : List OpenAIMessage)
    (read : responsesItemsToMessages options messages items = .ok result) :
    ∃ all, Reading options items all := by
  induction items generalizing messages with
  | nil => exact ⟨[], .nil⟩
  | cons item items ih =>
      rw [responsesItemsToMessages] at read
      cases head : responseInputItemToMessages options item with
      | error message =>
          rw [head] at read
          cases read
      | ok next =>
          rw [head] at read
          obtain ⟨all, others⟩ := ih _ read
          exact ⟨next ++ all, .cons item items next all head others⟩

end Reading

section Requests

/-- What is kept of a prepared request: the messages to store and the identities of its tools. -/
structure PreparedRequest where
  storedMessages : List OpenAIMessage
  toolIdentities : List (GoString × ResponsesToolIdentity)

variable (options : InputOptions)

/-- The messages of `prepareResponsesRequest`, given the declarations of the request and of its
input items. -/
def prepareResponsesRequest (declarations : List ResponsesTool) (previous : List OpenAIMessage)
    (input : Json) : Except GoString PreparedRequest :=
  let identities := responsesToolIdentities options.letters declarations
  match identities.conflict with
  | some message => .error message
  | none =>
      match responsesInputToMessages options input with
      | .error message => .error message
      | .ok currentMessages =>
          if currentMessages.isEmpty then .error (lit "input is required")
          else .ok ⟨previous ++ currentMessages, identities.result⟩

theorem prepared_messages (declarations : List ResponsesTool) (previous : List OpenAIMessage)
    (input : Json) (prepared : PreparedRequest)
    (accepted : prepareResponsesRequest options declarations previous input = .ok prepared) :
    ∃ current, responsesInputToMessages options input = .ok current ∧ current ≠ [] ∧
      prepared = ⟨previous ++ current, (responsesToolIdentities options.letters declarations).result⟩ := by
  unfold prepareResponsesRequest at accepted
  simp only at accepted
  cases conflict : (responsesToolIdentities options.letters declarations).conflict with
  | some message =>
      rw [conflict] at accepted
      cases accepted
  | none =>
      rw [conflict] at accepted
      cases read : responsesInputToMessages options input with
      | error message =>
          rw [read] at accepted
          cases accepted
      | ok current =>
          rw [read] at accepted
          simp only at accepted
          split_ifs at accepted with empty
          exact ⟨current, rfl, fun none_ => empty (List.isEmpty_iff.mpr none_),
            (Except.ok.inj accepted).symm⟩

/-- An input as the items of an array. -/
def inputItems : Json → List Json
  | .str text =>
      [.obj [(lit "type", jsonText "message"), (lit "role", jsonText "user"),
        (lit "content", .str text)]]
  | .arr items => items
  | input => [input]

theorem role_read (role : String)
    (plain : (trimSpace (lit role)).all (fun byte => decide (byte < 0x80)) = true)
    (kept : (let lowered := (trimSpace (lit role)).map lowerByte
      if lowered = lit "developer" ∨ lowered = lit "system" then lit "system" else lowered) =
      lit role) :
    normalizeResponsesRole options (lit role) = lit role := by
  have ascii : ∀ byte ∈ trimSpace (lit role), byte < 0x80 := fun byte member =>
    of_decide_eq_true (List.all_eq_true.mp plain byte member)
  unfold normalizeResponsesRole
  rw [options.letters.lower_ascii _ ascii]
  exact kept

theorem message_read (item : JsonFields) (role : String) (kept : lit role ≠ [])
    (type : stringField item (lit "type") = lit "message")
    (named : stringField item (lit "role") = lit role)
    (normal : normalizeResponsesRole options (lit role) = lit role) :
    responseInputItemToMessages options (.obj item) =
      .ok [textMessage (lit role)
        (responsesContentToOpenAIContent ((item.get (lit "content")).getD .null))] := by
  change itemMessages options item = _
  unfold itemMessages
  rw [type, named, normal, if_neg (by decide), if_neg (by decide), if_pos (by decide),
    if_neg kept]

variable {options}

/-- The items of an input that is accepted give the turns of its messages. -/
theorem input_reading (input : Json) (current : List OpenAIMessage)
    (read : responsesInputToMessages options input = .ok current) (some_ : current ≠ []) :
    ∃ all, Reading options (inputItems input) all ∧ Same (turns current) (turns all) := by
  cases input with
  | null => exact absurd (Except.ok.inj read).symm some_
  | bool value => cases read
  | num text => cases read
  | str text =>
      have shown := Except.ok.inj read
      have worded : blank text = false := by
        by_contra empty
        rw [Bool.not_eq_false] at empty
        rw [empty] at shown
        exact some_ shown.symm
      rw [worded] at shown
      refine ⟨current, .single ?_, .refl _⟩
      rw [← shown]
      exact message_read options _ "user" (by decide) rfl rfl
        (role_read options "user" rfl rfl)
  | arr items =>
      obtain ⟨all, reading⟩ := read_reading items [] current read
      obtain ⟨result, done, same⟩ := reading_read reading [] bare_nil
      refine ⟨all, reading, ?_⟩
      have equal : result = current := Except.ok.inj (done.symm.trans read)
      rwa [equal] at same
  | obj item => exact ⟨current, .single read, .refl _⟩

end Requests

section Answers

/-- What a request was answered with. -/
structure Answer where
  output : List OutputItem
  outputText : GoString
  toolUses : List KiroToolUse

def OutputItem.toolItem : OutputItem → Option ToolOutputItem
  | .tool item => some item
  | .text _ _ _ => none

def OutputItem.messageText : OutputItem → Option GoString
  | .text .message _ content => some content
  | _ => none

/-- How the handlers put an answer together: its items hold its text and its calls, and there is
a message if there is no call. -/
structure Answer.Complete (identities : List (GoString × ResponsesToolIdentity))
    (answer : Answer) : Prop where
  text : answer.outputText = textsOf .message answer.output
  tools : answer.output.filterMap OutputItem.toolItem =
    answer.toolUses.map (buildPreparedResponsesToolOutputItem identities)
  shown : answer.toolUses = [] → answer.output.any (OutputItem.isText .message) = true

/-- Messages are before calls. -/
def Answer.TextFirst (answer : Answer) : Prop :=
  ∃ front back, answer.output = front ++ back ∧
    front.filterMap OutputItem.toolItem = [] ∧ back.filterMap OutputItem.messageText = []

/-- `buildResponsesOutput`, with the tool items of the prepared request. -/
def buildResponsesOutput (identities : List (GoString × ResponsesToolIdentity))
    (reasoningID messageID content reasoning : GoString) (toolUses : List KiroToolUse) :
    List OutputItem :=
  (if reasoning ≠ [] then [.text .reasoning reasoningID reasoning] else []) ++
    (if content ≠ [] ∨ toolUses = [] then [.text .message messageID content] else []) ++
    toolUses.map fun toolUse => .tool (buildPreparedResponsesToolOutputItem identities toolUse)

def responsesAssistantMessage (content : GoString) (toolUses : List KiroToolUse) :
    OpenAIMessage where
  role := lit "assistant"
  content := if toolUses ≠ [] ∧ content = [] then .null else .str content
  toolCalls := toolUses.map fun toolUse =>
    ⟨toolUse.toolUseID, toolUse.name, JsonText.marshal (.obj toolUse.input)⟩
  toolCallID := []

/-- The messages that `buildResponsesCompletedObjectWithOutput` stores. -/
def storedWith (prepared : PreparedRequest) (answer : Answer) : List OpenAIMessage :=
  prepared.storedMessages ++ [responsesAssistantMessage answer.outputText answer.toolUses]

/-- The call comes back: under the name and with the input that its item stands for. -/
structure CallReturns (identities : List (GoString × ResponsesToolIdentity))
    (toolUse : KiroToolUse) : Prop where
  unknown : identities.lookup toolUse.name = none → trimSpace toolUse.name = toolUse.name
  search : ∀ identity, identities.lookup toolUse.name = some identity →
    identity.type = toolSearchToolType →
      toolUse.name = toolSearchToolType ∧ toolUse.toolUseID ≠ []
  custom : ∀ identity, identities.lookup toolUse.name = some identity →
    identity.type = lit "custom" → ∃ input, toolUse.input = wrappedInput input

/-- No message is blank, and the calls come back. -/
structure Answer.Returns (identities : List (GoString × ResponsesToolIdentity))
    (answer : Answer) : Prop where
  worded : ∀ text ∈ answer.output.filterMap OutputItem.messageText, blank text = false
  calls : ∀ toolUse ∈ answer.toolUses, CallReturns identities toolUse

variable {options : InputOptions} {identities : List (GoString × ResponsesToolIdentity)}

theorem texts_joined (items : List OutputItem) :
    textsOf .message items = (items.filterMap OutputItem.messageText).flatten := by
  induction items with
  | nil => rfl
  | cons item items ih =>
      unfold textsOf at ih ⊢
      rw [List.flatMap_cons, ih]
      cases item with
      | tool item => rfl
      | text kind id text => cases kind <;> rfl

/-- A response that is not streamed. -/
theorem built_output_complete (identities : List (GoString × ResponsesToolIdentity))
    (reasoningID messageID content reasoning : GoString) (toolUses : List KiroToolUse) :
    Answer.Complete identities
        ⟨buildResponsesOutput identities reasoningID messageID content reasoning toolUses, content,
          toolUses⟩ ∧
      Answer.TextFirst
        ⟨buildResponsesOutput identities reasoningID messageID content reasoning toolUses, content,
          toolUses⟩ := by
  let thought : List OutputItem :=
    if reasoning ≠ [] then [.text .reasoning reasoningID reasoning] else []
  let speech : List OutputItem :=
    if content ≠ [] ∨ toolUses = [] then [.text .message messageID content] else []
  let calls : List OutputItem := toolUses.map fun toolUse =>
    .tool (buildPreparedResponsesToolOutputItem identities toolUse)
  have thoughtTools : thought.filterMap OutputItem.toolItem = [] := by
    by_cases some_ : reasoning ≠ [] <;> simp [thought, some_, OutputItem.toolItem]
  have thoughtText : textsOf .message thought = [] := by
    by_cases some_ : reasoning ≠ [] <;> simp [thought, some_, textsOf, OutputItem.textOf]
  have speechTools : speech.filterMap OutputItem.toolItem = [] := by
    by_cases some_ : content ≠ [] ∨ toolUses = [] <;> simp [speech, some_, OutputItem.toolItem]
  have speechText : textsOf .message speech = content := by
    by_cases some_ : content ≠ [] ∨ toolUses = []
    · simp [speech, some_, textsOf, OutputItem.textOf]
    · have empty := not_not.mp (not_or.mp some_).1
      have none_ : speech = [] := if_neg some_
      rw [none_, empty]
      rfl
  have callTools : calls.filterMap OutputItem.toolItem =
      toolUses.map (buildPreparedResponsesToolOutputItem identities) := by
    simp [calls, List.filterMap_map, Function.comp_def, OutputItem.toolItem]
  have callTexts : calls.filterMap OutputItem.messageText = [] := by
    simp [calls, List.filterMap_map, Function.comp_def, OutputItem.messageText]
  constructor
  · constructor
    · change content = textsOf .message (thought ++ speech ++ calls)
      have callText : textsOf .message calls = [] := by rw [texts_joined, callTexts]; rfl
      unfold textsOf at thoughtText speechText callText ⊢
      rw [List.flatMap_append, List.flatMap_append, thoughtText, speechText, callText,
        List.nil_append, List.append_nil]
    · change (thought ++ speech ++ calls).filterMap OutputItem.toolItem = _
      rw [List.filterMap_append, List.filterMap_append, thoughtTools, speechTools, callTools]
      rfl
    · intro silent
      change (thought ++ speech ++ calls).any (OutputItem.isText .message) = true
      rw [List.any_append, List.any_append]
      simp [speech, show toolUses = [] from silent, OutputItem.isText]
  · refine ⟨thought ++ speech, calls, rfl, ?_, callTexts⟩
    rw [List.filterMap_append, thoughtTools, speechTools]
    rfl

theorem call_returns_back (declarations : List ResponsesTool) (toolUse : KiroToolUse)
    (returns : CallReturns (responsesToolIdentities options.letters declarations).result toolUse) :
    ComesBack options (responsesToolIdentities options.letters declarations).result toolUse := by
  cases known : (responsesToolIdentities options.letters declarations).result.lookup
      toolUse.name with
  | none => exact unknown_call_comes_back options known (returns.unknown known)
  | some identity =>
      have keyed := ((identities_recorded options.letters declarations).found _ _ known).2
      by_cases search : identity.type = toolSearchToolType
      · exact (search_comes_back_iff options known search).mpr (returns.search identity known search)
      · exact known_call_comes_back options known keyed search (returns.custom identity known)

theorem reasoning_item_read (id reasoning : GoString) :
    responseInputItemToMessages options (OutputItem.json (.text .reasoning id reasoning)) =
      .ok [] := by
  have role : normalizeResponsesRole options [] = [] := role_read options "" rfl rfl
  change itemMessages options (reasoningItemJson id reasoning) = _
  unfold itemMessages
  rw [show stringField (reasoningItemJson id reasoning) (lit "type") = lit "reasoning" from rfl,
    show stringField (reasoningItemJson id reasoning) (lit "role") = [] from rfl, role]
  rfl

/-- The message that a message item is read as. -/
def shownMessage (text : GoString) : OpenAIMessage :=
  textMessage (lit "assistant")
    (.arr [.obj [(lit "type", .str (lit "text")), (lit "text", .str text)]])

theorem message_item_read (id text : GoString) :
    responseInputItemToMessages options (OutputItem.json (.text .message id text)) =
      .ok [shownMessage text] := by
  have read := message_read options (messageItemJson id text) "assistant" (by decide) rfl rfl
    (role_read options "assistant" rfl rfl)
  change responseInputItemToMessages options (.obj (messageItemJson id text)) = _
  rw [read]
  cases text <;> rfl

theorem shown_turn (text : GoString) (worded : blank text = false) :
    (shownMessage text).turn = .block text [] := by
  have shown : (shownMessage text).text = text := by
    have user : userContentText (shownMessage text).content = text := List.append_nil text
    change extractOpenAIMessageText (.arr _) = text
    rw [extractOpenAIMessageText]
    change (if (!blank (userContentText (shownMessage text).content)) = true then
      userContentText (shownMessage text).content else _) = text
    rw [user, worded]
    rfl
  calc (shownMessage text).turn = .block (shownMessage text).text [] := if_pos rfl
    _ = .block text [] := by rw [shown]

/-- Items without calls are read as the texts of their messages. -/
theorem texts_read (items : List OutputItem)
    (speech : items.filterMap OutputItem.toolItem = []) :
    Reading options (items.map OutputItem.json)
      ((items.filterMap OutputItem.messageText).map shownMessage) := by
  induction items with
  | nil => exact .nil
  | cons item items ih =>
      cases item with
      | tool item => exact absurd speech (List.cons_ne_nil _ _)
      | text kind id text =>
          have rest := ih speech
          cases kind with
          | message => exact .cons _ _ [shownMessage text] _ (message_item_read id text) rest
          | reasoning => exact .cons _ _ [] _ (reasoning_item_read id text) rest

/-- Items without messages are read as their calls. -/
theorem calls_read (declarations : List ResponsesTool) (items : List OutputItem)
    (toolUses : List KiroToolUse) (silent : items.filterMap OutputItem.messageText = [])
    (tools : items.filterMap OutputItem.toolItem = toolUses.map
      (buildPreparedResponsesToolOutputItem
        (responsesToolIdentities options.letters declarations).result))
    (returns : ∀ toolUse ∈ toolUses,
      CallReturns (responsesToolIdentities options.letters declarations).result toolUse) :
    Reading options (items.map OutputItem.json) (toolUses.map returnedCall) := by
  induction items generalizing toolUses with
  | nil =>
      have none_ : toolUses = [] := List.map_eq_nil_iff.mp tools.symm
      rw [none_]
      exact .nil
  | cons item items ih =>
      cases item with
      | text kind id text =>
          cases kind with
          | message => exact absurd silent (List.cons_ne_nil _ _)
          | reasoning =>
              exact .cons _ _ [] _ (reasoning_item_read id text) (ih toolUses silent tools returns)
      | tool item =>
          cases toolUses with
          | nil => exact absurd tools (List.cons_ne_nil _ _)
          | cons toolUse toolUses =>
              obtain ⟨first, rest⟩ := List.cons.inj tools
              have back := call_returns_back declarations toolUse
                (returns toolUse List.mem_cons_self)
              have others := ih toolUses silent rest fun other member =>
                returns other (List.mem_cons_of_mem _ member)
              rw [List.map_cons, List.map_cons, first]
              exact .cons _ _ [returnedCall toolUse] _ back others

/-- The items of an answer are its texts and then its calls. -/
theorem answer_read (declarations : List ResponsesTool) (answer : Answer)
    (complete : answer.Complete (responsesToolIdentities options.letters declarations).result)
    (textFirst : answer.TextFirst)
    (calls : ∀ toolUse ∈ answer.toolUses,
      CallReturns (responsesToolIdentities options.letters declarations).result toolUse) :
    Reading options (answer.output.map OutputItem.json)
      ((answer.output.filterMap OutputItem.messageText).map shownMessage ++
        answer.toolUses.map returnedCall) := by
  obtain ⟨front, back, split, speech, silent⟩ := textFirst
  have tools := complete.tools
  rw [split, List.filterMap_append, speech, List.nil_append] at tools
  rw [split, List.map_append, List.filterMap_append, silent, List.append_nil]
  exact (texts_read front speech).append (calls_read declarations back _ silent tools calls)

theorem stored_turn (answer : Answer) :
    (responsesAssistantMessage answer.outputText answer.toolUses).turn =
      .block answer.outputText
        (responsesAssistantMessage answer.outputText answer.toolUses).toolCalls := by
  have text : (responsesAssistantMessage answer.outputText answer.toolUses).text =
      answer.outputText := by
    unfold OpenAIMessage.text responsesAssistantMessage
    simp only
    split_ifs with empty
    · exact empty.2.symm
    · rw [extractOpenAIMessageText]
  calc (responsesAssistantMessage answer.outputText answer.toolUses).turn = .block _ _ :=
        if_pos rfl
    _ = _ := by rw [text]

/-- An answer that returns counts as the message that is stored with it. -/
theorem answer_same (answer : Answer) (complete : answer.Complete identities)
    (worded : ∀ text ∈ answer.output.filterMap OutputItem.messageText, blank text = false) :
    Same (turns [responsesAssistantMessage answer.outputText answer.toolUses])
      (turns ((answer.output.filterMap OutputItem.messageText).map shownMessage ++
        answer.toolUses.map returnedCall)) := by
  let texts := answer.output.filterMap OutputItem.messageText
  let calls := (responsesAssistantMessage answer.outputText answer.toolUses).toolCalls
  have some_ : texts ≠ [] ∨ calls.map (fun call => [call]) ≠ [] := by
    by_cases silent : answer.toolUses = []
    · left
      obtain ⟨item, member, message⟩ := List.any_eq_true.mp (complete.shown silent)
      intro none_
      have hidden := List.filterMap_eq_nil_iff.mp none_ item member
      cases item with
      | tool item => exact absurd message Bool.false_ne_true
      | text kind id text =>
          cases kind with
          | message => exact absurd hidden (Option.some_ne_none text)
          | reasoning => exact absurd message (by simp [OutputItem.isText])
    · right
      intro none_
      exact silent (List.map_eq_nil_iff.mp (List.map_eq_nil_iff.mp none_))
  have met := fronts_backs_meet OpenAIMessage texts (calls.map fun call => [call]) some_
  have text : texts.flatten = answer.outputText := by
    rw [complete.text, texts_joined]
  have each : (calls.map fun call => [call]).flatten = calls := by
    rw [← List.flatMap_def]
    exact List.flatMap_singleton' calls
  have fronts : turns (texts.map shownMessage) = texts.map fun text => .block text [] := by
    unfold turns
    rw [List.map_map]
    exact List.map_congr_left fun text member => shown_turn text (worded text member)
  have backs : turns (answer.toolUses.map returnedCall) =
      (calls.map fun call => [call]).map fun calls => .block [] calls := by
    unfold turns
    change _ = ((answer.toolUses.map _).map _).map _
    rw [List.map_map, List.map_map, List.map_map]
    rfl
  rw [text, each] at met
  rw [turns_append, fronts, backs]
  change Same [OpenAIMessage.turn _] _
  rw [stored_turn]
  exact met.symm

end Answers

section Conversations

/-- A request that was answered. -/
structure Exchange where
  declarations : List ResponsesTool
  input : Json
  answer : Answer

variable (options : InputOptions)

def Exchange.identities (exchange : Exchange) : List (GoString × ResponsesToolIdentity) :=
  (responsesToolIdentities options.letters exchange.declarations).result

/-- Requests that each name the response before, with the messages stored at the end. -/
inductive Conversation : List Exchange → List OpenAIMessage → Prop where
  | start : Conversation [] []
  | answered (exchanges : List Exchange) (stored : List OpenAIMessage) (exchange : Exchange)
      (prepared : PreparedRequest) (earlier : Conversation exchanges stored)
      (accepted : prepareResponsesRequest options exchange.declarations stored exchange.input =
        .ok prepared)
      (complete : exchange.answer.Complete prepared.toolIdentities) :
      Conversation (exchanges ++ [exchange]) (storedWith prepared exchange.answer)

/-- What a client sends again of an exchange. -/
def Exchange.items (exchange : Exchange) : List Json :=
  inputItems exchange.input ++ exchange.answer.output.map OutputItem.json

variable {options}

theorem conversation_read (exchanges : List Exchange) (stored : List OpenAIMessage)
    (conversation : Conversation options exchanges stored)
    (textFirst : ∀ exchange ∈ exchanges, exchange.answer.TextFirst)
    (returns : ∀ exchange ∈ exchanges, exchange.answer.Returns (exchange.identities options)) :
    ∃ all, Reading options (exchanges.flatMap Exchange.items) all ∧
      Same (turns stored) (turns all) := by
  induction conversation with
  | start => exact ⟨[], .nil, .refl _⟩
  | answered exchanges stored exchange prepared earlier accepted complete ih =>
      obtain ⟨front, reading, same⟩ := ih
        (fun other member => textFirst other (List.mem_append_left _ member))
        (fun other member => returns other (List.mem_append_left _ member))
      obtain ⟨current, read, some_, whole⟩ :=
        prepared_messages options exchange.declarations stored exchange.input prepared accepted
      obtain ⟨input, asked, alike⟩ := input_reading exchange.input current read some_
      rw [whole] at complete ⊢
      have returned := returns exchange List.mem_concat_self
      have answered := answer_read exchange.declarations exchange.answer complete
        (textFirst exchange List.mem_concat_self) returned.calls
      have stands := answer_same exchange.answer complete returned.worded
      have all := reading.append (asked.append answered)
      rw [List.flatMap_append, List.flatMap_singleton]
      refine ⟨_, all, ?_⟩
      unfold storedWith
      rw [List.append_assoc, turns_append, turns_append, turns_append, turns_append]
      exact same.append (alike.append stands)

theorem conversation_complete (exchanges : List Exchange) (stored : List OpenAIMessage)
    (conversation : Conversation options exchanges stored) :
    ∀ exchange ∈ exchanges, exchange.answer.Complete (exchange.identities options) := by
  induction conversation with
  | start => exact fun _ member => absurd member List.not_mem_nil
  | answered exchanges stored exchange prepared earlier accepted complete ih =>
      intro other member
      rcases List.mem_append.mp member with old | new
      · exact ih other old
      · obtain ⟨current, read, some_, whole⟩ :=
          prepared_messages options exchange.declarations stored exchange.input prepared accepted
        rw [whole] at complete
        rw [List.mem_singleton.mp new]
        exact complete

/-- An answer without text is read as its calls. -/
theorem wordless_read (exchange : Exchange)
    (complete : exchange.answer.Complete (exchange.identities options))
    (textFirst : exchange.answer.TextFirst)
    (returns : exchange.answer.Returns (exchange.identities options))
    (wordless : exchange.answer.outputText = []) :
    Reading options (exchange.answer.output.map OutputItem.json)
      (exchange.answer.toolUses.map returnedCall) := by
  have silent : exchange.answer.output.filterMap OutputItem.messageText = [] := by
    rw [complete.text, texts_joined] at wordless
    rw [List.eq_nil_iff_forall_not_mem]
    intro text member
    have empty := List.flatten_eq_nil_iff.mp wordless text member
    have worded := returns.worded text member
    rw [empty] at worded
    exact absurd worded (by decide)
  have read := answer_read exchange.declarations exchange.answer complete textFirst returns.calls
  rwa [silent] at read

/-- A question, answered with a text and with the call of a custom tool in a namespace. -/
def patchExchange : Exchange where
  declarations := namespacedTools
  input := jsonText "patch it"
  answer := {
    output := buildResponsesOutput
      (responsesToolIdentities asciiInput.letters namespacedTools).result (lit "rs_1") (lit "msg_1")
      (lit "working on it") [] [⟨lit "call_1", lit "ns__patch", wrappedInput (lit "text")⟩]
    outputText := lit "working on it"
    toolUses := [⟨lit "call_1", lit "ns__patch", wrappedInput (lit "text")⟩] }

def emptyExchange : Exchange where
  declarations := []
  input := jsonText "hello"
  answer := ⟨buildResponsesOutput [] (lit "rs_1") (lit "msg_1") [] [] [], [], []⟩

def preparedAlone (exchange : Exchange) : PreparedRequest where
  storedMessages := [textMessage (lit "user") exchange.input]
  toolIdentities := exchange.identities asciiInput

theorem exchange_conversation (exchange : Exchange)
    (accepted : prepareResponsesRequest asciiInput exchange.declarations [] exchange.input =
      .ok (preparedAlone exchange))
    (complete : exchange.answer.Complete (exchange.identities asciiInput)) :
    Conversation asciiInput [exchange] (storedWith (preparedAlone exchange) exchange.answer) :=
  .answered [] [] exchange (preparedAlone exchange) .start accepted complete

theorem patch_returns : patchExchange.answer.Returns (patchExchange.identities asciiInput) where
  worded := by
    intro text member
    have only : text = lit "working on it" := List.mem_singleton.mp member
    rw [only]
    decide
  calls := by
    intro toolUse member
    rw [List.mem_singleton.mp member]
    have known : (patchExchange.identities asciiInput).lookup (lit "ns__patch") =
        some (namespacedIdentity (lit "custom") (lit "patch")) := by rfl
    refine ⟨fun unknown => ?_, fun identity found search => ?_, fun _ _ _ => ⟨lit "text", rfl⟩⟩
    · exact absurd (known.symm.trans unknown) (Option.some_ne_none _)
    · rw [← Option.some.inj (known.symm.trans found)] at search
      exact absurd search (by decide)

/-- A message without text is not read as one. -/
theorem empty_message_shown : (shownMessage []).text ≠ [] := by
  let part : JsonFields := [(lit "type", .str (lit "text")), (lit "text", .str [])]
  have written : extractOpenAIMessageText (.obj part) = JsonText.marshal (.obj part) := by
    rw [extractOpenAIMessageText]
    rfl
  change extractOpenAIMessageText (.arr [.obj part]) ≠ []
  rw [extractOpenAIMessageText, partTexts, written, partTexts]
  cases blank (JsonText.marshal (.obj part)) with
  | true =>
      change JsonText.marshal (.arr [.obj part]) ≠ []
      rw [JsonText.marshal]
      intro empty
      have bracket : lit "[" = [] :=
        (List.append_eq_nil_iff.mp (List.append_eq_nil_iff.mp empty).1).1
      exact absurd bracket (by decide)
  | false =>
      change JsonText.marshal (.obj part) ++ [] ≠ []
      rw [List.append_nil]
      exact marshalled_object_ne_nil part

/-- The front of the second turn. -/
def secondText : List Turn → GoString
  | _ :: .block front _ :: _ => front
  | _ => []

end Conversations

end KiroProxy.Responses
