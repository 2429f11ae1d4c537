import KiroProxy.Foundation.Runs
import KiroProxy.Proxy.PayloadMemory

/-!
# Chains of follow-ups

A follow-up copies the messages it extends into fresh cells and writes to no other cell,
so every payload of a chain reads to its end as it did when it was made. What the two
builders do to values is carried along such a chain.
-/

namespace KiroProxy.FollowupChains

open FollowupPayloads Foundation.Runs GoStrings KiroTypes PayloadMemory ToolDeclarations ToolHistory
open ToolNames (NameMap)

set_option autoImplicit false

section Copying

def newUser (cell : UserCell) (memory : Memory) : Memory × Nat :=
  ({ memory with
      users := Function.update memory.users memory.next cell
      next := memory.next + 1 }, memory.next)

def newAssistant (assistant : KiroAssistantResponseMessage) (memory : Memory) : Memory × Nat :=
  ({ memory with
      assistants := Function.update memory.assistants memory.next assistant
      next := memory.next + 1 }, memory.next)

def newContext (context : UserInputMessageContext) (memory : Memory) : Memory × Nat :=
  ({ memory with
      contexts := Function.update memory.contexts memory.next context
      next := memory.next + 1 }, memory.next)

/-- A copy of a user message, with a copy of its context. -/
def copyUser (cell : UserCell) (memory : Memory) : Memory × Nat :=
  match cell.context with
  | none => newUser cell memory
  | some address =>
      let context := newContext (memory.contexts address) memory
      newUser { cell with context := some context.2 } context.1

def copyAssistant (assistant : Option Nat) (memory : Memory) : Memory × Option Nat :=
  match assistant with
  | none => (memory, none)
  | some address =>
      let copied := newAssistant (memory.assistants address) memory
      (copied.1, some copied.2)

def copyMessage (ref : MessageRef) (memory : Memory) : Memory × MessageRef :=
  let assistant := copyAssistant ref.assistant memory
  match ref.user with
  | none => (assistant.1, ⟨none, assistant.2⟩)
  | some address =>
      let user := copyUser (assistant.1.users address) assistant.1
      (user.1, ⟨some user.2, assistant.2⟩)

def copyHistory : List MessageRef → Memory → Memory × List MessageRef
  | [], memory => (memory, [])
  | ref :: refs, memory =>
      let copied := copyMessage ref memory
      let rest := copyHistory refs copied.1
      (rest.1, copied.2 :: rest.2)

/-- The cells in use before are the same after. -/
structure Grows (before after : Memory) : Prop where
  others : ∀ address, address < before.next → Agrees before after address
  next : before.next ≤ after.next

theorem grows_refl (memory : Memory) : Grows memory memory :=
  ⟨fun address _ => agrees_refl memory address, Nat.le_refl _⟩

theorem grows_trans {first second third : Memory} (one : Grows first second)
    (two : Grows second third) : Grows first third where
  others := fun address used => agrees_trans (one.others address used)
    (two.others address (Nat.lt_of_lt_of_le used one.next))
  next := Nat.le_trans one.next two.next

/-- Messages made in cells of their own that were not in use before. -/
structure Made (before after : Memory) (refs : List MessageRef) (value : History) : Prop where
  grows : Grows before after
  reads : readHistory after refs = value
  fresh : ∀ address ∈ footprints after refs, before.next ≤ address ∧ address < after.next
  separate : (footprints after refs).Nodup

theorem made_nil (memory : Memory) : Made memory memory [] [] :=
  ⟨grows_refl memory, rfl, by simp [footprints], List.nodup_nil⟩

theorem made_append {first second third : Memory} {refs more : List MessageRef}
    {value others : History} (one : Made first second refs value)
    (two : Made second third more others) : Made first third (refs ++ more) (value ++ others) := by
  have kept := read_others refs (fun address member =>
    two.grows.others address (one.fresh address member).2)
  have cells : footprints third (refs ++ more) =
      footprints second refs ++ footprints third more := by
    unfold footprints at kept ⊢
    rw [List.flatMap_append, kept.2]
  constructor
  · exact grows_trans one.grows two.grows
  · rw [readHistory, List.map_append]
    exact congrArg₂ _ (kept.1.trans one.reads) two.reads
  · intro address member
    rw [cells, List.mem_append] at member
    cases member with
    | inl old =>
        have range := one.fresh address old
        exact ⟨range.1, Nat.lt_of_lt_of_le range.2 two.grows.next⟩
    | inr new =>
        have range := two.fresh address new
        exact ⟨Nat.le_trans one.grows.next range.1, range.2⟩
  · rw [cells, List.nodup_append']
    refine ⟨one.separate, two.separate, ?_⟩
    intro address old new
    exact Nat.lt_irrefl _ (Nat.lt_of_lt_of_le (one.fresh address old).2 (two.fresh address new).1)

/-- The two sides of a message made one after the other. -/
theorem made_message {before after : Memory} {user assistant : Option Nat}
    {message : KiroHistoryMessage}
    (sides : Made before after [⟨none, assistant⟩, ⟨user, none⟩]
      [⟨none, message.assistantResponseMessage⟩, ⟨message.userInputMessage, none⟩]) :
    Made before after [⟨user, assistant⟩] [message] := by
  have cells : footprints after [⟨user, assistant⟩] =
      footprints after [⟨none, assistant⟩, ⟨user, none⟩] := by
    simp [footprints, footprint]
  constructor
  · exact sides.grows
  · have reads := sides.reads
    simp only [readHistory, List.map_cons, List.map_nil, readMessage, Option.map_none,
      List.cons.injEq, KiroHistoryMessage.mk.injEq, and_true, true_and] at reads
    rw [readHistory, List.map_singleton, readMessage, reads.1, reads.2]
  · rw [cells]
    exact sides.fresh
  · rw [cells]
    exact sides.separate

theorem new_user_grows (cell : UserCell) (memory : Memory) :
    Grows memory (newUser cell memory).1 := by
  constructor
  · intro address used
    exact ⟨Function.update_of_ne (Nat.ne_of_lt used) _ _, rfl, rfl⟩
  · exact Nat.le_succ _

theorem new_assistant_grows (assistant : KiroAssistantResponseMessage) (memory : Memory) :
    Grows memory (newAssistant assistant memory).1 := by
  constructor
  · intro address used
    exact ⟨rfl, Function.update_of_ne (Nat.ne_of_lt used) _ _, rfl⟩
  · exact Nat.le_succ _

theorem new_context_grows (context : UserInputMessageContext) (memory : Memory) :
    Grows memory (newContext context memory).1 := by
  constructor
  · intro address used
    exact ⟨rfl, rfl, Function.update_of_ne (Nat.ne_of_lt used) _ _⟩
  · exact Nat.le_succ _

theorem assistant_made (assistant : KiroAssistantResponseMessage) (memory : Memory) :
    Made memory (newAssistant assistant memory).1
      [⟨none, some (newAssistant assistant memory).2⟩] [⟨none, some assistant⟩] := by
  constructor
  · exact new_assistant_grows assistant memory
  · simp [readHistory, readMessage, newAssistant]
  · simp [footprints, footprint, newAssistant]
  · simp [footprints, footprint]

theorem user_made (cell : UserCell) (memory : Memory) :
    Made memory (copyUser cell memory).1 [⟨some (copyUser cell memory).2, none⟩]
      [⟨some (readUser memory cell), none⟩] := by
  unfold copyUser
  cases held : cell.context with
  | none =>
      constructor
      · exact new_user_grows cell memory
      · simp [readHistory, readMessage, readUser, newUser, held]
      · simp [footprints, footprint, newUser, held]
      · simp [footprints, footprint, newUser, held]
  | some address =>
      constructor
      · exact grows_trans (new_context_grows _ memory) (new_user_grows _ _)
      · simp [readHistory, readMessage, readUser, newUser, newContext, held]
      · intro cell inside
        simp only [footprints, footprint, newUser, newContext, List.flatMap_cons, List.flatMap_nil] at inside ⊢
        simp at inside
        omega
      · simp [footprints, footprint, newUser, newContext]

theorem copy_assistant_made (assistant : Option Nat) (memory : Memory) :
    Made memory (copyAssistant assistant memory).1
      [⟨none, (copyAssistant assistant memory).2⟩] [⟨none, assistant.map memory.assistants⟩] := by
  cases assistant with
  | none => exact ⟨grows_refl memory, rfl, by simp [footprints, footprint, copyAssistant],
      by simp [footprints, footprint, copyAssistant]⟩
  | some address => exact assistant_made (memory.assistants address) memory

theorem copy_message_made (ref : MessageRef) (memory : Memory)
    (used : ∀ address ∈ footprint memory ref, address < memory.next) :
    Made memory (copyMessage ref memory).1 [(copyMessage ref memory).2]
      [readMessage memory ref] := by
  have answer := copy_assistant_made ref.assistant memory
  unfold copyMessage
  obtain ⟨user, assistant⟩ := ref
  cases user with
  | none =>
      apply made_message
      exact made_append answer ⟨grows_refl _, rfl, by simp [footprints, footprint],
        by simp [footprints, footprint]⟩
  | some address =>
      have same := (read_elsewhere ⟨some address, assistant⟩ (fun other member =>
        answer.grows.others other (used other member))).1
      have read := congrArg KiroHistoryMessage.userInputMessage same
      simp only [readMessage, Option.map_some, Option.some.injEq] at read
      apply made_message
      have user := user_made ((copyAssistant assistant memory).1.users address)
        (copyAssistant assistant memory).1
      rw [read] at user
      exact made_append answer user

theorem copy_history_made (refs : List MessageRef) (memory : Memory)
    (used : ∀ address ∈ footprints memory refs, address < memory.next) :
    Made memory (copyHistory refs memory).1 (copyHistory refs memory).2
      (readHistory memory refs) := by
  induction refs generalizing memory with
  | nil => exact made_nil memory
  | cons ref refs ih =>
      have split : footprints memory (ref :: refs) = footprint memory ref ++ footprints memory refs :=
        rfl
      rw [split] at used
      have here := copy_message_made ref memory (fun address member =>
        used address (List.mem_append_left _ member))
      have others := read_others refs (fun address member =>
        here.grows.others address (used address (List.mem_append_right _ member)))
      have rest := ih (copyMessage ref memory).1 (fun address member => by
        rw [others.2] at member
        exact Nat.lt_of_lt_of_le (used address (List.mem_append_right _ member)) here.grows.next)
      rw [others.1] at rest
      exact made_append here rest

/-- A pass over messages just made. -/
theorem made_in_place {before after later : Memory} {refs left : List MessageRef}
    {value final : History} (made : Made before after refs value)
    (pass : InPlace after refs later left final) : Made before later left final := by
  constructor
  · constructor
    · intro address used
      apply agrees_trans (made.grows.others address used)
      apply pass.writes.others
      intro member
      exact Nat.not_lt_of_le (made.fresh address member).1 used
    · rw [pass.writes.next]
      exact made.grows.next
  · exact pass.reads
  · intro address member
    rw [pass.writes.next]
    exact made.fresh address (pass.part.subset member)
  · exact pass.part.nodup made.separate

end Copying

section Builders

def toolsInMemory (memory : Memory) (base : PayloadRef) : List KiroToolWrapper :=
  match base.current.context with
  | some address => (memory.contexts address).tools
  | none => []

def declaredInMemory (enabled : Bool) (order : NameMap) (memory : Memory) (base : PayloadRef) :
    NameMap :=
  match base.current.context with
  | some address =>
      structuredToolHistoryNames enabled (memory.contexts address).tools order
  | none => []

/-- The copied history, the current message and the assistant's new turn behind it. -/
def extendInMemory (base : PayloadRef) (assistant : KiroAssistantResponseMessage)
    (memory : Memory) : Memory × List MessageRef :=
  let copied := copyHistory base.history memory
  let user := copyUser base.current copied.1
  let answer := newAssistant assistant user.1
  (answer.1, copied.2 ++ ([⟨some user.2, none⟩] ++ [⟨none, some answer.2⟩]))

/-- The extended history sanitized for the tools the base payload declares. -/
def historyInMemory (enabled : Bool) (order : NameMap) (base : PayloadRef)
    (assistant : KiroAssistantResponseMessage) (ids : List GoString) (memory : Memory) :
    Memory × List MessageRef :=
  let extended := extendInMemory base assistant memory
  sanitizeForToolsInPlace extended.2 ids (declaredInMemory enabled order extended.1 base)
    extended.1

def searchInMemory (enabled : Bool) (orders : MapOrders) (base : PayloadRef)
    (uses : List KiroToolUse) (results : List KiroToolResult) (memory : Memory) :
    Memory × PayloadRef :=
  let history := historyInMemory enabled orders.declared base ⟨[], putBackCalls orders uses⟩
    (results.map KiroToolResult.toolUseID) memory
  let context := newContext ⟨toolsInMemory history.1 base, results⟩ history.1
  (context.1, { base with
    history := history.2
    current :=
      { content := buildToolResultsContinuation results
        modelID := base.current.modelID
        origin := base.current.origin
        images := []
        documents := []
        context := some context.2 } })

def continueInMemory (enabled : Bool) (orders : MapOrders) (base : PayloadRef)
    (answer : GoString) (budget : Int) (memory : Memory) : Memory × PayloadRef :=
  let history := historyInMemory enabled orders.declared base ⟨answer, []⟩ [] memory
  let current : UserCell :=
    { content := autoContinuePrompt
      modelID := base.current.modelID
      origin := base.current.origin
      images := []
      documents := []
      context := none }
  let next : PayloadRef :=
    { base with
      history := history.2
      current := current
      inferenceConfig :=
        if 0 < budget then base.inferenceConfig.map fun _ => ⟨budget⟩ else base.inferenceConfig }
  if toolsInMemory history.1 base = [] then (history.1, next)
  else
    let context := newContext ⟨toolsInMemory history.1 base, []⟩ history.1
    (context.1, { next with current := { current with context := some context.2 } })

/-- A payload is read from cells in use. -/
structure Allocated (memory : Memory) (payload : PayloadRef) : Prop where
  history : ∀ address ∈ footprints memory payload.history, address < memory.next
  context : ∀ address ∈ payload.current.context, address < memory.next

theorem read_user_grown {before after : Memory} (grows : Grows before after) (cell : UserCell)
    (used : ∀ address ∈ cell.context, address < before.next) :
    readUser after cell = readUser before cell := by
  unfold readUser
  cases held : cell.context with
  | none => rfl
  | some address =>
      have same := (grows.others address (used address held)).contexts
      simp only [Option.map_some, same]

/-- A payload reads the same in every memory grown from one it was made in. -/
theorem read_payload_grown {before after : Memory} (grows : Grows before after)
    (payload : PayloadRef) (allocated : Allocated before payload) :
    readPayload after payload = readPayload before payload ∧ Allocated after payload := by
  have history := read_others payload.history (fun address member =>
    grows.others address (allocated.history address member))
  constructor
  · unfold readPayload
    rw [history.1, read_user_grown grows payload.current allocated.context]
  · constructor
    · rw [history.2]
      intro address member
      exact Nat.lt_of_lt_of_le (allocated.history address member) grows.next
    · intro address member
      exact Nat.lt_of_lt_of_le (allocated.context address member) grows.next

theorem tools_in_memory (memory : Memory) (base : PayloadRef) :
    toolsInMemory memory base = currentTools (readPayload memory base) := by
  unfold toolsInMemory currentTools readPayload readUser
  cases base.current.context <;> rfl

theorem declared_in_memory (enabled : Bool) (order : NameMap) (memory : Memory)
    (base : PayloadRef) :
    declaredInMemory enabled order memory base =
      declaredMap enabled order (readPayload memory base) := by
  unfold declaredInMemory declaredMap readPayload readUser
  cases base.current.context <;> rfl

theorem extend_made (base : PayloadRef) (content : GoString) (uses : List KiroToolUse)
    (memory : Memory) (allocated : Allocated memory base) :
    Made memory (extendInMemory base ⟨content, uses⟩ memory).1
      (extendInMemory base ⟨content, uses⟩ memory).2
      (extended (readPayload memory base) content uses) := by
  have copied := copy_history_made base.history memory allocated.history
  have user := user_made base.current (copyHistory base.history memory).1
  rw [read_user_grown copied.grows base.current allocated.context] at user
  exact made_append copied (made_append user (assistant_made ⟨content, uses⟩ _))

/-- The history of a follow-up, in cells of its own. -/
theorem followup_history_made (enabled : Bool) (order : NameMap) (base : PayloadRef)
    (content : GoString) (uses : List KiroToolUse) (ids : List GoString) (memory : Memory)
    (allocated : Allocated memory base) :
    Made memory (historyInMemory enabled order base ⟨content, uses⟩ ids memory).1
      (historyInMemory enabled order base ⟨content, uses⟩ ids memory).2
      (sanitizeKiroHistoryForTools (extended (readPayload memory base) content uses) ids
        (declaredMap enabled order (readPayload memory base))) := by
  have made := extend_made base content uses memory allocated
  unfold historyInMemory
  simp only
  rw [declared_in_memory, (read_payload_grown made.grows base allocated).1]
  have pass := sanitize_for_tools_in_place (extendInMemory base ⟨content, uses⟩ memory).2 ids
    (declaredMap enabled order (readPayload memory base)) _ made.separate
  rw [made.reads] at pass
  exact made_in_place made pass

/-- What a builder does in memory: the payload reads as the one built from the values, and
no cell in use before is written. -/
structure Builds (before : Memory) (built : Memory × PayloadRef) (value : KiroPayload) :
    Prop where
  grows : Grows before built.1
  allocated : Allocated built.1 built.2
  reads : readPayload built.1 built.2 = value

theorem search_builds (enabled : Bool) (orders : MapOrders) (base : PayloadRef)
    (uses : List KiroToolUse) (results : List KiroToolResult) (memory : Memory)
    (allocated : Allocated memory base) :
    Builds memory (searchInMemory enabled orders base uses results memory)
      (buildWebSearchFollowupPayload enabled orders (readPayload memory base) uses results) := by
  have made := followup_history_made enabled orders.declared base [] (putBackCalls orders uses)
    (results.map KiroToolResult.toolUseID) memory allocated
  unfold searchInMemory
  generalize historyInMemory _ _ _ _ _ _ = history at made ⊢
  simp only
  have grows := new_context_grows ⟨toolsInMemory history.1 base, results⟩ history.1
  have kept := read_others history.2 (fun address member =>
    grows.others address (made.fresh address member).2)
  constructor
  · exact grows_trans made.grows grows
  · constructor
    · rw [kept.2]
      intro address member
      exact Nat.lt_of_lt_of_le (made.fresh address member).2 grows.next
    · intro address member
      rw [← Option.some.inj member]
      exact Nat.lt_succ_self _
  · have tools : toolsInMemory history.1 base = currentTools (readPayload memory base) := by
      rw [tools_in_memory, (read_payload_grown made.grows base allocated).1]
    rw [readPayload, kept.1, made.reads, tools]
    simp [readUser, newContext, buildWebSearchFollowupPayload, extended, readPayload]

theorem continuation_builds (enabled : Bool) (orders : MapOrders) (base : PayloadRef)
    (answer : GoString) (budget : Int) (memory : Memory) (allocated : Allocated memory base) :
    Builds memory (continueInMemory enabled orders base answer budget memory)
      (buildContinuationPayload enabled orders (readPayload memory base) answer budget) := by
  have made := followup_history_made enabled orders.declared base answer [] [] memory allocated
  unfold continueInMemory
  generalize historyInMemory _ _ _ _ _ _ = history at made ⊢
  simp only
  have tools : toolsInMemory history.1 base = currentTools (readPayload memory base) := by
    rw [tools_in_memory, (read_payload_grown made.grows base allocated).1]
  by_cases empty : toolsInMemory history.1 base = []
  · rw [if_pos empty]
    constructor
    · exact made.grows
    · constructor
      · intro address member
        exact (made.fresh address member).2
      · intro address member
        simp at member
    · rw [tools] at empty
      rw [readPayload, made.reads]
      simp [readUser, buildContinuationPayload, extended, readPayload] at empty ⊢
      simp [empty]
  · rw [if_neg empty]
    have grows := new_context_grows ⟨toolsInMemory history.1 base, []⟩ history.1
    have kept := read_others history.2 (fun address member =>
      grows.others address (made.fresh address member).2)
    constructor
    · exact grows_trans made.grows grows
    · constructor
      · rw [kept.2]
        intro address member
        exact Nat.lt_of_lt_of_le (made.fresh address member).2 grows.next
      · intro address member
        rw [← Option.some.inj member]
        exact Nat.lt_succ_self _
    · rw [tools] at empty
      rw [readPayload, kept.1, made.reads, tools]
      simp [readUser, newContext, buildContinuationPayload, extended, readPayload] at empty ⊢
      simp [empty]

end Builders

section Chains

/-- A follow-up of either kind; `enabled` is `structuredToolHistoryEnabled()` as it is built. -/
inductive Followup where
  | webSearch (enabled : Bool) (orders : MapOrders) (uses : List KiroToolUse)
      (results : List KiroToolResult)
  | continuation (enabled : Bool) (orders : MapOrders) (answer : GoString) (budget : Int)

def Followup.enabled : Followup → Bool
  | .webSearch enabled _ _ _ => enabled
  | .continuation enabled _ _ _ => enabled

def Followup.orders : Followup → MapOrders
  | .webSearch _ orders _ _ => orders
  | .continuation _ orders _ _ => orders

/-- The payload made last, in the memory of all payloads of the chain. -/
structure Chain where
  memory : Memory
  payload : PayloadRef

def Chain.value (chain : Chain) : KiroPayload := readPayload chain.memory chain.payload

def followUp (chain : Chain) (followup : Followup) : Chain :=
  let built := match followup with
    | .webSearch enabled orders uses results =>
        searchInMemory enabled orders chain.payload uses results chain.memory
    | .continuation enabled orders answer budget =>
        continueInMemory enabled orders chain.payload answer budget chain.memory
  ⟨built.1, built.2⟩

def followUpValue (payload : KiroPayload) : Followup → KiroPayload
  | .webSearch enabled orders uses results =>
      buildWebSearchFollowupPayload enabled orders payload uses results
  | .continuation enabled orders answer budget =>
      buildContinuationPayload enabled orders payload answer budget

/-- A search is called under ids that are not in the conversation, and answered by these. -/
def FreshCalls (chain : Chain) : Followup → Prop
  | .webSearch _ _ uses results =>
      ((calls chain.value.history ++ uses).map KiroToolUse.toolUseID).Nodup ∧
        idsAnswered uses results
  | .continuation _ _ _ _ => True

structure Sound (chain : Chain) : Prop where
  allocated : Allocated chain.memory chain.payload
  paired : ToolsPaired chain.value

theorem follow_up_builds (chain : Chain) (followup : Followup)
    (allocated : Allocated chain.memory chain.payload) :
    Builds chain.memory ((followUp chain followup).memory, (followUp chain followup).payload)
      (followUpValue chain.value followup) := by
  cases followup with
  | webSearch enabled orders uses results =>
      exact search_builds enabled orders chain.payload uses results chain.memory allocated
  | continuation enabled orders answer budget =>
      exact continuation_builds enabled orders chain.payload answer budget chain.memory allocated

theorem follow_up_sound (chain : Chain) (followup : Followup) (sound : Sound chain)
    (fresh : FreshCalls chain followup) : Sound (followUp chain followup) := by
  have builds := follow_up_builds chain followup sound.allocated
  constructor
  · exact builds.allocated
  · rw [Chain.value, builds.reads]
    cases followup with
    | webSearch enabled orders uses results =>
        exact search_paired enabled orders chain.value uses results sound.paired fresh.1 fresh.2
    | continuation enabled orders answer budget =>
        exact continuation_paired enabled orders chain.value answer budget sound.paired

/-- No follow-up of a chain writes to the cells it finds in use. -/
theorem follow_ups_grow (chain : Chain) (followups : List Followup)
    (allocated : Allocated chain.memory chain.payload) :
    Grows chain.memory (run followUp chain followups).memory := by
  induction followups generalizing chain with
  | nil => exact grows_refl chain.memory
  | cons followup followups ih =>
      have builds := follow_up_builds chain followup allocated
      exact grows_trans builds.grows (ih (followUp chain followup) builds.allocated)

variable {declaration : ToolDeclaration}

theorem follow_up_carries (original : KiroPayload) (chain : Chain) (followup : Followup)
    (allocated : Allocated chain.memory chain.payload) (enabled : followup.enabled = true)
    (visits : Visits followup.orders.declared declaration.nameMap)
    (carries : Carries declaration original chain.value) :
    Carries declaration original (followUp chain followup).value := by
  rw [Chain.value, (follow_up_builds chain followup allocated).reads]
  cases followup with
  | webSearch structured orders uses results =>
      have on : structured = true := enabled
      rw [on]
      exact followup_carries original chain.value _ [] (putBackCalls orders uses)
        (results.map KiroToolResult.toolUseID) orders.declared visits carries rfl rfl rfl
  | continuation structured orders answer budget =>
      have on : structured = true := enabled
      rw [on]
      apply followup_carries original chain.value _ answer [] [] orders.declared visits carries rfl
      · unfold followUpValue buildContinuationPayload
        by_cases empty : currentTools chain.value = []
        · rw [empty]
          simp [currentTools]
        · simp [currentTools] at empty ⊢
          simp [empty]
      · rfl

theorem follow_ups_carry (original : KiroPayload) (chain : Chain) (followups : List Followup)
    (allocated : Allocated chain.memory chain.payload)
    (structured : ∀ followup ∈ followups, followup.enabled = true ∧
      Visits followup.orders.declared declaration.nameMap)
    (carries : Carries declaration original chain.value) :
    Carries declaration original (run followUp chain followups).value := by
  induction followups generalizing chain with
  | nil => exact carries
  | cons followup followups ih =>
      have here := structured followup List.mem_cons_self
      apply ih (followUp chain followup)
      · exact (follow_up_builds chain followup allocated).allocated
      · intro other member
        exact structured other (List.mem_cons_of_mem _ member)
      · exact follow_up_carries original chain followup allocated here.1 here.2 carries

/-- A payload of the declared tools whose calls can stay structured. -/
structure Answerable (declaration : ToolDeclaration) (payload : KiroPayload) : Prop where
  tools : currentTools payload = declaration.tools
  names : payload.toolNameMap = declaration.nameMap
  starts : StartsWithUser payload.history
  declared : ∀ use ∈ calls payload.history, declaredName declaration use.name
  present : ∀ use ∈ calls payload.history, use.toolUseID ≠ []
  once : ∀ exchange ∈ exchanges payload.history (currentResults payload),
    (exchange.2.map KiroToolResult.toolUseID).Nodup

theorem answerable_carries (payload : KiroPayload) (paired : ToolsPaired payload)
    (answerable : Answerable declaration payload) : Carries declaration payload payload := by
  constructor
  · exact answerable.tools
  · exact answerable.names
  · exact paired.sided
  · exact answerable.starts
  · refine ⟨_, List.Sublist.refl _, List.forall₂_same.mpr fun _ _ => ⟨rfl, rfl⟩, ?_⟩
    intro exchange member
    have part := exchange_calls _ _ exchange member
    have distinct := (part.map KiroToolUse.toolUseID).nodup paired.distinct
    constructor
    · exact exchange_calls_ne_nil _ _ exchange member
    · exact distinct
    · intro use inside
      exact answerable.present use (part.subset inside)
    · rw [List.perm_ext_iff_of_nodup (answerable.once exchange member) distinct]
      exact paired.answered exchange member
    · intro use inside
      exact answerable.declared use (part.subset inside)

def searchTool : KiroToolWrapper := ⟨lit "f", [], .null⟩

def searchDeclaration : ToolDeclaration where
  tools := [searchTool]
  nameMap := []
  named := by
    intro name member
    rw [List.mem_singleton.mp member]
    decide
  mapped := by simp

/-- A user's turn and one call, answered in the current message. -/
def oneCall (id : GoString) (results : List KiroToolResult) : Chain where
  memory :=
    { users := fun _ => ⟨lit "go", [], [], [], [], none⟩
      assistants := fun _ => ⟨[], [⟨id, lit "f", []⟩]⟩
      contexts := fun _ => ⟨[searchTool], results⟩
      next := 3 }
  payload :=
    { current := ⟨[], [], [], [], [], some 2⟩
      history := [⟨some 0, none⟩, ⟨none, some 1⟩]
      inferenceConfig := none
      toolNameMap := [] }

def plainOrders : MapOrders := ⟨[], fun _ => []⟩

theorem plain_orders_visit : Visits plainOrders.declared searchDeclaration.nameMap :=
  ⟨List.nodup_nil, by simp [plainOrders, searchDeclaration]⟩

theorem one_call_sound (id : GoString) (results : List KiroToolResult)
    (answered : idsAnswered [⟨id, lit "f", []⟩] results) : Sound (oneCall id results) := by
  constructor
  · constructor
    · simp [oneCall, footprints, footprint]
    · simp [oneCall]
  · constructor
    · intro msg member
      simp only [oneCall, Chain.value, readPayload, readHistory, List.map_cons, List.map_nil,
        List.mem_cons, List.not_mem_nil, or_false] at member
      cases member with
      | inl user =>
          rw [user]
          exact Or.inr rfl
      | inr assistant =>
          rw [assistant]
          exact Or.inl rfl
    · intro exchange member
      rw [List.mem_singleton.mp member]
      exact answered
    · exact List.nodup_singleton id

theorem one_call_declared (id : GoString) (results : List KiroToolResult) :
    ∀ use ∈ calls (oneCall id results).value.history,
      declaredName searchDeclaration use.name := by
  intro use member
  rw [List.mem_singleton.mp member]
  exact Or.inl List.mem_cons_self

/-- Along a chain every payload is paired, reads to the end as when it was made, and narrates
nothing of an answerable first payload while the structured history stays on. -/
theorem chain_keeps_tools_paired (chain : Chain) (earlier later : List Followup)
    (sound : Sound chain) (fresh : StepsMeet followUp FreshCalls chain (earlier ++ later)) :
    ToolsPaired (run followUp chain earlier).value ∧
      readPayload (run followUp chain (earlier ++ later)).memory
          (run followUp chain earlier).payload =
        (run followUp chain earlier).value ∧
      ∀ declaration, Answerable declaration chain.value →
        (∀ followup ∈ earlier, followup.enabled = true ∧
          Visits followup.orders.declared declaration.nameMap) →
        KeepsExchanges chain.value (run followUp chain earlier).value := by
  have always := always_of_guarded_steps followUp FreshCalls Sound follow_up_sound chain sound
    (earlier ++ later) fresh
  have made := always earlier later rfl
  refine ⟨made.paired, ?_, ?_⟩
  · rw [run_append]
    have grows := follow_ups_grow (run followUp chain earlier) later made.allocated
    exact (read_payload_grown grows _ made.allocated).1
  · intro declaration answerable structured
    have carries := follow_ups_carry chain.value chain earlier sound.allocated structured
      (answerable_carries chain.value sound.paired answerable)
    exact carries_keeps chain.value _ carries

/-- A search for a second call, then two continuations. -/
theorem searched_call_kept :
    let chain := oneCall (lit "t") [⟨lit "t", [], []⟩]
    let search : Followup :=
      .webSearch true plainOrders [⟨lit "s", lit "f", []⟩] [⟨lit "s", [], []⟩]
    let more : Followup := .continuation true plainOrders (lit "so") 0
    ToolsPaired (run followUp chain [search, more]).value ∧
      readPayload (run followUp chain [search, more, more]).memory
          (run followUp chain [search, more]).payload =
        (run followUp chain [search, more]).value ∧
      KeepsExchanges chain.value (run followUp chain [search, more]).value := by
  intro chain search more
  have answered : idsAnswered [⟨lit "t", lit "f", []⟩] [⟨lit "t", [], []⟩] := fun _ => Iff.rfl
  have answerable : Answerable searchDeclaration chain.value := by
    constructor
    · rfl
    · rfl
    · intro msg member
      rw [← Option.some.inj member]
      rfl
    · exact one_call_declared _ _
    · intro use member
      rw [List.mem_singleton.mp member]
      decide
    · intro exchange member
      rw [List.mem_singleton.mp member]
      exact List.nodup_singleton _
  have fresh : StepsMeet followUp FreshCalls chain ([search, more] ++ [more]) := by
    simp only [List.cons_append, List.nil_append, steps_meet_cons]
    refine ⟨⟨?_, fun _ => Iff.rfl⟩, trivial, trivial, steps_meet_nil _ _ _⟩
    exact (by decide : [lit "t", lit "s"].Nodup)
  have kept := chain_keeps_tools_paired chain [search, more] [more]
    (one_call_sound _ _ answered) fresh
  refine ⟨kept.1, kept.2.1, kept.2.2 searchDeclaration answerable ?_⟩
  intro followup member
  rw [List.mem_cons, List.mem_singleton] at member
  cases member with
  | inl first =>
      rw [first]
      exact ⟨rfl, plain_orders_visit⟩
  | inr second =>
      rw [second]
      exact ⟨rfl, plain_orders_visit⟩

theorem one_call_narrated (id : GoString) (results : List KiroToolResult)
    (answered : idsAnswered [⟨id, lit "f", []⟩] results)
    (none : exchanges (buildContinuationPayload true plainOrders (oneCall id results).value
      (lit "so") 0).history [] = []) :
    ¬KeepsExchanges (oneCall id results).value
      (followUp (oneCall id results) (.continuation true plainOrders (lit "so") 0)).value := by
  intro keeps
  have builds := follow_up_builds (oneCall id results)
    (.continuation true plainOrders (lit "so") 0) (one_call_sound id results answered).allocated
  rw [Chain.value, Chain.value, builds.reads] at keeps
  obtain ⟨kept, part, same⟩ := keeps
  have empty : kept = [] := List.sublist_nil.mp (none ▸ part)
  rw [empty] at same
  exact absurd (List.forall₂_nil_right_iff.mp same) (List.cons_ne_nil _ _)

/-- The chain meets every condition of the base payload, and a continuation narrates its call. -/
structure NarratesPairedCall (chain : Chain) : Prop where
  sound : Sound chain
  tools : currentTools chain.value = searchDeclaration.tools
  names : chain.value.toolNameMap = searchDeclaration.nameMap
  starts : StartsWithUser chain.value.history
  declared : ∀ use ∈ calls chain.value.history, declaredName searchDeclaration use.name
  narrated : ¬KeepsExchanges chain.value
    (followUp chain (.continuation true plainOrders (lit "so") 0)).value

theorem one_call_narrates (id : GoString) (results : List KiroToolResult)
    (answered : idsAnswered [⟨id, lit "f", []⟩] results)
    (none : exchanges (buildContinuationPayload true plainOrders (oneCall id results).value
      (lit "so") 0).history [] = []) : NarratesPairedCall (oneCall id results) := by
  constructor
  · exact one_call_sound id results answered
  · rfl
  · rfl
  · intro msg member
    rw [← Option.some.inj member]
    rfl
  · exact one_call_declared id results
  · exact one_call_narrated id results answered none

/-- A call without an id, and one with two results, are narrated although both are paired. -/
theorem unanswerable_calls_narrated :
    Visits plainOrders.declared searchDeclaration.nameMap ∧
      NarratesPairedCall (oneCall [] [⟨[], [], []⟩]) ∧
      NarratesPairedCall (oneCall (lit "t") [⟨lit "t", [], []⟩, ⟨lit "t", [], []⟩]) := by
  have doubled : idsAnswered [⟨lit "t", lit "f", []⟩]
      [⟨lit "t", [], []⟩, ⟨lit "t", [], []⟩] := by
    intro id
    simp
  exact ⟨plain_orders_visit, one_call_narrates _ _ (fun _ => Iff.rfl) (by rfl),
    one_call_narrates _ _ doubled (by rfl)⟩

end Chains

end KiroProxy.FollowupChains
