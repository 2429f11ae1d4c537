import KiroProxy.Proxy.FollowupPayloads
import Mathlib.Logic.Function.Basic

/-!
# Payloads in memory

A payload reaches its history through pointers, and the sanitizer writes through them:
into user messages, assistant messages and contexts. The follow-ups copy these first.
Slices and maps are values here: the passes replace them and write no element of one
that another payload can reach.
-/

namespace KiroProxy.PayloadMemory

open FollowupPayloads GoStrings KiroTypes ToolDeclarations ToolHistory
open ToolNames (NameMap)

set_option autoImplicit false

/-- A user message, with the pointer to its context. -/
structure UserCell where
  content : GoString
  modelID : GoString
  origin : GoString
  images : List KiroImage
  documents : List KiroDocument
  context : Option Nat

/-- The messages and contexts by address; the addresses from `next` on are free. -/
structure Memory where
  users : Nat → UserCell
  assistants : Nat → KiroAssistantResponseMessage
  contexts : Nat → UserInputMessageContext
  next : Nat

structure MessageRef where
  user : Option Nat
  assistant : Option Nat

structure PayloadRef where
  current : UserCell
  history : List MessageRef
  inferenceConfig : Option InferenceConfig
  toolNameMap : NameMap

section Reading

def readUser (memory : Memory) (cell : UserCell) : KiroUserInputMessage :=
  { content := cell.content
    modelID := cell.modelID
    origin := cell.origin
    images := cell.images
    documents := cell.documents
    userInputMessageContext := cell.context.map memory.contexts }

def readMessage (memory : Memory) (ref : MessageRef) : KiroHistoryMessage :=
  { userInputMessage := ref.user.map fun address => readUser memory (memory.users address)
    assistantResponseMessage := ref.assistant.map memory.assistants }

def readHistory (memory : Memory) (refs : List MessageRef) : History :=
  refs.map (readMessage memory)

def readPayload (memory : Memory) (payload : PayloadRef) : KiroPayload :=
  { current := readUser memory payload.current
    history := readHistory memory payload.history
    inferenceConfig := payload.inferenceConfig
    toolNameMap := payload.toolNameMap }

/-- The addresses a message is read from. -/
def footprint (memory : Memory) (ref : MessageRef) : List Nat :=
  ref.assistant.toList ++ ref.user.toList ++
    (ref.user.bind fun address => (memory.users address).context).toList

def footprints (memory : Memory) (refs : List MessageRef) : List Nat :=
  refs.flatMap (footprint memory)

/-- The cells at the address are the same in both memories. -/
structure Agrees (before after : Memory) (address : Nat) : Prop where
  users : after.users address = before.users address
  assistants : after.assistants address = before.assistants address
  contexts : after.contexts address = before.contexts address

theorem agrees_refl (memory : Memory) (address : Nat) : Agrees memory memory address :=
  ⟨rfl, rfl, rfl⟩

theorem agrees_trans {first second third : Memory} {address : Nat}
    (one : Agrees first second address) (two : Agrees second third address) :
    Agrees first third address where
  users := two.users.trans one.users
  assistants := two.assistants.trans one.assistants
  contexts := two.contexts.trans one.contexts

/-- Between the two memories only these addresses were written. -/
structure Writes (addresses : List Nat) (before after : Memory) : Prop where
  others : ∀ address, address ∉ addresses → Agrees before after address
  next : after.next = before.next

theorem writes_refl (addresses : List Nat) (memory : Memory) : Writes addresses memory memory :=
  ⟨fun address _ => agrees_refl memory address, rfl⟩

theorem writes_trans {addresses : List Nat} {first second third : Memory}
    (one : Writes addresses first second) (two : Writes addresses second third) :
    Writes addresses first third := by
  constructor
  · intro address outside
    exact agrees_trans (one.others address outside) (two.others address outside)
  · rw [two.next, one.next]

theorem writes_mono {fewer more : List Nat} {before after : Memory} (sub : fewer ⊆ more)
    (writes : Writes fewer before after) : Writes more before after :=
  ⟨fun address outside => writes.others address fun member => outside (sub member), writes.next⟩

theorem mem_footprint (memory : Memory) (ref : MessageRef) (address : Nat) :
    address ∈ footprint memory ref ↔ ref.assistant = some address ∨ ref.user = some address ∨
      ∃ user, ref.user = some user ∧ (memory.users user).context = some address := by
  unfold footprint
  cases ref.assistant <;> cases ref.user <;> simp [eq_comm]

/-- A message whose cells are the same reads the same. -/
theorem read_elsewhere {before after : Memory} (ref : MessageRef)
    (same : ∀ address ∈ footprint before ref, Agrees before after address) :
    readMessage after ref = readMessage before ref ∧
      footprint after ref = footprint before ref := by
  obtain ⟨user, assistant⟩ := ref
  have answers : assistant.map after.assistants = assistant.map before.assistants := by
    cases assistant with
    | none => rfl
    | some address =>
        have here := same address ((mem_footprint _ _ _).mpr (Or.inl rfl))
        simp only [Option.map_some, here.assistants]
  cases user with
  | none =>
      refine ⟨?_, rfl⟩
      simp only [readMessage, Option.map_none, answers]
  | some address =>
      have here := (same address ((mem_footprint _ _ _).mpr (Or.inr (Or.inl rfl)))).users
      refine ⟨?_, ?_⟩
      · simp only [readMessage, Option.map_some, answers, here]
        cases held : (before.users address).context with
        | none => simp [readUser, held]
        | some context =>
            have inner := same context
              ((mem_footprint _ _ _).mpr (Or.inr (Or.inr ⟨address, rfl, held⟩)))
            simp [readUser, held, inner.contexts]
      · simp only [footprint, Option.bind_some, here]

theorem read_others {before after : Memory} (refs : List MessageRef)
    (same : ∀ address ∈ footprints before refs, Agrees before after address) :
    readHistory after refs = readHistory before refs ∧
      footprints after refs = footprints before refs := by
  induction refs with
  | nil => exact ⟨rfl, rfl⟩
  | cons ref refs ih =>
      have split : footprints before (ref :: refs) = footprint before ref ++ footprints before refs :=
        rfl
      rw [split] at same
      have here := read_elsewhere ref (fun address member =>
        same address (List.mem_append_left _ member))
      have later := ih (fun address member => same address (List.mem_append_right _ member))
      constructor
      · rw [readHistory, readHistory, List.map_cons, List.map_cons, here.1]
        exact congrArg _ later.1
      · rw [split, ← here.2, ← later.2]
        rfl

end Reading

section Sanitizing

def updateUser (ref : MessageRef) (change : UserCell → UserCell) (memory : Memory) : Memory :=
  match ref.user with
  | none => memory
  | some address =>
      { memory with users := Function.update memory.users address (change (memory.users address)) }

def updateAssistant (ref : MessageRef)
    (change : KiroAssistantResponseMessage → KiroAssistantResponseMessage) (memory : Memory) :
    Memory :=
  match ref.assistant with
  | none => memory
  | some address =>
      { memory with
        assistants := Function.update memory.assistants address
          (change (memory.assistants address)) }

def updateContext (address : Nat) (change : UserInputMessageContext → UserInputMessageContext)
    (memory : Memory) : Memory :=
  { memory with
    contexts := Function.update memory.contexts address (change (memory.contexts address)) }

def stripContent (assistant : KiroAssistantResponseMessage) : KiroAssistantResponseMessage :=
  if assistant.content ≠ [] then
    { assistant with content := stripPollutedToolCallText assistant.content }
  else assistant

def dropUsesInPlace (called : Bool) (ref : MessageRef) (memory : Memory) : Memory :=
  if called then updateAssistant ref (fun assistant => { assistant with toolUses := [] }) memory
  else memory

def narrateInPlace (toolNames : NameMap) (keep : Bool) (ref : MessageRef) (memory : Memory) :
    Memory :=
  match ref.user.bind fun address => (memory.users address).context with
  | none => memory
  | some address =>
      let context := memory.contexts address
      let memory :=
        if !context.toolResults.isEmpty && !keep then
          updateContext address (fun context => { context with toolResults := [] })
            (updateUser ref (fun user =>
              let content :=
                if trimSpace user.content = minimalFallbackUserContent then [] else user.content
              { user with
                content :=
                  joinHistoryText content (narrateToolResults context.toolResults toolNames) })
              memory)
        else memory
      let memory := updateContext address (fun context => { context with tools := [] }) memory
      let context := memory.contexts address
      if context.tools.isEmpty && context.toolResults.isEmpty then
        updateUser ref (fun user => { user with context := none }) memory
      else memory

def fillContent (user : UserCell) : UserCell :=
  if trimSpace user.content = [] && user.images.isEmpty then
    { user with content := minimalFallbackUserContent }
  else user

/-- The body of the first loop of `sanitizeKiroHistoryKeeping`. -/
def sanitizeInPlace (toolNames : NameMap) (active : Option Nat) (keep : Nat → Bool) (index : Nat)
    (ref : MessageRef) (memory : Memory) : Memory :=
  let called := hasToolUses (readMessage memory ref)
  let memory := updateAssistant ref stripContent memory
  if called && (decide (active = some index) || keep index) then memory
  else
    updateUser ref fillContent
      (narrateInPlace toolNames (keep index) ref (dropUsesInPlace called ref memory))

/-- A loop over messages that writes through the pointers of each. -/
def passInPlace (step : Nat → MessageRef → Memory → Memory) :
    Nat → List MessageRef → Memory → Memory
  | _, [], memory => memory
  | index, ref :: refs, memory => passInPlace step (index + 1) refs (step index ref memory)

def cleanInPlace (memory : Memory) : Option MessageRef → List MessageRef → List MessageRef
  | _, [] => []
  | last, ref :: refs =>
      if emptyAssistant (readMessage memory ref) ||
          repeatsUser (last.map (readMessage memory)) (readMessage memory ref) then
        cleanInPlace memory last refs
      else ref :: cleanInPlace memory (some ref) refs

def sanitizeKeepingInPlace (refs : List MessageRef) (ids : List GoString) (keep : Nat → Bool)
    (memory : Memory) : Memory × List MessageRef :=
  if refs = [] then (memory, refs)
  else
    let history := readHistory memory refs
    let after := passInPlace
      (sanitizeInPlace (historyToolNames history) (activeIndex history ids) keep) 0 refs memory
    (after, (cleanInPlace after none refs).dropWhile fun ref => ref.assistant.isSome)

def ensurePairedInPlace (ids : List GoString) :
    Nat → List MessageRef → Memory → Memory × List MessageRef
  | attempts, refs, memory =>
      let history := readHistory memory refs
      let pairs := structuredToolPairs history none
      if toolHistoryPaired history ids pairs then (memory, refs)
      else
        match attempts with
        | 0 => sanitizeKeepingInPlace refs ids (fun _ => false) memory
        | attempts + 1 =>
            let sanitized := sanitizeKeepingInPlace refs ids pairs memory
            ensurePairedInPlace ids attempts sanitized.2 sanitized.1

def renameInPlace (declared : NameMap) (ref : MessageRef) (memory : Memory) : Memory :=
  updateAssistant ref (renameUses declared) memory

def sanitizeForToolsInPlace (refs : List MessageRef) (ids : List GoString) (declared : NameMap)
    (memory : Memory) : Memory × List MessageRef :=
  if declared = [] then sanitizeKeepingInPlace refs ids (fun _ => false) memory
  else
    let pairs := structuredToolPairs (readHistory memory refs) (some declared)
    let sanitized := sanitizeKeepingInPlace refs ids pairs memory
    let ensured := ensurePairedInPlace ids 3 sanitized.2 sanitized.1
    (passInPlace (fun _ => renameInPlace declared) 0 ensured.2 ensured.1, ensured.2)

end Sanitizing

section Refinement

theorem update_user_writes (ref : MessageRef) (change : UserCell → UserCell) (memory : Memory) :
    Writes ref.user.toList memory (updateUser ref change memory) := by
  unfold updateUser
  cases ref.user with
  | none => exact writes_refl _ memory
  | some address =>
      refine ⟨fun other outside => ⟨?_, rfl, rfl⟩, rfl⟩
      exact Function.update_of_ne (by simpa using outside) _ _

theorem update_assistant_writes (ref : MessageRef)
    (change : KiroAssistantResponseMessage → KiroAssistantResponseMessage) (memory : Memory) :
    Writes ref.assistant.toList memory (updateAssistant ref change memory) := by
  unfold updateAssistant
  cases ref.assistant with
  | none => exact writes_refl _ memory
  | some address =>
      refine ⟨fun other outside => ⟨rfl, ?_, rfl⟩, rfl⟩
      exact Function.update_of_ne (by simpa using outside) _ _

theorem update_context_writes (address : Nat)
    (change : UserInputMessageContext → UserInputMessageContext) (memory : Memory) :
    Writes [address] memory (updateContext address change memory) := by
  refine ⟨fun other outside => ⟨rfl, rfl, ?_⟩, rfl⟩
  exact Function.update_of_ne (by simpa using outside) _ _

theorem fill_reads (memory : Memory) (cell : UserCell) :
    readUser memory (fillContent cell) =
      if trimSpace (readUser memory cell).content = [] &&
          (readUser memory cell).images.isEmpty then
        { readUser memory cell with content := minimalFallbackUserContent }
      else readUser memory cell := by
  unfold fillContent readUser
  simp only
  split_ifs <;> rfl

/-- A user message narrated and filled in place. -/
theorem narrate_reads (toolNames : NameMap) (keep : Bool) (address : Nat)
    (assistant : Option Nat) (memory : Memory) :
    let after := updateUser ⟨some address, assistant⟩ fillContent
      (narrateInPlace toolNames keep ⟨some address, assistant⟩ memory)
    readUser after (after.users address) =
        sanitizeUser toolNames keep (readUser memory (memory.users address)) ∧
      after.assistants = memory.assistants := by
  intro after
  have filled : after.users address = fillContent
      ((narrateInPlace toolNames keep ⟨some address, assistant⟩ memory).users address) := by
    simp [after, updateUser]
  have contexts : after.contexts =
      (narrateInPlace toolNames keep ⟨some address, assistant⟩ memory).contexts := rfl
  have assistants : after.assistants =
      (narrateInPlace toolNames keep ⟨some address, assistant⟩ memory).assistants := rfl
  have reading : ∀ cell, readUser after cell =
      readUser (narrateInPlace toolNames keep ⟨some address, assistant⟩ memory) cell := by
    intro cell
    unfold readUser
    rw [contexts]
  rw [filled, reading, fill_reads, assistants, sanitizeUser]
  unfold narrateInPlace
  cases held : (memory.users address).context with
  | none => simp [readUser, held]
  | some context =>
      cases results : (memory.contexts context).toolResults with
      | nil =>
          simp [readUser, held, results, updateUser, updateContext, narrateContext]
      | cons result rest =>
          cases keep with
          | true => simp [readUser, held, results, updateContext, narrateContext]
          | false =>
              simp [readUser, held, results, updateUser, updateContext, narrateContext]

theorem user_reads (toolNames : NameMap) (keep : Bool) (ref : MessageRef) (memory : Memory) :
    readMessage (updateUser ref fillContent (narrateInPlace toolNames keep ref memory)) ref =
      { userInputMessage :=
          (readMessage memory ref).userInputMessage.map (sanitizeUser toolNames keep)
        assistantResponseMessage := ref.assistant.map memory.assistants } := by
  obtain ⟨user, assistant⟩ := ref
  cases user with
  | none => rfl
  | some address =>
      have narrated := narrate_reads toolNames keep address assistant memory
      rw [readMessage, narrated.2]
      simp only [Option.map_some, narrated.1]
      rfl

/-- What the writes to the assistant message leave of it. -/
theorem assistant_reads (ref : MessageRef) (memory : Memory) (called stays : Bool)
    (calls : hasToolUses (readMessage memory ref) = called) :
    ref.assistant.map (dropUsesInPlace (called && !stays) ref
        (updateAssistant ref stripContent memory)).assistants =
      (readMessage memory ref).assistantResponseMessage.map (sanitizeAssistant · stays) := by
  obtain ⟨user, assistant⟩ := ref
  cases assistant with
  | none => rfl
  | some address =>
      have uses : hasToolUses (readMessage memory ⟨user, some address⟩) =
          !(memory.assistants address).toolUses.isEmpty := rfl
      rw [uses] at calls
      have stripped : stripContent (memory.assistants address) =
          { sanitizeAssistant (memory.assistants address) true with
            toolUses := (memory.assistants address).toolUses } := by
        unfold stripContent sanitizeAssistant
        split_ifs <;> rfl
      cases stays with
      | true => simp [dropUsesInPlace, updateAssistant, readMessage, stripped, sanitizeAssistant]
      | false =>
          cases called with
          | true => simp [dropUsesInPlace, updateAssistant, readMessage, stripped, sanitizeAssistant]
          | false =>
              have empty : (memory.assistants address).toolUses = [] := by simpa using calls
              simp [dropUsesInPlace, updateAssistant, readMessage, stripped, sanitizeAssistant,
                empty]

theorem assistant_writes (ref : MessageRef) (memory : Memory) (called : Bool) :
    (dropUsesInPlace called ref (updateAssistant ref stripContent memory)).users = memory.users ∧
      (dropUsesInPlace called ref (updateAssistant ref stripContent memory)).contexts =
        memory.contexts := by
  obtain ⟨user, assistant⟩ := ref
  cases called <;> cases assistant <;> exact ⟨rfl, rfl⟩

/-- One message sanitized in place reads as the sanitized message. -/
theorem sanitize_in_place_reads (toolNames : NameMap) (active : Option Nat) (keep : Nat → Bool)
    (index : Nat) (ref : MessageRef) (memory : Memory) :
    readMessage (sanitizeInPlace toolNames active keep index ref memory) ref =
      sanitizeTurn toolNames active keep index (readMessage memory ref) := by
  unfold sanitizeInPlace sanitizeTurn
  simp only
  generalize (decide (active = some index) || keep index) = stays
  have users : ∀ called, (readMessage (dropUsesInPlace called ref
      (updateAssistant ref stripContent memory)) ref).userInputMessage =
      (readMessage memory ref).userInputMessage := by
    intro called
    have cells := assistant_writes ref memory called
    simp only [readMessage, readUser, cells.1, cells.2]
  cases called : hasToolUses (readMessage memory ref) with
  | true =>
      have answers := assistant_reads ref memory true stays called
      cases stays with
      | true =>
          simp only [Bool.and_self, if_true]
          rw [readMessage, ← answers]
          obtain ⟨user, assistant⟩ := ref
          cases assistant <;> rfl
      | false =>
          simp only [Bool.and_false, Bool.false_eq_true, if_false]
          rw [user_reads, users, ← answers]
          rfl
  | false =>
      have answers := assistant_reads ref memory false stays called
      simp only [Bool.false_and, Bool.false_eq_true, if_false]
      rw [user_reads, users, ← answers]
      rfl

theorem footprint_of_users (before after : Memory) (same : after.users = before.users)
    (ref : MessageRef) : footprint after ref = footprint before ref := by
  unfold footprint
  rw [same]

theorem assistant_part (memory : Memory) (ref : MessageRef) :
    ref.assistant.toList ⊆ footprint memory ref := by
  intro address member
  unfold footprint
  exact List.mem_append_left _ (List.mem_append_left _ member)

theorem user_part (memory : Memory) (ref : MessageRef) :
    ref.user.toList ⊆ footprint memory ref := by
  intro address member
  unfold footprint
  exact List.mem_append_left _ (List.mem_append_right _ member)

theorem narrate_writes (toolNames : NameMap) (keep : Bool) (ref : MessageRef)
    (memory : Memory) :
    Writes (footprint memory ref) memory (narrateInPlace toolNames keep ref memory) := by
  unfold narrateInPlace
  cases held : ref.user.bind fun address => (memory.users address).context with
  | none => exact writes_refl _ memory
  | some address =>
      have inside : [address] ⊆ footprint memory ref := by
        intro other member
        rw [List.mem_singleton.mp member]
        unfold footprint
        rw [held]
        simp
      have user := user_part memory ref
      simp only
      have first : Writes (footprint memory ref) memory
          (if !(memory.contexts address).toolResults.isEmpty && !keep then
            updateContext address (fun context => { context with toolResults := [] })
              (updateUser ref (fun user =>
                { user with
                  content :=
                    joinHistoryText
                      (if trimSpace user.content = minimalFallbackUserContent then []
                        else user.content)
                      (narrateToolResults (memory.contexts address).toolResults toolNames) })
                memory)
          else memory) := by
        split_ifs
        · exact writes_trans (writes_mono user (update_user_writes ref _ memory))
            (writes_mono inside (update_context_writes address _ _))
        · exact writes_refl _ memory
      have second := writes_trans first (writes_mono inside
        (update_context_writes address (fun context => { context with tools := [] }) _))
      split_ifs at second ⊢
      · exact writes_trans second (writes_mono user (update_user_writes ref _ _))
      · exact second
      · exact writes_trans second (writes_mono user (update_user_writes ref _ _))
      · exact second

/-- Sanitizing a message in place writes nothing outside the message. -/
theorem sanitize_in_place_writes (toolNames : NameMap) (active : Option Nat)
    (keep : Nat → Bool) (index : Nat) (ref : MessageRef) (memory : Memory) :
    Writes (footprint memory ref) memory
      (sanitizeInPlace toolNames active keep index ref memory) := by
  have answers : ∀ called, Writes (footprint memory ref) memory
      (dropUsesInPlace called ref (updateAssistant ref stripContent memory)) := by
    intro called
    apply writes_mono (assistant_part memory ref)
    apply writes_trans (update_assistant_writes ref stripContent memory)
    unfold dropUsesInPlace
    split_ifs
    · exact update_assistant_writes ref _ _
    · exact writes_refl _ _
  unfold sanitizeInPlace
  simp only
  split_ifs
  · exact writes_mono (assistant_part memory ref) (update_assistant_writes ref stripContent memory)
  · generalize hasToolUses (readMessage memory ref) = called
    have cells := assistant_writes ref memory called
    have narrated := narrate_writes toolNames (keep index) ref
      (dropUsesInPlace called ref (updateAssistant ref stripContent memory))
    rw [footprint_of_users _ _ cells.1] at narrated
    exact writes_trans (answers called) (writes_trans narrated
      (writes_mono (user_part memory ref) (update_user_writes ref fillContent _)))

theorem narrate_context (toolNames : NameMap) (keep : Bool) (address : Nat)
    (assistant : Option Nat) (memory : Memory) :
    ((narrateInPlace toolNames keep ⟨some address, assistant⟩ memory).users address).context =
        (memory.users address).context ∨
      ((narrateInPlace toolNames keep ⟨some address, assistant⟩ memory).users address).context =
        none := by
  unfold narrateInPlace
  cases held : (memory.users address).context with
  | none =>
      right
      simp [held]
  | some context =>
      simp only [Option.bind_some, held]
      split_ifs <;> simp [updateUser, updateContext, held]

theorem sanitize_in_place_part (toolNames : NameMap) (active : Option Nat) (keep : Nat → Bool)
    (index : Nat) (ref : MessageRef) (memory : Memory) :
    (footprint (sanitizeInPlace toolNames active keep index ref memory) ref).Sublist
      (footprint memory ref) := by
  obtain ⟨user, assistant⟩ := ref
  cases user with
  | none => exact List.Sublist.refl _
  | some address =>
      have context :
          ((sanitizeInPlace toolNames active keep index ⟨some address, assistant⟩ memory).users
            address).context = (memory.users address).context ∨
          ((sanitizeInPlace toolNames active keep index ⟨some address, assistant⟩ memory).users
            address).context = none := by
        unfold sanitizeInPlace
        simp only
        split_ifs
        · left
          have cells := assistant_writes ⟨some address, assistant⟩ memory false
          exact congrArg (fun users => (users address).context) cells.1
        · generalize hasToolUses (readMessage memory ⟨some address, assistant⟩) = called
          have cells := assistant_writes ⟨some address, assistant⟩ memory called
          have narrated := narrate_context toolNames (keep index) address assistant
            (dropUsesInPlace called ⟨some address, assistant⟩
              (updateAssistant ⟨some address, assistant⟩ stripContent memory))
          rw [cells.1] at narrated
          have filled : ∀ cell : UserCell, (fillContent cell).context = cell.context := by
            intro cell
            unfold fillContent
            split_ifs <;> rfl
          simpa [updateUser, filled] using narrated
      unfold footprint
      apply List.Sublist.append (List.Sublist.refl _)
      simp only [Option.bind_some]
      cases context with
      | inl same =>
          rw [same]
      | inr gone =>
          rw [gone]
          exact List.nil_sublist _

/-- What a pass over messages in memory does: it reads as the pass over their values, and
stays within the messages. -/
structure InPlace (memory : Memory) (refs : List MessageRef) (after : Memory)
    (left : List MessageRef) (value : History) : Prop where
  reads : readHistory after left = value
  writes : Writes (footprints memory refs) memory after
  part : (footprints after left).Sublist (footprints memory refs)

theorem in_place_trans {first second third : Memory} {all some_ few : List MessageRef}
    {middle value : History} (one : InPlace first all second some_ middle)
    (two : InPlace second some_ third few value) : InPlace first all third few value where
  reads := two.reads
  writes := writes_trans one.writes (writes_mono one.part.subset two.writes)
  part := two.part.trans one.part

/-- A step of a pass: it reads as the step on the value, and stays within its message. -/
structure StepInPlace (step : Nat → MessageRef → Memory → Memory)
    (value : Nat → KiroHistoryMessage → KiroHistoryMessage) : Prop where
  reads : ∀ index ref memory,
    readMessage (step index ref memory) ref = value index (readMessage memory ref)
  writes : ∀ index ref memory, Writes (footprint memory ref) memory (step index ref memory)
  part : ∀ index ref memory,
    (footprint (step index ref memory) ref).Sublist (footprint memory ref)

/-- Over messages that share no cell a pass does its step on each value. -/
theorem pass_in_place (step : Nat → MessageRef → Memory → Memory)
    (value : Nat → KiroHistoryMessage → KiroHistoryMessage) (steps : StepInPlace step value)
    (index : Nat) (refs : List MessageRef) (memory : Memory)
    (separate : (footprints memory refs).Nodup) :
    InPlace memory refs (passInPlace step index refs memory) refs
      ((readHistory memory refs).mapIdx fun offset => value (index + offset)) := by
  induction refs generalizing index memory with
  | nil => exact ⟨rfl, writes_refl _ memory, List.Sublist.refl _⟩
  | cons ref refs ih =>
      have split : ∀ memory, footprints memory (ref :: refs) =
          footprint memory ref ++ footprints memory refs := fun _ => rfl
      rw [split, List.nodup_append'] at separate
      have here := steps.writes index ref memory
      have shrunk := steps.part index ref memory
      have others := read_others refs (fun address member =>
        here.others address fun inside => separate.2.2 inside member)
      rw [passInPlace]
      have rest := ih (index + 1) (step index ref memory)
        (by rw [others.2]; exact separate.2.1)
      have kept := read_elsewhere ref (fun address member =>
        rest.writes.others address fun inside => by
          rw [others.2] at inside
          exact separate.2.2 (shrunk.subset member) inside)
      constructor
      · have tail := rest.reads
        rw [others.1] at tail
        rw [readHistory, List.map_cons, kept.1, steps.reads]
        rw [readHistory, List.map_cons, List.mapIdx_cons, Nat.add_zero]
        apply congrArg
        rw [readHistory] at tail
        rw [tail]
        apply List.ext_getElem?
        intro offset
        simp only [List.getElem?_mapIdx, readHistory]
        have shift : index + 1 + offset = index + (offset + 1) := by omega
        rw [shift]
      · rw [split]
        apply writes_trans (writes_mono (List.subset_append_left _ _) here)
        apply writes_mono _ rest.writes
        rw [others.2]
        exact List.subset_append_right _ _
      · rw [split, split, kept.2]
        apply List.Sublist.append shrunk
        rw [← others.2]
        exact rest.part

theorem sanitize_step (toolNames : NameMap) (active : Option Nat) (keep : Nat → Bool) :
    StepInPlace (sanitizeInPlace toolNames active keep) (sanitizeTurn toolNames active keep) where
  reads := sanitize_in_place_reads toolNames active keep
  writes := sanitize_in_place_writes toolNames active keep
  part := sanitize_in_place_part toolNames active keep

theorem clean_in_place_reads (memory : Memory) (last : Option MessageRef)
    (refs : List MessageRef) :
    readHistory memory (cleanInPlace memory last refs) =
      cleanFrom (last.map (readMessage memory)) (readHistory memory refs) := by
  induction refs generalizing last with
  | nil => rfl
  | cons ref refs ih =>
      rw [cleanInPlace, readHistory, readHistory, List.map_cons, cleanFrom]
      split_ifs
      · exact ih last
      · rw [List.map_cons]
        exact congrArg _ (ih (some ref))

theorem clean_in_place_sublist (memory : Memory) (last : Option MessageRef)
    (refs : List MessageRef) : (cleanInPlace memory last refs).Sublist refs := by
  induction refs generalizing last with
  | nil => exact List.Sublist.refl _
  | cons ref refs ih =>
      rw [cleanInPlace]
      split_ifs
      · exact (ih last).cons ref
      · exact (ih (some ref)).cons_cons ref

theorem trim_in_place_reads (memory : Memory) (refs : List MessageRef) :
    readHistory memory (refs.dropWhile fun ref => ref.assistant.isSome) =
      trimLeadingAssistantHistory (readHistory memory refs) := by
  induction refs with
  | nil => rfl
  | cons ref refs ih =>
      have side : (readMessage memory ref).assistantResponseMessage.isSome =
          ref.assistant.isSome := by
        rw [readMessage]
        exact Option.isSome_map
      rw [List.dropWhile_cons, readHistory, trimLeadingAssistantHistory, readHistory,
        List.map_cons, List.dropWhile_cons, side]
      split_ifs
      · exact ih
      · rfl

/-- `sanitizeKiroHistoryKeeping` in memory. -/
theorem keeping_in_place (refs : List MessageRef) (ids : List GoString) (keep : Nat → Bool)
    (memory : Memory) (separate : (footprints memory refs).Nodup) :
    InPlace memory refs (sanitizeKeepingInPlace refs ids keep memory).1
      (sanitizeKeepingInPlace refs ids keep memory).2
      (sanitizeKiroHistoryKeeping (readHistory memory refs) ids keep) := by
  unfold sanitizeKeepingInPlace sanitizeKiroHistoryKeeping
  by_cases empty : refs = []
  · rw [if_pos empty, empty]
    exact ⟨rfl, writes_refl _ memory, List.Sublist.refl _⟩
  · have some_ : readHistory memory refs ≠ [] := by simpa [readHistory] using empty
    rw [if_neg empty, if_neg some_]
    have turns := pass_in_place _ _ (sanitize_step (historyToolNames (readHistory memory refs))
      (activeIndex (readHistory memory refs) ids) keep) 0 refs memory separate
    constructor
    · rw [trim_in_place_reads, clean_in_place_reads, turns.reads, sanitizeTurns]
      simp only [Nat.zero_add, Option.map_none]
    · exact turns.writes
    · have fewer : ∀ after, ((cleanInPlace after none refs).dropWhile
          fun ref => ref.assistant.isSome).Sublist refs := by
        intro after
        apply List.Sublist.trans (List.dropWhile_sublist _)
        exact clean_in_place_sublist after none refs
      apply List.Sublist.trans _ turns.part
      exact List.Sublist.flatMap (fewer _) _

theorem ensure_in_place (ids : List GoString) (attempts : Nat) (refs : List MessageRef)
    (memory : Memory) (separate : (footprints memory refs).Nodup) :
    InPlace memory refs (ensurePairedInPlace ids attempts refs memory).1
      (ensurePairedInPlace ids attempts refs memory).2
      (ensurePairedFrom ids attempts (readHistory memory refs)) := by
  induction attempts generalizing refs memory with
  | zero =>
      rw [ensurePairedInPlace, ensurePairedFrom]
      split_ifs
      · exact ⟨rfl, writes_refl _ memory, List.Sublist.refl _⟩
      · exact keeping_in_place refs ids _ memory separate
  | succ attempts ih =>
      rw [ensurePairedInPlace, ensurePairedFrom]
      split_ifs
      · exact ⟨rfl, writes_refl _ memory, List.Sublist.refl _⟩
      · have once := keeping_in_place refs ids
          (structuredToolPairs (readHistory memory refs) none) memory separate
        have again := ih (sanitizeKeepingInPlace refs ids
            (structuredToolPairs (readHistory memory refs) none) memory).2
          (sanitizeKeepingInPlace refs ids
            (structuredToolPairs (readHistory memory refs) none) memory).1
          (once.part.nodup separate)
        rw [once.reads] at again
        exact in_place_trans once again

theorem rename_step (declared : NameMap) :
    StepInPlace (fun _ => renameInPlace declared) (fun _ => renameTurn declared) := by
  have users : ∀ (ref : MessageRef) (memory : Memory),
      (renameInPlace declared ref memory).users = memory.users := by
    intro ref memory
    unfold renameInPlace updateAssistant
    cases ref.assistant <;> rfl
  constructor
  · intro _ ref memory
    obtain ⟨user, assistant⟩ := ref
    cases assistant with
    | none => rfl
    | some address =>
        simp [renameInPlace, updateAssistant, readMessage, renameTurn, readUser]
  · intro _ ref memory
    exact writes_mono (assistant_part memory ref) (update_assistant_writes ref _ memory)
  · intro _ ref memory
    rw [footprint_of_users memory _ (users ref memory) ref]

/-- `sanitizeKiroHistoryForTools` in memory. -/
theorem sanitize_for_tools_in_place (refs : List MessageRef) (ids : List GoString)
    (declared : NameMap) (memory : Memory) (separate : (footprints memory refs).Nodup) :
    InPlace memory refs (sanitizeForToolsInPlace refs ids declared memory).1
      (sanitizeForToolsInPlace refs ids declared memory).2
      (sanitizeKiroHistoryForTools (readHistory memory refs) ids declared) := by
  unfold sanitizeForToolsInPlace sanitizeKiroHistoryForTools
  split_ifs
  · exact keeping_in_place refs ids _ memory separate
  · have once := keeping_in_place refs ids
      (structuredToolPairs (readHistory memory refs) (some declared)) memory separate
    have apart := once.part.nodup separate
    have ensured := in_place_trans once (ensure_in_place ids 3 _ _ apart)
    have renamed := pass_in_place _ _ (rename_step declared) 0 _ _
      (ensured.part.nodup separate)
    rw [ensured.reads, once.reads] at renamed
    have whole := in_place_trans ensured renamed
    constructor
    · rw [whole.reads]
      apply List.ext_getElem?
      intro index
      rw [List.getElem?_mapIdx, List.getElem?_map]
      rfl
    · exact whole.writes
    · exact whole.part

end Refinement

end KiroProxy.PayloadMemory
