import KiroProxy.Proxy.HistoryCalls
import Mathlib.Data.List.Chain

/-!
# Attachments in the sanitized history

The images and documents of the user turns, through the passes of
`sanitizeKiroHistoryKeeping`. The turn passes leave them alone and only assistant
turns are trimmed, so the one place where they can go is the duplicate rule, which
spares a turn with images and not one with documents.
-/

namespace KiroProxy.ToolHistory

open GoStrings KiroTypes
open ToolNames (NameMap)

set_option autoImplicit false

abbrev Attachment := KiroImage ⊕ KiroDocument

section Attachments

/-- What a user turn carries besides its text. -/
def attachments (msg : KiroHistoryMessage) : List Attachment :=
  match msg.userInputMessage, msg.assistantResponseMessage with
  | some user, none => user.images.map Sum.inl ++ user.documents.map Sum.inr
  | _, _ => []

def historyAttachments (history : History) : List Attachment :=
  history.flatMap attachments

theorem attachments_of_assistant (msg : KiroHistoryMessage)
    (assistant : msg.assistantResponseMessage.isSome = true) : attachments msg = [] := by
  obtain ⟨user, answer⟩ := msg
  cases answer with
  | none => simp at assistant
  | some answer => cases user <;> rfl

theorem empty_assistant_is_some (msg : KiroHistoryMessage) (empty : emptyAssistant msg = true) :
    msg.assistantResponseMessage.isSome = true := by
  unfold emptyAssistant at empty
  cases answer : msg.assistantResponseMessage with
  | none => simp [answer] at empty
  | some assistant => rfl

theorem sanitize_user_attachments (toolNames : ToolNames.NameMap) (keep : Bool)
    (user : KiroUserInputMessage) :
    (sanitizeUser toolNames keep user).images = user.images ∧
      (sanitizeUser toolNames keep user).documents = user.documents := by
  unfold sanitizeUser
  simp only [apply_ite KiroUserInputMessage.images, apply_ite KiroUserInputMessage.documents,
    ite_self]
  cases user.userInputMessageContext with
  | none => exact ⟨rfl, rfl⟩
  | some context => exact ⟨rfl, rfl⟩

theorem sanitize_turn_attachments (toolNames : ToolNames.NameMap) (active : Option Nat)
    (keep : Nat → Bool) (index : Nat) (msg : KiroHistoryMessage) :
    attachments (sanitizeTurn toolNames active keep index msg) = attachments msg := by
  obtain ⟨user, answer⟩ := msg
  unfold sanitizeTurn
  simp only
  split
  · cases answer with
    | none => rfl
    | some assistant => cases user <;> rfl
  · cases answer with
    | some assistant => cases user <;> rfl
    | none =>
        cases user with
        | none => rfl
        | some user =>
            have same := sanitize_user_attachments toolNames (keep index) user
            simp [attachments, same.1, same.2]

theorem sanitize_turns_attachments (history : History) (ids : List GoString)
    (keep : Nat → Bool) :
    historyAttachments (sanitizeTurns history ids keep) = historyAttachments history := by
  unfold historyAttachments sanitizeTurns
  rw [List.flatMap_def, List.flatMap_def]
  apply congrArg List.flatten
  apply List.ext_getElem?
  intro index
  rw [List.getElem?_map, List.getElem?_map, List.getElem?_mapIdx]
  cases history[index]? with
  | none => rfl
  | some msg => exact congrArg some (sanitize_turn_attachments _ _ _ _ _)

theorem trim_leading_attachments (history : History) :
    historyAttachments (trimLeadingAssistantHistory history) = historyAttachments history := by
  induction history with
  | nil => rfl
  | cons msg history ih =>
      unfold trimLeadingAssistantHistory at ih ⊢
      rw [List.dropWhile_cons]
      split
      · rename_i assistant
        rw [ih]
        simp [historyAttachments, attachments_of_assistant msg assistant]
      · rfl

end Attachments

section Duplicates

/-- The text that the duplicate rule compares. -/
def turnText (msg : KiroHistoryMessage) : Option GoString :=
  msg.userInputMessage.map fun user => trimSpace user.content

theorem repeats_user_same_text (last other : Option KiroHistoryMessage)
    (same : last.bind turnText = other.bind turnText) (msg : KiroHistoryMessage) :
    repeatsUser last msg = repeatsUser other msg := by
  unfold repeatsUser
  cases msg.userInputMessage with
  | none => rfl
  | some user =>
      have texts (turn : Option KiroHistoryMessage) : turn.bind turnText =
          (turn.bind KiroHistoryMessage.userInputMessage).map
            (fun user => trimSpace user.content) := by
        cases turn <;> rfl
      rw [texts, texts] at same
      cases one : last.bind KiroHistoryMessage.userInputMessage with
      | none =>
          cases two : other.bind KiroHistoryMessage.userInputMessage with
          | none => rfl
          | some second => simp [one, two] at same
      | some first =>
          cases two : other.bind KiroHistoryMessage.userInputMessage with
          | none => simp [one, two] at same
          | some second =>
              simp only [one, two, Option.map_some, Option.some.injEq] at same
              simp only [same]

theorem repeated_text (last : Option KiroHistoryMessage) (msg : KiroHistoryMessage)
    (repeats : repeatsUser last msg = true) : turnText msg = last.bind turnText := by
  unfold repeatsUser at repeats
  cases user : msg.userInputMessage with
  | none => simp [user] at repeats
  | some current =>
      cases last with
      | none => simp [user] at repeats
      | some previous =>
          cases before : previous.userInputMessage with
          | none => simp [user, before] at repeats
          | some earlier =>
              simp only [user, before, Option.bind_some, Bool.and_eq_true,
                decide_eq_true_eq] at repeats
              simp [turnText, user, before, repeats.1.1.2]

/-- No turn with attachments says what the turn before it says, empty assistant turns
aside. -/
def attachmentsUnrepeated : Option KiroHistoryMessage → History → Bool
  | _, [] => true
  | previous, msg :: rest =>
      if emptyAssistant msg then attachmentsUnrepeated previous rest
      else !(repeatsUser previous msg && !(attachments msg).isEmpty) &&
        attachmentsUnrepeated (some msg) rest

theorem clean_attachments_sublist (last : Option KiroHistoryMessage) (turns : History) :
    (historyAttachments (cleanFrom last turns)).Sublist (historyAttachments turns) := by
  induction turns generalizing last with
  | nil => exact List.Sublist.refl _
  | cons msg rest ih =>
      rw [cleanFrom]
      unfold historyAttachments at ih ⊢
      rw [List.flatMap_cons]
      split
      · exact (ih last).trans (List.sublist_append_right _ _)
      · rw [List.flatMap_cons]
        exact (List.Sublist.refl _).append (ih (some msg))

/-- Dropping the repeated turns loses no attachment exactly when none of them has one. -/
theorem clean_attachments_iff (last previous : Option KiroHistoryMessage)
    (same : last.bind turnText = previous.bind turnText) (turns : History) :
    historyAttachments (cleanFrom last turns) = historyAttachments turns ↔
      attachmentsUnrepeated previous turns = true := by
  induction turns generalizing last previous with
  | nil => simp [cleanFrom, attachmentsUnrepeated]
  | cons msg rest ih =>
      have whole : historyAttachments (msg :: rest) =
          attachments msg ++ historyAttachments rest := List.flatMap_cons
      rw [cleanFrom, attachmentsUnrepeated, whole]
      by_cases empty : emptyAssistant msg = true
      · have none_ := attachments_of_assistant msg (empty_assistant_is_some msg empty)
        rw [if_pos (by simp [empty]), if_pos empty, none_, List.nil_append]
        exact ih last previous same
      · rw [if_neg empty]
        by_cases repeats : repeatsUser previous msg = true
        · have text : last.bind turnText = (some msg).bind turnText := by
            rw [same, Option.bind_some, repeated_text previous msg repeats]
          rw [← repeats_user_same_text last previous same] at repeats
          rw [if_pos (by simp [repeats]), ← repeats_user_same_text last previous same, repeats]
          cases carried : attachments msg with
          | nil => simpa using ih last (some msg) text
          | cons attachment others =>
              simp only [List.isEmpty_cons, Bool.not_false, Bool.and_self, Bool.not_true,
                Bool.false_and, Bool.false_eq_true, iff_false]
              intro kept
              have bound := (clean_attachments_sublist last rest).length_le
              rw [kept] at bound
              simp only [List.length_append, List.length_cons] at bound
              omega
        · have kept : historyAttachments (msg :: cleanFrom (some msg) rest) =
              attachments msg ++ historyAttachments (cleanFrom (some msg) rest) :=
            List.flatMap_cons
          rw [if_neg (by
            rw [repeats_user_same_text last previous same]
            simp [empty, repeats]), kept, List.append_cancel_left_eq,
            ih (some msg) (some msg) rfl]
          simp [repeats]

end Duplicates

section Filling

/-- The last step over a user turn. -/
def fillBlank (user : KiroUserInputMessage) : KiroUserInputMessage :=
  if trimSpace user.content = [] && user.images.isEmpty then
    { user with content := minimalFallbackUserContent }
  else user

theorem sanitize_user_fills (toolNames : ToolNames.NameMap) (keep : Bool) (user : KiroUserInputMessage) :
    sanitizeUser toolNames keep user =
      fillBlank (match user.userInputMessageContext with
        | some context => narrateContext toolNames keep user context
        | none => user) := rfl

/-- The text of a turn's own; the fallback text is none. -/
def ownText (user : KiroUserInputMessage) : GoString :=
  if trimSpace user.content = minimalFallbackUserContent then [] else user.content

theorem narrate_context_content (toolNames : ToolNames.NameMap) (user : KiroUserInputMessage)
    (context : UserInputMessageContext) (some_ : context.toolResults ≠ []) :
    narrateContext toolNames false user context =
      { user with
        content := joinHistoryText (ownText user)
          (narrateToolResults context.toolResults toolNames)
        userInputMessageContext := none } := by
  have narrates : (!context.toolResults.isEmpty && !false) = true := by
    simpa using some_
  unfold narrateContext
  simp only [narrates, if_true]
  rfl

theorem narrate_context_kept (toolNames : ToolNames.NameMap) (user : KiroUserInputMessage)
    (context : UserInputMessageContext) (some_ : context.toolResults ≠ []) :
    narrateContext toolNames true user context =
      { user with userInputMessageContext := some ⟨[], context.toolResults⟩ } := by
  unfold narrateContext
  simp [some_]

end Filling

section RequestTurns

/-- An assistant turn without calls that stay and without text of its own. -/
def saysNothing (stays : Bool) (msg : KiroHistoryMessage) : Bool :=
  match msg.assistantResponseMessage with
  | some assistant =>
      let content := trimSpace (stripPollutedToolCallText assistant.content)
      (assistant.toolUses.isEmpty || !stays) &&
        (content = [] || content = lit "." || content = minimalFallbackUserContent)
  | none => false

/-- The text of a user turn, with the results that do not stay told in it. -/
def toldText (names : NameMap) (keep : Bool) (user : KiroUserInputMessage) : GoString :=
  match user.userInputMessageContext with
  | some context =>
      if !context.toolResults.isEmpty && !keep then
        joinHistoryText
          (if trimSpace user.content = minimalFallbackUserContent then [] else user.content)
          (narrateToolResults context.toolResults names)
      else user.content
  | none => user.content

/-- What a user turn says; the fallback where it says nothing. -/
def saidContent (names : NameMap) (keep : Bool) (user : KiroUserInputMessage) : GoString :=
  let text := trimSpace (toldText names keep user)
  if text = [] && user.images.isEmpty then minimalFallbackUserContent else text

/-- A turn whose calls stay is left as it is. -/
def saidText (names : NameMap) (stays keep : Bool) (msg : KiroHistoryMessage) : Option GoString :=
  msg.userInputMessage.map fun user =>
    if hasToolUses msg && stays then trimSpace user.content else saidContent names keep user

/-- The calls of the active turn and of the kept ones stay. -/
def callsStay (history : History) (ids : List GoString) (keep : Nat → Bool) (index : Nat) : Bool :=
  decide (activeIndex history ids = some index) || keep index

/-- The turns that say something, with their places. -/
def spokenTurns (history : History) (ids : List GoString) (keep : Nat → Bool) :
    List (KiroHistoryMessage × Nat) :=
  history.zipIdx.filter fun turn => !saysNothing (callsStay history ids keep turn.2) turn.1

/-- A user turn with documents, without images and without results that stay. -/
def documentsAlone (keep : Bool) (msg : KiroHistoryMessage) : Bool :=
  match msg.userInputMessage, msg.assistantResponseMessage with
  | some user, none =>
      user.images.isEmpty && !user.documents.isEmpty && !(hasToolResults user && keep)
  | _, _ => false

/-- No user turn with documents alone says what the turn before it says. -/
def DocumentsTold (history : History) (ids : List GoString) (keep : Nat → Bool) : Prop :=
  let said := fun turn : KiroHistoryMessage × Nat =>
    saidText (historyToolNames history) (callsStay history ids keep turn.2) (keep turn.2) turn.1
  (spokenTurns history ids keep).IsChain fun before turn =>
    documentsAlone (keep turn.2) turn.1 = true → said before ≠ said turn

variable (names : NameMap) (active : Option Nat) (keep : Nat → Bool) (index : Nat)

theorem sanitize_assistant_content (assistant : KiroAssistantResponseMessage) (stays : Bool) :
    (sanitizeAssistant assistant stays).content =
      stripPollutedToolCallText assistant.content := by
  simp only [sanitizeAssistant]
  split
  · rfl
  · rename_i empty
    rw [not_not.mp empty]
    rfl

theorem sanitized_turn_empty (msg : KiroHistoryMessage) :
    emptyAssistant (sanitizeTurn names active keep index msg) =
      saysNothing (decide (active = some index) || keep index) msg := by
  have side : (sanitizeTurn names active keep index msg).assistantResponseMessage =
      msg.assistantResponseMessage.map
        (sanitizeAssistant · (decide (active = some index) || keep index)) := by
    simp only [sanitizeTurn, apply_ite KiroHistoryMessage.assistantResponseMessage, ite_self]
  rw [emptyAssistant, saysNothing, side]
  cases msg.assistantResponseMessage with
  | none => rfl
  | some assistant =>
      have calls (stays : Bool) : (sanitizeAssistant assistant stays).toolUses.isEmpty =
          (assistant.toolUses.isEmpty || !stays) := by
        cases stays <;> simp [sanitizeAssistant]
      simp only [Option.map_some, sanitize_assistant_content, calls]

theorem sanitized_user_text (keep : Bool) (user : KiroUserInputMessage) :
    trimSpace (sanitizeUser names keep user).content = saidContent names keep user := by
  have fallback : trimSpace minimalFallbackUserContent = minimalFallbackUserContent := by decide
  have filled (narrated : KiroUserInputMessage) (text : narrated.content = toldText names keep user)
      (images : narrated.images = user.images) :
      trimSpace (if trimSpace narrated.content = [] && narrated.images.isEmpty then
        { narrated with content := minimalFallbackUserContent } else narrated).content =
        saidContent names keep user := by
    unfold saidContent
    rw [text, images]
    simp only
    split_ifs
    · exact fallback
    · rw [text]
  unfold sanitizeUser
  apply filled
  · unfold toldText
    cases user.userInputMessageContext <;> rfl
  · cases user.userInputMessageContext <;> rfl

theorem sanitized_turn_text (msg : KiroHistoryMessage) :
    turnText (sanitizeTurn names active keep index msg) =
      saidText names (decide (active = some index) || keep index) (keep index) msg := by
  unfold turnText saidText
  simp only [sanitizeTurn]
  cases hasToolUses msg && (decide (active = some index) || keep index) with
  | true => rfl
  | false =>
      cases msg.userInputMessage with
      | none => rfl
      | some user => exact congrArg some (sanitized_user_text names (keep index) user)

theorem repeats_user_iff (last : Option KiroHistoryMessage) (msg : KiroHistoryMessage) :
    repeatsUser last msg = true ↔
      last.bind turnText = turnText msg ∧ ∃ user ∈ msg.userInputMessage,
        hasToolResults user = false ∧ trimSpace user.content ≠ [] ∧ user.images = [] := by
  have texts : last.bind turnText = (last.bind KiroHistoryMessage.userInputMessage).map
      fun user => trimSpace user.content := by
    cases last <;> rfl
  unfold repeatsUser
  rw [texts, turnText]
  cases msg.userInputMessage with
  | none => simp
  | some user =>
      cases last.bind KiroHistoryMessage.userInputMessage with
      | none => simp
      | some earlier => simp [and_left_comm, and_assoc]

theorem sanitized_has_results (keep : Bool) (user : KiroUserInputMessage) :
    hasToolResults (sanitizeUser names keep user) = (hasToolResults user && keep) := by
  have results (asked : KiroUserInputMessage) :
      hasToolResults asked = !(toolResults ⟨some asked, none⟩).isEmpty := by
    unfold hasToolResults toolResults
    simp only
    cases asked.userInputMessageContext <;> rfl
  rw [results, sanitized_user_results, results]
  cases keep <;> simp

theorem said_content_some (keep : Bool) (user : KiroUserInputMessage)
    (bare : user.images = []) : saidContent names keep user ≠ [] := by
  unfold saidContent
  rw [bare]
  simp only
  split_ifs with blank
  · decide
  · simpa using blank

/-- A turn with attachments goes as a repeat when it has only documents and says the same. -/
theorem carrier_repeats_iff (before msg : KiroHistoryMessage) (place : Nat) :
    (repeatsUser (some (sanitizeTurn names active keep place before))
        (sanitizeTurn names active keep index msg) &&
      !(attachments (sanitizeTurn names active keep index msg)).isEmpty) = true ↔
      documentsAlone (keep index) msg = true ∧
        saidText names (decide (active = some place) || keep place) (keep place) before =
          saidText names (decide (active = some index) || keep index) (keep index) msg := by
  rw [Bool.and_eq_true, repeats_user_iff, Option.bind_some, sanitized_turn_text, sanitized_turn_text,
    sanitize_turn_attachments, Bool.not_eq_true', List.isEmpty_eq_false_iff]
  obtain ⟨user, answer⟩ := msg
  cases answer with
  | some assistant =>
      rw [attachments_of_assistant _ rfl]
      cases user <;> simp [documentsAlone]
  | none =>
      cases user with
      | none => simp [documentsAlone, attachments]
      | some user =>
          have same := sanitize_user_attachments names (keep index) user
          have sanitized : (sanitizeTurn names active keep index
              ⟨some user, none⟩).userInputMessage = some (sanitizeUser names (keep index) user) :=
            rfl
          rw [sanitized]
          simp only [documentsAlone, attachments, Option.mem_some, exists_eq_left',
            sanitized_has_results, same.1, Bool.and_eq_true, Bool.not_eq_true',
            List.isEmpty_iff, List.isEmpty_eq_false_iff]
          constructor
          · rintro ⟨⟨text, plain, -, bare⟩, carried⟩
            refine ⟨⟨⟨bare, ?_⟩, plain⟩, text⟩
            simpa [bare] using carried
          · rintro ⟨⟨⟨bare, documents⟩, plain⟩, text⟩
            have told := said_content_some names (keep index) user bare
            rw [← sanitized_user_text] at told
            exact ⟨⟨text, plain, told, bare⟩, by simpa [bare] using documents⟩

end RequestTurns

section Chains

variable (history : History) (ids : List GoString) (keep : Nat → Bool)

theorem documents_told_iff :
    attachmentsUnrepeated none (sanitizeTurns history ids keep) = true ↔
      DocumentsTold history ids keep := by
  let pass := fun turn : KiroHistoryMessage × Nat =>
    sanitizeTurn (historyToolNames history) (activeIndex history ids) keep turn.2 turn.1
  let said := fun turn : KiroHistoryMessage × Nat =>
    saidText (historyToolNames history) (callsStay history ids keep turn.2) (keep turn.2) turn.1
  let silent := fun turn : KiroHistoryMessage × Nat =>
    saysNothing (callsStay history ids keep turn.2) turn.1
  have read (previous : Option (KiroHistoryMessage × Nat))
      (turns : List (KiroHistoryMessage × Nat)) :
      attachmentsUnrepeated (previous.map pass) (turns.map pass) = true ↔
        (previous.toList ++ turns.filter fun turn => !silent turn).IsChain fun before turn =>
          documentsAlone (keep turn.2) turn.1 = true → said before ≠ said turn := by
    induction turns generalizing previous with
    | nil => cases previous <;> simp [attachmentsUnrepeated]
    | cons turn rest ih =>
        have empty : emptyAssistant (pass turn) = silent turn := sanitized_turn_empty _ _ _ _ _
        rw [List.map_cons, attachmentsUnrepeated, empty]
        cases quiet : silent turn with
        | true => simpa [quiet] using ih previous
        | false =>
            have later := ih (some turn)
            rw [Option.map_some, Option.toList_some, List.singleton_append] at later
            rw [List.filter_cons_of_pos (by simp [quiet]), if_neg Bool.false_ne_true,
              Bool.and_eq_true, later]
            cases previous with
            | none =>
                have first : repeatsUser none (pass turn) = false := by
                  unfold repeatsUser
                  cases (pass turn).userInputMessage <;> rfl
                simp [first]
            | some before =>
                have repeats := carrier_repeats_iff (historyToolNames history)
                  (activeIndex history ids) keep turn.2 before.1 turn.1 before.2
                rw [Option.toList_some, List.singleton_append, List.isChain_cons_cons,
                  Bool.not_eq_true', ← Bool.not_eq_true, Option.map_some, repeats, not_and]
                exact Iff.rfl
  unfold sanitizeTurns
  rw [List.mapIdx_eq_zipIdx_map]
  exact read none history.zipIdx

/-- Every image and document of the user turns is still there, in order, in the sanitized
history exactly when no turn with documents alone says what the turn before it says. -/
theorem sanitized_attachments_iff :
    (historyAttachments history).Sublist
        (historyAttachments (sanitizeKiroHistoryKeeping history ids keep)) ↔
      DocumentsTold history ids keep := by
  rw [← documents_told_iff]
  unfold sanitizeKiroHistoryKeeping
  by_cases empty : history = []
  · rw [if_pos empty, empty]
    simp [sanitizeTurns, attachmentsUnrepeated]
  · rw [if_neg empty, trim_leading_attachments, ← sanitize_turns_attachments history ids keep,
      ← clean_attachments_iff none none rfl (sanitizeTurns history ids keep)]
    constructor
    · intro present
      exact (clean_attachments_sublist none (sanitizeTurns history ids keep)).antisymm present
    · intro same
      rw [same]

end Chains

section DocumentTurns

def documentOnlyUserContent : GoString := lit "Please analyze the attached document."

def normalizeDocumentUserContent (content : GoString) (documents : List KiroDocument) :
    GoString :=
  if content = [] && !documents.isEmpty then documentOnlyUserContent else content

/-- The turn of a user who sends a document and nothing else. -/
def documentTurn (document : KiroDocument) : KiroHistoryMessage where
  userInputMessage := some
    { content := normalizeDocumentUserContent [] [document]
      modelID := []
      origin := []
      images := []
      documents := [document]
      userInputMessageContext := none }
  assistantResponseMessage := none

def pdf (name bytes : GoString) : KiroDocument where
  format := lit "pdf"
  name := name
  bytes := bytes

theorem second_document_lost :
    ¬∀ (history : History) (ids : List GoString) (keep : Nat → Bool),
      (historyAttachments history).Sublist
        (historyAttachments (sanitizeKiroHistoryKeeping history ids keep)) := by
  intro always
  have kept := always
    [documentTurn (pdf (lit "a") (lit "QQ==")),
      { userInputMessage := none
        assistantResponseMessage := some { content := lit ".", toolUses := [] } },
      documentTurn (pdf (lit "b") (lit "Qg=="))] [] (fun _ => false)
  revert kept
  decide

end DocumentTurns

end KiroProxy.ToolHistory
