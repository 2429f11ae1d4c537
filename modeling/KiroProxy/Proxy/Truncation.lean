import KiroProxy.Foundation.Budget
import KiroProxy.Proxy.PairedSizes

/-!
# Truncation

`truncatePayloadToLimit` of `proxy/translator.go`: old turns go until the payload fits, the
newest ones and the priming stay, and the current text is cut as a last resort.
-/

namespace KiroProxy.Truncation

open FollowupPayloads Foundation GoStrings JsonText KiroTypes PayloadText ToolHistory

set_option autoImplicit false

def maxPayloadBytes : Int := 900 * 1024

def truncationPlaceholder : GoString :=
  lit "[Earlier conversation history was truncated to fit the model's input limit. Older messages and tool activity have been omitted.]"

def minRecentHistoryTurns : Nat := 4

section Cutting

def placeholderEntry (payload : SentPayload) : KiroHistoryMessage :=
  ⟨some
    { content := truncationPlaceholder
      modelID := payload.current.modelID
      origin := lit "AI_EDITOR"
      images := []
      documents := []
      userInputMessageContext := none }, none⟩

def primingCount (payload : SentPayload) (hasPriming : Bool) : Nat :=
  if hasPriming && 2 ≤ payload.history.length then 2 else 0

def priming (payload : SentPayload) (hasPriming : Bool) : History :=
  payload.history.take (primingCount payload hasPriming)

def conversation (payload : SentPayload) (hasPriming : Bool) : History :=
  payload.history.drop (primingCount payload hasPriming)

def baseSize (payload : SentPayload) (hasPriming : Bool) : Int :=
  payloadByteSize (withHistory payload (priming payload hasPriming)) +
    historyEntryByteSize (placeholderEntry payload)

/-- The number of turns the loop keeps, counted from the newest. -/
def keptTurns (payload : SentPayload) (hasPriming : Bool) : Nat :=
  Budget.keptCount historyEntryByteSize maxPayloadBytes minRecentHistoryTurns
    (baseSize payload hasPriming) 0 (conversation payload hasPriming).reverse

def keepFrom (payload : SentPayload) (hasPriming : Bool) : Nat :=
  (conversation payload hasPriming).length - keptTurns payload hasPriming

def dropLeadingAssistant (tail : History) : History :=
  tail.dropWhile fun msg => msg.assistantResponseMessage.isSome

/-- The history after the cut, before its tool turns are paired again. -/
def rebuilt (payload : SentPayload) (hasPriming : Bool) : History :=
  priming payload hasPriming ++
    (if 0 < keepFrom payload hasPriming then [placeholderEntry payload] else []) ++
    dropLeadingAssistant ((conversation payload hasPriming).drop (keepFrom payload hasPriming))

def currentPayloadToolResultIDs (payload : SentPayload) : List GoString :=
  collectToolResultIDs (currentResults payload.toKiroPayload)

def withContent (payload : SentPayload) (content : GoString) : SentPayload :=
  { payload with current := { payload.current with content := content } }

def truncateCurrentMessage (payload : SentPayload) : SentPayload :=
  let content := payload.current.content
  let overhead := payloadByteSize payload - content.length
  let budget := (maxPayloadBytes - overhead).toNat
  if budget < content.length then
    let budget := runeCut content budget
    if budget = 0 then withContent payload minimalFallbackUserContent
    else withContent payload (content.take budget)
  else payload

def repaired (payload : SentPayload) (hasPriming : Bool) : SentPayload :=
  withHistory payload
    (ensureToolHistoryPaired (rebuilt payload hasPriming) (currentPayloadToolResultIDs payload))

def truncatePayloadToLimit (payload : SentPayload) (hasPriming : Bool) : SentPayload :=
  if payloadByteSize payload ≤ maxPayloadBytes then payload
  else
    let payload := repaired payload hasPriming
    if maxPayloadBytes < payloadByteSize payload then truncateCurrentMessage payload else payload

end Cutting

section Fitting

/-- The turns that stay whatever their sizes. -/
def newestTurns (payload : SentPayload) (hasPriming : Bool) : History :=
  let conversation := conversation payload hasPriming
  conversation.drop (conversation.length - minRecentHistoryTurns)

theorem entries_total (history : History) :
    entriesByteSize history = Budget.total historyEntryByteSize history := rfl

/-- As many of the newest turns as asked for. -/
def newest (payload : SentPayload) (hasPriming : Bool) (count : Nat) : History :=
  let conversation := conversation payload hasPriming
  conversation.drop (conversation.length - count)

theorem newest_size (payload : SentPayload) (hasPriming : Bool) (count : Nat) :
    entriesByteSize (newest payload hasPriming count) =
      Budget.total historyEntryByteSize
        ((conversation payload hasPriming).reverse.take count) := by
  rw [List.take_reverse, Budget.total_reverse]
  rfl

theorem dropped_assistants_size (tail : History) :
    entriesByteSize (dropLeadingAssistant tail) ≤ entriesByteSize tail := by
  have split := List.takeWhile_append_dropWhile
    (p := fun msg : KiroHistoryMessage => msg.assistantResponseMessage.isSome) (l := tail)
  have whole := entries_append
    (tail.takeWhile fun msg => msg.assistantResponseMessage.isSome) (dropLeadingAssistant tail)
  rw [dropLeadingAssistant, split] at whole
  have nonneg := Budget.total_nonneg historyEntryByteSize
    (tail.takeWhile fun msg => msg.assistantResponseMessage.isSome)
    (fun entry _ => entry_size_nonneg entry)
  rw [← entries_total] at nonneg
  rw [dropLeadingAssistant]
  omega

/-- The turns the loop keeps. -/
def keptConversation (payload : SentPayload) (hasPriming : Bool) : History :=
  (conversation payload hasPriming).drop (keepFrom payload hasPriming)

/-- Where the newest turns fit beside the base, so does everything the loop keeps. -/
theorem kept_conversation_fits (payload : SentPayload) (hasPriming : Bool)
    (fits : baseSize payload hasPriming + entriesByteSize (newestTurns payload hasPriming) ≤
      maxPayloadBytes) :
    baseSize payload hasPriming + entriesByteSize (keptConversation payload hasPriming) ≤
      maxPayloadBytes := by
  have few : newestTurns payload hasPriming = newest payload hasPriming minRecentHistoryTurns := rfl
  have all : keptConversation payload hasPriming =
      newest payload hasPriming (keptTurns payload hasPriming) := rfl
  rw [few, newest_size] at fits
  rw [all, newest_size]
  exact Budget.kept_within historyEntryByteSize maxPayloadBytes minRecentHistoryTurns
    (baseSize payload hasPriming) (conversation payload hasPriming).reverse fits

/-- Without priming entries the loop does not count the brackets of the history. There is room for
them unless some of the newest turns fit with less than 12 bytes left and one turn more does not
fit. -/
def BracketsSpared (payload : SentPayload) (hasPriming : Bool) : Prop :=
  priming payload hasPriming = [] → ∀ count, minRecentHistoryTurns ≤ count →
    count < (conversation payload hasPriming).length →
    baseSize payload hasPriming + entriesByteSize (newest payload hasPriming count) ≤
      maxPayloadBytes →
    maxPayloadBytes < baseSize payload hasPriming +
      entriesByteSize (newest payload hasPriming (count + 1)) →
    baseSize payload hasPriming + entriesByteSize (newest payload hasPriming count) + 12 ≤
      maxPayloadBytes

theorem kept_spares (payload : SentPayload) (hasPriming : Bool)
    (spared : BracketsSpared payload hasPriming) (bare : priming payload hasPriming = [])
    (cut : 0 < keepFrom payload hasPriming)
    (fits : baseSize payload hasPriming + entriesByteSize (keptConversation payload hasPriming) ≤
      maxPayloadBytes) :
    baseSize payload hasPriming + entriesByteSize (keptConversation payload hasPriming) + 12 ≤
      maxPayloadBytes := by
  have fewer : keptTurns payload hasPriming < (conversation payload hasPriming).length :=
    Nat.lt_of_sub_pos cut
  have least := Budget.least_kept historyEntryByteSize maxPayloadBytes minRecentHistoryTurns
    (baseSize payload hasPriming) 0 (conversation payload hasPriming).reverse
  have stops := Budget.kept_stops historyEntryByteSize maxPayloadBytes minRecentHistoryTurns
    (baseSize payload hasPriming) 0 (conversation payload hasPriming).reverse
    (by rwa [List.length_reverse])
  rw [List.length_reverse, Nat.zero_add, Nat.zero_add] at least
  change min minRecentHistoryTurns _ ≤ keptTurns payload hasPriming at least
  rw [← newest_size] at stops
  exact spared bare (keptTurns payload hasPriming) (by omega) fewer fits stops

/-- A turn is at least as large as its text. -/
theorem user_entry_size (user : KiroUserInputMessage) (plain : user.images = [])
    (bare : user.documents = []) :
    (user.content.length : Int) ≤ historyEntryByteSize ⟨some user, none⟩ := by
  have text := marshal_string_length user.content
  have content := member_length (lit "content") (marshalString user.content)
  have message := member_length (lit "userInputMessage") (marshalUser user)
  have media : inlineMediaBytes (some user) = 0 := by
    simp [inlineMediaBytes, plain, bare]
  have whole : user.content.length ≤ (marshalUser user).length := by
    simp only [marshalUser, List.cons_append, object_length_cons]
    omega
  have entry : (marshalUser user).length ≤ (marshalMessage ⟨some user, none⟩).length := by
    simp only [marshalMessage, Option.toList_some, List.map_singleton, List.singleton_append,
      object_length_cons]
    omega
  unfold historyEntryByteSize
  rw [media]
  omega

theorem placeholder_size (payload : SentPayload) :
    12 ≤ historyEntryByteSize (placeholderEntry payload) := by
  have text : (12 : Int) ≤ (truncationPlaceholder.length : Int) := by decide +kernel
  obtain ⟨user, entry⟩ : ∃ user, placeholderEntry payload = ⟨some user, none⟩ := ⟨_, rfl⟩
  have held : (placeholderEntry payload).userInputMessage = some user := by rw [entry]
  have said : user.content = truncationPlaceholder := by rw [← Option.some.inj held]
  have size := user_entry_size user (by rw [← Option.some.inj held])
    (by rw [← Option.some.inj held])
  rw [said] at size
  rw [entry]
  exact Int.le_trans text size

theorem rebuilt_size (payload : SentPayload) (hasPriming : Bool) :
    entriesByteSize (rebuilt payload hasPriming) ≤
      entriesByteSize (priming payload hasPriming) +
        (if 0 < keepFrom payload hasPriming then
          historyEntryByteSize (placeholderEntry payload) else 0) +
          entriesByteSize (keptConversation payload hasPriming) := by
  have dropped := dropped_assistants_size (keptConversation payload hasPriming)
  have mark : entriesByteSize
      (if 0 < keepFrom payload hasPriming then [placeholderEntry payload] else []) =
        if 0 < keepFrom payload hasPriming then
          historyEntryByteSize (placeholderEntry payload) else 0 := by
    split_ifs
    · simp [entriesByteSize]
    · rfl
  rw [rebuilt, entries_append, entries_append, mark, ← keptConversation]
  omega

/-- The brackets of the history are in the base only where there are priming entries. -/
theorem rebuilt_fits (payload : SentPayload) (hasPriming : Bool)
    (spared : BracketsSpared payload hasPriming)
    (fits : baseSize payload hasPriming + entriesByteSize (keptConversation payload hasPriming) ≤
      maxPayloadBytes) :
    payloadByteSize (withHistory payload (rebuilt payload hasPriming)) ≤ maxPayloadBytes := by
  have spare := kept_spares payload hasPriming spared
  have size := rebuilt_size payload hasPriming
  have nonneg := Budget.total_nonneg historyEntryByteSize (keptConversation payload hasPriming)
    (fun entry _ => entry_size_nonneg entry)
  have marker := placeholder_size payload
  rw [← entries_total] at nonneg
  by_cases primed : priming payload hasPriming = []
  · rw [baseSize, primed] at fits spare
    have nothing : entriesByteSize [] = 0 := rfl
    rw [primed, nothing] at size
    by_cases empty : rebuilt payload hasPriming = []
    · rw [empty]
      omega
    · rw [payload_size_history payload _ empty]
      by_cases cut : 0 < keepFrom payload hasPriming
      · have room := spare rfl cut fits
        rw [if_pos cut] at size
        omega
      · rw [if_neg cut] at size
        omega
  · have some_ : rebuilt payload hasPriming ≠ [] := by simp [rebuilt, primed]
    have mark : (if 0 < keepFrom payload hasPriming then
        historyEntryByteSize (placeholderEntry payload) else 0) ≤
          historyEntryByteSize (placeholderEntry payload) := by
      split_ifs
      · exact Int.le_refl _
      · omega
    rw [baseSize, payload_size_history payload _ primed] at fits
    rw [payload_size_history payload _ some_]
    omega

theorem rebuilt_member (payload : SentPayload) (hasPriming : Bool) (msg : KiroHistoryMessage)
    (member : msg ∈ rebuilt payload hasPriming) :
    msg = placeholderEntry payload ∨ msg ∈ payload.history := by
  rcases List.mem_append.mp member with front | tail
  · rcases List.mem_append.mp front with primed | marked
    · exact .inr (List.mem_of_mem_take primed)
    · split_ifs at marked
      · exact .inl (List.mem_singleton.mp marked)
      · exact absurd marked List.not_mem_nil
  · have kept := (List.dropWhile_suffix _).subset tail
    exact .inr (List.mem_of_mem_drop (List.mem_of_mem_drop kept))

theorem rebuilt_terse (payload : SentPayload) (hasPriming : Bool)
    (terse : Terse payload.history) : Terse (rebuilt payload hasPriming) := by
  constructor
  · intro msg member user said
    rcases rebuilt_member payload hasPriming msg member with placed | held
    · rw [placed] at said
      have text : trimSpace truncationPlaceholder ≠ [] := by decide +kernel
      have same : user.content = truncationPlaceholder := by rw [← Option.some.inj said]
      rw [← same] at text
      exact .inl text
    · exact terse.spoken msg held user said
  · intro use member
    obtain ⟨msg, among, inside⟩ := List.mem_flatMap.mp member
    rcases rebuilt_member payload hasPriming msg among with placed | held
    · rw [placed] at inside
      exact absurd inside List.not_mem_nil
    · exact terse.named use (List.mem_flatMap.mpr ⟨msg, held, inside⟩)

/-- Telling the turns that lost their partner as text takes no more room than they had. -/
theorem repaired_size (payload : SentPayload) (hasPriming : Bool)
    (terse : Terse payload.history) :
    payloadByteSize (repaired payload hasPriming) ≤
      payloadByteSize (withHistory payload (rebuilt payload hasPriming)) := by
  have shorter := paired_size (currentPayloadToolResultIDs payload) 3 _
    (rebuilt_terse payload hasPriming terse)
  have nonneg := Budget.total_nonneg historyEntryByteSize (rebuilt payload hasPriming)
    (fun entry _ => entry_size_nonneg entry)
  rw [← entries_total] at nonneg
  unfold repaired ensureToolHistoryPaired
  by_cases none_ : rebuilt payload hasPriming = []
  · rw [none_]
    exact Int.le_refl _
  · rw [payload_size_history payload _ none_]
    by_cases gone : ensurePairedFrom (currentPayloadToolResultIDs payload) 3
        (rebuilt payload hasPriming) = []
    · rw [gone]
      omega
    · rw [payload_size_history payload _ gone]
      omega

/-- A payload whose base and newest turns fit comes out within the limit and with its own text:
narrating the turns that the cut parted from their partners makes a terse history no larger. -/
theorem truncated_payload_fits (payload : SentPayload) (hasPriming : Bool)
    (fits : baseSize payload hasPriming + entriesByteSize (newestTurns payload hasPriming) ≤
      maxPayloadBytes)
    (spared : BracketsSpared payload hasPriming) (terse : Terse payload.history) :
    payloadByteSize (truncatePayloadToLimit payload hasPriming) ≤ maxPayloadBytes ∧
      (truncatePayloadToLimit payload hasPriming).current.content = payload.current.content := by
  have kept := kept_conversation_fits payload hasPriming fits
  have cut := rebuilt_fits payload hasPriming spared kept
  have told := repaired_size payload hasPriming terse
  unfold truncatePayloadToLimit
  split_ifs with small
  · exact ⟨small, rfl⟩
  · have within : ¬maxPayloadBytes < payloadByteSize (repaired payload hasPriming) := by omega
    simp only [if_neg within]
    exact ⟨Int.not_lt.mp within, rfl⟩

def userTurn (content : GoString) : KiroUserInputMessage where
  content := content
  modelID := []
  origin := lit "AI_EDITOR"
  images := []
  documents := []
  userInputMessageContext := none

def oneTurn (content : GoString) : SentPayload where
  current := userTurn (lit "x")
  history := [⟨some (userTurn content), none⟩]
  inferenceConfig := none
  toolNameMap := []
  agentContinuationId := []
  agentTaskType := []
  chatTriggerType := lit "MANUAL"
  conversationID := []
  profileArn := []
  temperature := none
  topP := none
  additionalModelRequestFields := []

/-- A long text, a call with its result, and three short turns. -/
def longConversation (text : GoString) : SentPayload :=
  { oneTurn [] with
    history :=
      [⟨some (userTurn text), none⟩,
        ⟨none, some ⟨lit "run it", [⟨lit "call_1", lit "run", []⟩]⟩⟩,
        ⟨some { userTurn (lit "ran") with
          userInputMessageContext := some ⟨[], [⟨lit "call_1", [⟨lit "done"⟩], lit "success"⟩]⟩ },
          none⟩,
        ⟨none, some ⟨lit "it ran", []⟩⟩,
        ⟨some (userTurn (lit "go on")), none⟩,
        ⟨none, some ⟨lit "fine", []⟩⟩] }

theorem long_conversation_exceeds (text : GoString) (size : maxPayloadBytes ≤ text.length) :
    maxPayloadBytes < payloadByteSize (longConversation text) := by
  have entry := user_entry_size (userTurn text) rfl rfl
  change (text.length : Int) ≤ _ at entry
  have bare : 0 ≤ payloadByteSize (withHistory (oneTurn []) []) := by decide +kernel
  have whole := payload_size_history (oneTurn []) (longConversation text).history
    (List.cons_ne_nil _ _)
  have rest := Budget.total_nonneg historyEntryByteSize (longConversation text).history.tail
    (fun entry _ => entry_size_nonneg entry)
  have parts : entriesByteSize (longConversation text).history =
      historyEntryByteSize ⟨some (userTurn text), none⟩ +
        entriesByteSize (longConversation text).history.tail := entries_cons _ _
  rw [← entries_total] at rest
  change payloadByteSize (longConversation text) = _ at whole
  omega

/-- The long text goes, and with it the call: its result is told as text. -/
theorem long_conversation_fits :
    maxPayloadBytes < payloadByteSize (longConversation (List.replicate 921600 0x61)) ∧
      payloadByteSize
          (truncatePayloadToLimit (longConversation (List.replicate 921600 0x61)) false) ≤
        maxPayloadBytes ∧
      (truncatePayloadToLimit (longConversation (List.replicate 921600 0x61)) false).current.content =
        lit "x" := by
  have spoken : Spoken (userTurn (List.replicate 921600 0x61)) := by
    apply Or.inl
    apply List.ne_nil_of_mem
    apply mem_trim_space _ 0x61 (by decide)
    exact List.mem_replicate.mpr ⟨by decide, rfl⟩
  refine ⟨long_conversation_exceeds _ (by rw [List.length_replicate]; decide),
    truncated_payload_fits _ false (by decide +kernel) ?_ ?_⟩
  · intro _ count least fewer _ exceeds
    change count < 6 at fewer
    change 4 ≤ count at least
    obtain rfl | rfl : count = 4 ∨ count = 5 := by omega
    · exact absurd exceeds (by decide +kernel)
    · decide +kernel
  · refine ⟨List.forall_mem_cons.mpr ⟨fun user said => ?_, by decide +kernel⟩, by decide +kernel⟩
    obtain rfl := Option.some.inj said
    exact spoken

theorem one_turn_kept (content : GoString) (size : maxPayloadBytes ≤ content.length) :
    (truncatePayloadToLimit (oneTurn content) false).current.content =
      minimalFallbackUserContent := by
  have entry := user_entry_size (userTurn content) rfl rfl
  have bare : 0 ≤ payloadByteSize (withHistory (oneTurn content) []) := by
    change 0 ≤ payloadByteSize (withHistory (oneTurn []) [])
    decide +kernel
  have whole := payload_size_history (oneTurn content) (oneTurn content).history
    (List.cons_ne_nil _ _)
  have same : withHistory (oneTurn content) (oneTurn content).history = oneTurn content := rfl
  have one : entriesByteSize (oneTurn content).history =
      historyEntryByteSize ⟨some (userTurn content), none⟩ := by
    simp [entriesByteSize, oneTurn]
  rw [same, one] at whole
  change (content.length : Int) ≤ _ at entry
  have exceeds : ¬payloadByteSize (oneTurn content) ≤ maxPayloadBytes := by omega
  have count : keptTurns (oneTurn content) false = 1 := by
    simp [keptTurns, conversation, primingCount, oneTurn, Budget.keptCount, minRecentHistoryTurns]
  have kept : repaired (oneTurn content) false = oneTurn content := by
    unfold repaired rebuilt keepFrom
    rw [count]
    rfl
  have full : (maxPayloadBytes -
      (payloadByteSize (oneTurn content) - (oneTurn content).current.content.length)).toNat = 0 := by
    have length : (oneTurn content).current.content.length = 1 := rfl
    rw [length]
    omega
  unfold truncatePayloadToLimit
  rw [if_neg exceeds, kept]
  simp only [if_pos (Int.not_le.mp exceeds)]
  unfold truncateCurrentMessage
  simp only [full]
  rfl

/-- One large turn is never cut: the text of the current message goes instead. -/
theorem large_turn_replaces_text :
    baseSize (oneTurn (List.replicate 921600 0x61)) false ≤ maxPayloadBytes ∧
      (truncatePayloadToLimit (oneTurn (List.replicate 921600 0x61)) false).current.content ≠
        (oneTurn (List.replicate 921600 0x61)).current.content := by
  constructor
  · change baseSize (oneTurn []) false ≤ maxPayloadBytes
    decide +kernel
  · rw [one_turn_kept]
    · exact (by decide : minimalFallbackUserContent ≠ lit "x")
    · rw [List.length_replicate]
      decide

end Fitting

end KiroProxy.Truncation
