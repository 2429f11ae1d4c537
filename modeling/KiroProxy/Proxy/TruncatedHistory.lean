import KiroProxy.Proxy.TranslatedRequests
import KiroProxy.Proxy.Truncation

/-!
# The history of a truncated payload

What `truncatePayloadToLimit` leaves of a payload over the limit: the priming entries, the
placeholder, and the newest turns in their order. Where the cut took the partner of a tool turn
the passes over the history run once more, and leave out what they always leave out.
-/

namespace KiroProxy.Truncation

open Foundation GoStrings JsonText KiroTypes PayloadText ToolHistory
open ToolNames (NameMap)

set_option autoImplicit false

section Retelling

/-- A turn as the passes tell it: one whose partner is there keeps its calls or results, one
that lost it has its results told as text. -/
inductive Retold (names : NameMap) : Bool → KiroHistoryMessage → KiroHistoryMessage → Prop
  | assistant (paired : Bool) (assistant : KiroAssistantResponseMessage) :
      Retold names paired ⟨none, some assistant⟩
        ⟨none, some ⟨stripPollutedToolCallText assistant.content,
          if paired then assistant.toolUses else []⟩⟩
  | narrated (user : KiroUserInputMessage) (context : UserInputMessageContext)
      (held : user.userInputMessageContext = some context) (some_ : context.toolResults ≠ []) :
      Retold names false ⟨some user, none⟩
        ⟨some (fillBlank { user with
          content := joinHistoryText (ownText user) (narrateToolResults context.toolResults names)
          userInputMessageContext := none }), none⟩
  | answered (user : KiroUserInputMessage) (context : UserInputMessageContext)
      (held : user.userInputMessageContext = some context) (some_ : context.toolResults ≠ []) :
      Retold names true ⟨some user, none⟩
        ⟨some (fillBlank { user with
          userInputMessageContext := some ⟨[], context.toolResults⟩ }), none⟩
  | plain (paired : Bool) (user : KiroUserInputMessage)
      (silent : toolResults ⟨some user, none⟩ = []) :
      Retold names paired ⟨some user, none⟩
        ⟨some (fillBlank { user with userInputMessageContext := none }), none⟩

/-- Turns told again in their order. One is left out only as an assistant turn without calls
and text or as a user turn that says what the one before it says. -/
inductive Cleaned (names : NameMap) (active : Bool) :
    Bool → Option KiroHistoryMessage → History → History → Prop
  | done (answers : Bool) (last : Option KiroHistoryMessage) :
      Cleaned names active answers last [] []
  | kept (answers : Bool) (last : Option KiroHistoryMessage) (turn told : KiroHistoryMessage)
      (turns others : History)
      (retold : Retold names
        (answeredBy none turn turns || answers || (active && turns.isEmpty)) turn told)
      (cleaned : Cleaned names active (answeredBy none turn turns) (some told) turns others) :
      Cleaned names active answers last (turn :: turns) (told :: others)
  | left (answers : Bool) (last : Option KiroHistoryMessage) (turn told : KiroHistoryMessage)
      (turns others : History)
      (retold : Retold names
        (answeredBy none turn turns || answers || (active && turns.isEmpty)) turn told)
      (said : emptyAssistant told = true ∨ repeatsUser last told = true)
      (cleaned : Cleaned names active (answeredBy none turn turns) last turns others) :
      Cleaned names active answers last (turn :: turns) others

/-- Every turn is a user's or an assistant's. -/
def Turns (history : History) : Prop :=
  ∀ turn ∈ history, turn.userInputMessage.isSome = !turn.assistantResponseMessage.isSome

instance (history : History) : Decidable (Turns history) :=
  inferInstanceAs (Decidable (∀ turn ∈ history, _))

theorem turns_sided (history : History) (turns : Turns history) : OneSided history := by
  intro turn member
  have side := turns turn member
  cases user : turn.userInputMessage with
  | none => exact .inl user
  | some said =>
      right
      rw [user] at side
      cases assistant : turn.assistantResponseMessage with
      | none => rfl
      | some answer =>
          rw [assistant] at side
          exact absurd side Bool.noConfusion

theorem retold_user (names : NameMap) (keep : Bool) (user : KiroUserInputMessage) :
    Retold names keep ⟨some user, none⟩ ⟨some (sanitizeUser names keep user), none⟩ := by
  rw [sanitize_user_fills]
  cases held : user.userInputMessageContext with
  | none =>
      have silent : toolResults ⟨some user, none⟩ = [] := by
        unfold toolResults
        simp only [held]
      have same : { user with userInputMessageContext := none } = user := by
        rw [← held]
      have plain := @Retold.plain names keep user silent
      rwa [same] at plain
  | some context =>
      simp only
      have found : toolResults ⟨some user, none⟩ = context.toolResults := by
        unfold toolResults
        simp only [held]
      by_cases empty : context.toolResults = []
      · have bare : narrateContext names keep user context =
            { user with userInputMessageContext := none } := by
          unfold narrateContext
          simp [empty]
        rw [bare]
        exact Retold.plain keep user (found.trans empty)
      · cases keep with
        | false =>
            rw [narrate_context_content names user context empty]
            exact Retold.narrated user context held empty
        | true =>
            rw [narrate_context_kept names user context empty]
            exact Retold.answered user context held empty

theorem retold_turn (names : NameMap) (active keep : Bool) (turn : KiroHistoryMessage)
    (side : turn.userInputMessage.isSome = !turn.assistantResponseMessage.isSome)
    (called : active = true → turn.assistantResponseMessage.isSome = true) :
    Retold names (keep || active) turn (sanitizeMarked names active keep turn) := by
  obtain ⟨user, assistant⟩ := turn
  cases assistant with
  | none =>
      cases user with
      | none => exact absurd side Bool.noConfusion
      | some user =>
          have idle : active = false := by
            by_contra acts
            exact absurd (called (Bool.not_eq_false _ ▸ acts)) Bool.noConfusion
          rw [idle, Bool.or_false, marked_user]
          exact retold_user names keep user
  | some assistant =>
      cases user with
      | some user => exact absurd side Bool.noConfusion
      | none =>
          rw [marked_assistant, Bool.or_comm keep active]
          exact Retold.assistant (active || keep) assistant

/-- The passes tell the turns in their order. -/
theorem cleaned_from (names : NameMap) (active answers : Bool) (last : Option KiroHistoryMessage)
    (turns : History) (spoken : Turns turns)
    (called : active = true → ∀ final ∈ turns.getLast?,
      final.assistantResponseMessage.isSome = true) :
    Cleaned names active answers last turns
      (cleanFrom last (sanitizeFrom names none active true answers turns)) := by
  induction turns generalizing answers last with
  | nil => exact Cleaned.done answers last
  | cons turn turns ih =>
      have later : Turns turns := fun other member => spoken other (List.mem_cons_of_mem _ member)
      have calledLater : active = true → ∀ final ∈ turns.getLast?,
          final.assistantResponseMessage.isSome = true := by
        intro acts final member
        apply called acts final
        cases turns with
        | nil => simp at member
        | cons next turns => rwa [List.getLast?_cons_cons]
      have here : (active && turns.isEmpty) = true →
          turn.assistantResponseMessage.isSome = true := by
        intro acts
        rw [Bool.and_eq_true, List.isEmpty_iff] at acts
        apply called acts.1
        rw [acts.2]
        rfl
      have retold := retold_turn names (active && turns.isEmpty)
        (answeredBy none turn turns || answers) turn (spoken turn List.mem_cons_self) here
      rw [sanitizeFrom, cleanFrom]
      simp only [Bool.true_and]
      split_ifs with said
      · exact Cleaned.left answers last turn _ turns _ retold (Bool.or_eq_true_iff.mp said)
          (ih _ _ later calledLater)
      · exact Cleaned.kept answers last turn _ turns _ retold (ih _ _ later calledLater)

end Retelling

section Leading

/-- A turn in front that the passes leave alone. -/
structure Settled (last : Option KiroHistoryMessage) (turn : KiroHistoryMessage) : Prop where
  told : ∀ names active, sanitizeMarked names active false turn = turn
  plain : toolUses turn = []
  stays : (emptyAssistant turn || repeatsUser last turn) = false

theorem settled_stays (names : NameMap) (active started : Bool) (last : Option KiroHistoryMessage)
    (turn : KiroHistoryMessage) (turns : History) (settled : Settled last turn) :
    cleanFrom last (sanitizeFrom names none active started false (turn :: turns)) =
      turn :: cleanFrom (some turn) (sanitizeFrom names none active true false turns) := by
  have unanswered : answeredBy none turn turns = false := by
    cases turns with
    | nil => rfl
    | cons next turns =>
        unfold answeredBy toolPairMatches
        rw [settled.plain]
        rfl
  rw [sanitizeFrom]
  simp only [unanswered, Bool.and_false, Bool.or_false]
  rw [settled.told, cleanFrom, settled.stays]
  rfl

/-- A user turn without context that says something stays behind a turn of the assistant. -/
theorem settled_user (last : Option KiroHistoryMessage) (user : KiroUserInputMessage)
    (bare : user.userInputMessageContext = none) (speaks : trimSpace user.content ≠ [])
    (silent : last.bind KiroHistoryMessage.userInputMessage = none) :
    Settled last ⟨some user, none⟩ := by
  constructor
  · intro names active
    rw [marked_user, sanitize_user_fills, bare]
    simp [fillBlank, speaks]
  · rfl
  · unfold emptyAssistant repeatsUser
    rw [silent]
    rfl

def instructed : KiroHistoryMessage :=
  FollowupPayloads.assistantTurn (lit "I will follow these instructions.") []

theorem instructed_told (names : NameMap) (active keep : Bool) :
    sanitizeMarked names active keep instructed = instructed := by
  have text : stripPollutedToolCallText (lit "I will follow these instructions.") =
      lit "I will follow these instructions." := by decide
  unfold instructed FollowupPayloads.assistantTurn
  rw [marked_assistant, text, ite_self]

theorem settled_instructed (last : Option KiroHistoryMessage) : Settled last instructed := by
  have saying : emptyAssistant instructed = false := by decide
  constructor
  · intro names active
    exact instructed_told names active false
  · rfl
  · rw [saying]
    rfl

def SettledFrom : Option KiroHistoryMessage → History → Prop
  | _, [] => True
  | last, turn :: turns => Settled last turn ∧ SettledFrom (some turn) turns

/-- The turn right before what follows. -/
def lastOf (last : Option KiroHistoryMessage) : History → Option KiroHistoryMessage
  | [] => last
  | turn :: turns => lastOf (some turn) turns

theorem settled_front (names : NameMap) (active started : Bool) (last : Option KiroHistoryMessage)
    (front turns : History) (settled : SettledFrom last front) :
    cleanFrom last (sanitizeFrom names none active started false (front ++ turns)) =
      front ++ cleanFrom (lastOf last front)
        (sanitizeFrom names none active (started || !front.isEmpty) false turns) := by
  induction front generalizing last started with
  | nil =>
      rw [List.isEmpty_nil, Bool.not_true, Bool.or_false]
      rfl
  | cons turn front ih =>
      rw [List.cons_append, settled_stays names active started last turn _ settled.1,
        ih true (some turn) settled.2]
      simp [lastOf]

/-- A user turn answers no turn, wherever it stands. -/
theorem user_unstarted (names : NameMap) (active started : Bool) (turns : History)
    (user : ∀ first ∈ turns.head?, first.assistantResponseMessage = none) :
    sanitizeFrom names none active started false turns =
      sanitizeFrom names none active true false turns := by
  cases turns with
  | nil => rfl
  | cons first turns =>
      have plain := uses_of_user first (user first rfl)
      have unanswered : answeredBy none first turns = false := by
        cases turns with
        | nil => rfl
        | cons next turns =>
            unfold answeredBy toolPairMatches
            rw [plain]
            rfl
      rw [sanitizeFrom, sanitizeFrom, unanswered, Bool.and_false, Bool.and_false]

end Leading

section Structure

variable (payload : SentPayload) (hasPriming : Bool)

/-- The entries that a system prompt puts in front of the conversation. -/
def Primes (history : History) : Prop :=
  ∃ modelID prompt rest, trimSpace prompt ≠ [] ∧
    history = TranslatedRequests.priming modelID prompt ++ rest

def Primed : Prop := hasPriming = true → Primes payload.history

def marker : History := if 0 < keepFrom payload hasPriming then [placeholderEntry payload] else []

/-- The newest turns that are kept, from the first user turn. -/
def tail : History :=
  dropLeadingAssistant ((conversation payload hasPriming).drop (keepFrom payload hasPriming))

/-- Whether the calls of the last turn are answered by the current message. -/
def lastActive : Bool :=
  currentToolResultsMatchLastAssistant (rebuilt payload hasPriming)
    (currentPayloadToolResultIDs payload)

theorem rebuilt_parts : rebuilt payload hasPriming =
    priming payload hasPriming ++ (marker payload hasPriming ++ tail payload hasPriming) :=
  List.append_assoc _ _ _

variable {payload hasPriming}

theorem primed_parts (primed : Primed payload hasPriming) :
    priming payload hasPriming = [] ∨ ∃ modelID prompt, trimSpace prompt ≠ [] ∧
      priming payload hasPriming = TranslatedRequests.priming modelID prompt := by
  cases hasPriming with
  | false => exact .inl rfl
  | true =>
      obtain ⟨modelID, prompt, rest, speaks, history⟩ := primed rfl
      right
      refine ⟨modelID, prompt, speaks, ?_⟩
      have count : primingCount payload true = 2 := by
        unfold primingCount
        rw [history]
        rfl
      rw [priming, count, history]
      rfl

theorem tail_user (first : KiroHistoryMessage) (turns : History)
    (same : tail payload hasPriming = first :: turns) : first.assistantResponseMessage = none := by
  have head := List.head?_dropWhile_not
    (fun msg : KiroHistoryMessage => msg.assistantResponseMessage.isSome)
    ((conversation payload hasPriming).drop (keepFrom payload hasPriming))
  rw [← dropLeadingAssistant, ← tail, same] at head
  simpa using head

theorem tail_mem (turn : KiroHistoryMessage) (member : turn ∈ tail payload hasPriming) :
    turn ∈ payload.history :=
  List.mem_of_mem_drop (List.mem_of_mem_drop ((List.dropWhile_sublist _).subset member))

theorem tail_said (spoken : Turns payload.history) :
    ∀ first ∈ (tail payload hasPriming).head?, first.userInputMessage.isSome = true := by
  intro first member
  obtain ⟨turns, same⟩ := List.head?_eq_some_iff.mp (Option.mem_def.mp member)
  have side := spoken first (tail_mem first (by rw [same]; exact List.mem_cons_self))
  rw [side, tail_user first turns same]
  rfl

theorem marker_turns (turn : KiroHistoryMessage) (member : turn ∈ marker payload hasPriming) :
    turn = placeholderEntry payload := by
  unfold marker at member
  split_ifs at member
  · exact List.mem_singleton.mp member
  · exact absurd member List.not_mem_nil

theorem rebuilt_turns (spoken : Turns payload.history) :
    Turns (rebuilt payload hasPriming) := by
  intro turn member
  rw [rebuilt_parts] at member
  rcases List.mem_append.mp member with lead | rest
  · exact spoken turn (List.mem_of_mem_take lead)
  · rcases List.mem_append.mp rest with mark | newest
    · rw [marker_turns turn mark]
      rfl
    · exact spoken turn (tail_mem turn newest)

/-- The last turn whose calls are answered is the assistant's. -/
theorem active_called (acts : lastActive payload hasPriming = true)
    (final : KiroHistoryMessage) (member : final ∈ (rebuilt payload hasPriming).getLast?) :
    final.assistantResponseMessage.isSome = true := by
  unfold lastActive currentToolResultsMatchLastAssistant at acts
  split_ifs at acts
  rw [Option.mem_def.mp member] at acts
  simp only [Bool.and_eq_true] at acts
  unfold hasToolUses at acts
  cases said : final.assistantResponseMessage with
  | none =>
      rw [said] at acts
      exact absurd acts.1 Bool.noConfusion
  | some assistant => rfl

theorem settled_marker (last : Option KiroHistoryMessage)
    (silent : last.bind KiroHistoryMessage.userInputMessage = none) :
    SettledFrom last (marker payload hasPriming) := by
  have speaks : trimSpace truncationPlaceholder ≠ [] := by decide +kernel
  have settled : Settled last (placeholderEntry payload) := by
    apply settled_user
    · rfl
    · simpa only using speaks
    · exact silent
  unfold marker
  split_ifs
  · exact ⟨settled, trivial⟩
  · trivial

theorem settled_front_turns (primed : Primed payload hasPriming) :
    SettledFrom none (priming payload hasPriming ++ marker payload hasPriming) := by
  rcases primed_parts primed with none_ | ⟨modelID, prompt, speaks, same⟩
  · rw [none_]
    exact settled_marker none rfl
  · rw [same]
    exact ⟨settled_user none _ rfl speaks rfl, settled_instructed _, settled_marker _ rfl⟩

variable (payload hasPriming)

/-- What is in front of the newest turns. -/
def lead : History := priming payload hasPriming ++ marker payload hasPriming

/-- The newest turns as the passes leave them. -/
def retold : History :=
  cleanFrom (lastOf none (lead payload hasPriming))
    (sanitizeFrom (historyToolNames (rebuilt payload hasPriming)) none
      (lastActive payload hasPriming) true false (tail payload hasPriming))

/-- The newest turns as they come out. -/
def told : History :=
  if toolHistoryPaired (rebuilt payload hasPriming) (currentPayloadToolResultIDs payload)
      (structuredToolPairs (rebuilt payload hasPriming) none) then tail payload hasPriming
  else retold payload hasPriming

variable {payload hasPriming}

theorem rebuilt_user (primed : Primed payload hasPriming) (first : KiroHistoryMessage)
    (turns : History) (same : rebuilt payload hasPriming = first :: turns) :
    first.assistantResponseMessage = none := by
  rw [rebuilt_parts] at same
  rcases primed_parts primed with none_ | ⟨modelID, prompt, speaks, front⟩
  · rw [none_, List.nil_append] at same
    unfold marker at same
    split_ifs at same
    · rw [← (List.cons.inj same).1]
      rfl
    · exact tail_user first turns same
  · rw [front] at same
    rw [← (List.cons.inj same).1]
    rfl

/-- The passes leave the priming and the placeholder alone. -/
theorem passes_front (primed : Primed payload hasPriming) :
    cleanFrom none (sanitizeTurns (rebuilt payload hasPriming)
        (currentPayloadToolResultIDs payload)
        (structuredToolPairs (rebuilt payload hasPriming) none)) =
      lead payload hasPriming ++ retold payload hasPriming := by
  rw [sanitize_turns_from, ← lastActive]
  have front := settled_front (historyToolNames (rebuilt payload hasPriming))
    (lastActive payload hasPriming) false none (lead payload hasPriming) (tail payload hasPriming)
    (settled_front_turns primed)
  have user : ∀ first ∈ (tail payload hasPriming).head?,
      first.assistantResponseMessage = none := by
    intro first member
    obtain ⟨turns, same⟩ := List.head?_eq_some_iff.mp (Option.mem_def.mp member)
    exact tail_user first turns same
  rw [user_unstarted _ _ (false || _) (tail payload hasPriming) user] at front
  exact front

/-- The history comes out as it was cut where every tool turn has its partner, and retold once
where one lost it. -/
theorem repaired_history (spoken : Turns payload.history) (primed : Primed payload hasPriming) :
    (repaired payload hasPriming).history = lead payload hasPriming ++ told payload hasPriming := by
  change ensureToolHistoryPaired (rebuilt payload hasPriming)
    (currentPayloadToolResultIDs payload) = _
  unfold told
  split_ifs with paired
  · rw [ensure_of_paired _ paired]
    rfl
  · rw [← passes_front primed]
    have sided := turns_sided _ (@rebuilt_turns payload hasPriming spoken)
    cases whole : rebuilt payload hasPriming with
    | nil =>
        rw [whole] at paired
        exact absurd rfl paired
    | cons first turns =>
        rw [whole] at paired sided
        have passed := passed_from_user (currentPayloadToolResultIDs payload) first turns none sided
          (rebuilt_user primed first turns whole)
        unfold ensureToolHistoryPaired
        rw [ensurePairedFrom]
        simp only [if_neg paired]
        rw [passed.2.2.1, ensurePairedFrom]
        simp only [if_pos passed.2.2.2]

theorem told_cleaned (spoken : Turns payload.history) :
    if toolHistoryPaired (rebuilt payload hasPriming) (currentPayloadToolResultIDs payload)
        (structuredToolPairs (rebuilt payload hasPriming) none) then
      told payload hasPriming = tail payload hasPriming
    else Cleaned (historyToolNames (rebuilt payload hasPriming)) (lastActive payload hasPriming)
      false (lastOf none (lead payload hasPriming)) (tail payload hasPriming)
      (told payload hasPriming) := by
  have newest : Turns (tail payload hasPriming) := fun turn member =>
    spoken turn (tail_mem turn member)
  have called : lastActive payload hasPriming = true →
      ∀ final ∈ (tail payload hasPriming).getLast?,
        final.assistantResponseMessage.isSome = true := by
    intro acts final member
    apply active_called acts final
    rw [rebuilt_parts, ← List.append_assoc, List.getLast?_append]
    rw [Option.mem_def.mp member]
    rfl
  unfold told
  split_ifs
  · rfl
  · exact cleaned_from _ _ _ _ _ newest called

/-- What is told begins with the first user turn where no placeholder stands in front. -/
theorem told_from_user (spoken : Turns payload.history) (primed : Primed payload hasPriming)
    (unmarked : marker payload hasPriming = []) :
    ∀ first ∈ (told payload hasPriming).head?, first.userInputMessage.isSome = true := by
  unfold told
  split_ifs with paired
  · exact tail_said spoken
  have silent : (lastOf none (lead payload hasPriming)).bind KiroHistoryMessage.userInputMessage =
      none := by
    unfold lead
    rw [unmarked, List.append_nil]
    rcases primed_parts primed with none_ | ⟨modelID, prompt, -, front⟩
    · rw [none_]
      rfl
    · rw [front]
      rfl
  intro first member
  unfold retold at member
  cases newest : tail payload hasPriming with
  | nil =>
      rw [newest] at member
      exact absurd member (Option.not_mem_none first)
  | cons turn turns =>
      have user := tail_user turn turns newest
      have side := spoken turn (tail_mem turn (by rw [newest]; exact List.mem_cons_self))
      rw [newest, sanitizeFrom, cleanFrom] at member
      have sides := marked_sided (historyToolNames (rebuilt payload hasPriming))
        (lastActive payload hasPriming && turns.isEmpty)
        (true && answeredBy none turn turns || false) turn
      have stays (told : KiroHistoryMessage) (same : told.assistantResponseMessage = none) :
          (emptyAssistant told ||
            repeatsUser (lastOf none (lead payload hasPriming)) told) = false := by
        unfold emptyAssistant repeatsUser
        rw [same, silent]
        cases told.userInputMessage <;> rfl
      rw [if_neg (by rw [stays _ (sides.2.mpr user)]; exact Bool.false_ne_true)] at member
      rw [← Option.some.inj (Option.mem_def.mp member)]
      rw [user] at side
      cases said : (sanitizeMarked (historyToolNames (rebuilt payload hasPriming))
          (lastActive payload hasPriming && turns.isEmpty)
          (true && answeredBy none turn turns || false) turn).userInputMessage with
      | none =>
          rw [sides.1.mp said] at side
          exact absurd side Bool.noConfusion
      | some told => rfl

end Structure

section Translated

/-- A pass keeps the priming in front; a system prompt of blanks gets the fallback text. -/
theorem passed_primes (modelID prompt : GoString) (rest : History) (ids : List GoString)
    (keep : Nat → Bool) :
    Primes (sanitizeKiroHistoryKeeping (TranslatedRequests.priming modelID prompt ++ rest) ids
      keep) := by
  let filled := if trimSpace prompt = [] then minimalFallbackUserContent else prompt
  have speaks : trimSpace filled ≠ [] := by
    simp only [filled]
    split_ifs with blank
    · decide
    · exact blank
  have user (names : NameMap) (active kept : Bool) :
      sanitizeMarked names active kept (TranslatedRequests.userTurn modelID prompt [] [] []) =
        TranslatedRequests.userTurn modelID filled [] [] [] := by
    unfold TranslatedRequests.userTurn
    rw [marked_user, sanitize_user_fills]
    simp only [fillBlank, filled, List.isEmpty_nil, Bool.and_true, decide_eq_true_eq, if_true]
    split_ifs
    · rfl
    · rfl
  obtain ⟨later, told⟩ : ∃ later, sanitizeTurns
      (TranslatedRequests.priming modelID prompt ++ rest) ids keep =
        TranslatedRequests.userTurn modelID filled [] [] [] :: instructed :: later := by
    unfold TranslatedRequests.priming sanitizeTurns
    rw [List.cons_append, List.cons_append, List.nil_append, List.mapIdx_cons, List.mapIdx_cons,
      sanitize_turn_marked, sanitize_turn_marked, user]
    exact ⟨_, congrArg (fun turn => _ :: turn :: _) (instructed_told _ _ _)⟩
  have first : Settled none (TranslatedRequests.userTurn modelID filled [] [] []) :=
    settled_user none _ rfl speaks rfl
  refine ⟨modelID, filled, cleanFrom (some instructed) later, speaks, ?_⟩
  have some_ : TranslatedRequests.priming modelID prompt ++ rest ≠ [] := List.cons_ne_nil _ _
  unfold sanitizeKiroHistoryKeeping
  rw [if_neg some_, told, cleanFrom, if_neg (by rw [first.stays]; decide),
    cleanFrom, if_neg (by rw [(settled_instructed _).stays]; decide)]
  rfl

theorem repaired_primes (ids : List GoString) (attempts : Nat) (history : History)
    (primes : Primes history) : Primes (ensurePairedFrom ids attempts history) := by
  induction attempts generalizing history with
  | zero =>
      rw [ensurePairedFrom]
      split_ifs
      · exact primes
      · obtain ⟨modelID, prompt, rest, -, same⟩ := primes
        rw [same]
        exact passed_primes modelID prompt rest ids _
  | succ attempts ih =>
      rw [ensurePairedFrom]
      split_ifs
      · exact primes
      · apply ih
        obtain ⟨modelID, prompt, rest, -, same⟩ := primes
        rw [same]
        exact passed_primes modelID prompt rest ids _

/-- What the translators put in front of a conversation is in front of its payload's history. -/
theorem translated_primes (quoted : GoString → GoString) (enabled : Bool) (order : NameMap)
    (request : TranslatedRequests.TranslatedRequest) (translator : TranslatedRequests.Translator)
    (prompted : request.systemPrompt ≠ []) :
    Primes (TranslatedRequests.buildPayload quoted enabled order request translator).history := by
  have primes : ∃ prompt rest, translator.history request =
      TranslatedRequests.priming request.modelID prompt ++ rest := by
    cases translator with
    | claude => exact ⟨_, _, if_pos prompted⟩
    | openAI => exact ⟨_, _, if_pos prompted⟩
  obtain ⟨prompt, rest, same⟩ := primes
  have kept (declared : NameMap) : Primes (keptToolHistory (translator.history request)
      (TranslatedRequests.answeredIDs request translator) declared) := by
    rw [same]
    unfold keptToolHistory
    split_ifs
    · exact passed_primes request.modelID prompt rest _ _
    · exact repaired_primes _ _ _ (passed_primes request.modelID prompt rest _ _)
  rw [TranslatedRequests.built_history, sanitize_for_tools_kept]
  obtain ⟨modelID, filled, turns, speaks, whole⟩ :=
    kept (ToolDeclarations.structuredToolHistoryNames enabled request.tools.tools order)
  rw [whole]
  exact ⟨modelID, filled, _, speaks, rfl⟩

theorem passed_turns (history : History) (ids : List GoString) (keep : Nat → Bool)
    (turns : Turns history) : Turns (sanitizeKiroHistoryKeeping history ids keep) := by
  intro turn member
  obtain ⟨index, bound, same⟩ :=
    List.mem_mapIdx.mp ((sanitized_sublist history ids keep).subset member)
  rw [sanitize_turn_marked] at same
  rw [← same]
  have side := turns _ (List.getElem_mem bound)
  have sides := marked_sided (historyToolNames history)
    (decide (activeIndex history ids = some index)) (keep index) history[index]
  rw [Bool.eq_iff_iff, Bool.not_eq_true', Option.isSome_iff_ne_none] at side ⊢
  rw [Option.isSome_eq_false_iff, Option.isNone_iff_eq_none] at side ⊢
  rw [sides.2, ne_eq, sides.1]
  exact side

theorem repaired_turns (ids : List GoString) (attempts : Nat) (history : History)
    (turns : Turns history) : Turns (ensurePairedFrom ids attempts history) := by
  induction attempts generalizing history with
  | zero =>
      rw [ensurePairedFrom]
      split_ifs
      · exact turns
      · exact passed_turns history ids _ turns
  | succ attempts ih =>
      rw [ensurePairedFrom]
      split_ifs
      · exact turns
      · exact ih _ (passed_turns history ids _ turns)

theorem limited_turns (turns : History) (spoken : Turns turns) :
    Turns (limitHistoryImages turns) := by
  unfold limitHistoryImages
  induction turns with
  | nil => exact spoken
  | cons msg rest ih =>
      have here := spoken msg List.mem_cons_self
      have later := ih fun other among => spoken other (List.mem_cons_of_mem _ among)
      intro turn member
      rw [limitImagesFrom] at member
      cases held : msg.userInputMessage with
      | none =>
          simp only [held] at member
          cases List.mem_cons.mp member with
          | inl same =>
              rw [same]
              exact here
          | inr inside => exact later turn inside
      | some user =>
          simp only [held] at member
          cases List.mem_cons.mp member with
          | inl same =>
              rw [held] at here
              rw [same]
              exact here
          | inr inside => exact later turn inside

theorem request_turns (request : TranslatedRequests.TranslatedRequest)
    (translator : TranslatedRequests.Translator) : Turns (translator.history request) := by
  have turns : Turns (TranslatedRequests.messages request) := by
    intro msg member
    obtain ⟨turn, -, same⟩ := List.mem_map.mp member
    rw [← same]
    cases turn with
    | user content images documents toolResults => rfl
    | assistant content toolUses => rfl
  have primed (prompt : GoString) (history : History) (spoken : Turns history) :
      Turns (TranslatedRequests.priming request.modelID prompt ++ history) := by
    intro msg member
    rcases List.mem_append.mp member with front | inside
    · rcases List.mem_cons.mp front with same | later
      · rw [same]
        rfl
      · rw [List.mem_singleton.mp later]
        rfl
    · exact spoken msg inside
  cases translator with
  | claude =>
      have trimmed : Turns (trimLeadingAssistantHistory (TranslatedRequests.messages request)) :=
        fun msg member => turns msg ((trim_sublist _).subset member)
      change Turns (TranslatedRequests.claudeHistory request)
      unfold TranslatedRequests.claudeHistory
      simp only
      split_ifs
      · exact primed _ _ trimmed
      · exact trimmed
  | openAI =>
      change Turns (TranslatedRequests.openAIHistory request)
      unfold TranslatedRequests.openAIHistory
      simp only
      split_ifs
      · exact primed _ _ turns
      · exact turns

/-- Every turn of a translated history is a user's or an assistant's. -/
theorem translated_turns (quoted : GoString → GoString) (enabled : Bool) (order : NameMap)
    (request : TranslatedRequests.TranslatedRequest)
    (translator : TranslatedRequests.Translator) :
    Turns (TranslatedRequests.buildPayload quoted enabled order request translator).history := by
  have kept (declared : NameMap) : Turns (keptToolHistory (translator.history request)
      (TranslatedRequests.answeredIDs request translator) declared) := by
    have turns := request_turns request translator
    unfold keptToolHistory
    split_ifs
    · exact passed_turns _ _ _ turns
    · exact repaired_turns _ _ _ (passed_turns _ _ _ turns)
  rw [TranslatedRequests.built_history, sanitize_for_tools_kept]
  apply limited_turns
  intro turn member
  obtain ⟨original, inside, same⟩ := List.mem_map.mp member
  rw [← same]
  have side := kept _ original inside
  unfold renameTurn
  rw [Option.isSome_map]
  exact side

end Translated

section Texts

/-- A text that is whole, replaced, or cut before a rune. -/
def TextCut (content text : GoString) : Prop :=
  text = content ∨ text = minimalFallbackUserContent ∨
    ∃ cut, 0 < cut ∧ cut < content.length ∧ runeStart (content.getD cut 0) = true ∧
      text = content.take cut

theorem rune_cut_le (text : GoString) (cut : Nat) : runeCut text cut ≤ cut := by
  induction cut with
  | zero => exact Nat.le_refl 0
  | succ cut ih =>
      rw [runeCut]
      split_ifs
      · exact Nat.le_refl _
      · exact Nat.le_succ_of_le ih

theorem rune_cut_starts (text : GoString) (cut : Nat) (some_ : runeCut text cut ≠ 0) :
    runeStart (text.getD (runeCut text cut) 0) = true := by
  induction cut with
  | zero => exact absurd rfl some_
  | succ cut ih =>
      rw [runeCut] at some_ ⊢
      split_ifs at some_ ⊢ with starts
      · exact starts
      · exact ih some_

theorem current_cut (payload : SentPayload) :
    ∃ text, truncateCurrentMessage payload = withContent payload text ∧
      TextCut payload.current.content text := by
  unfold truncateCurrentMessage
  simp only
  split_ifs with long empty
  · exact ⟨minimalFallbackUserContent, rfl, .inr (.inl rfl)⟩
  · refine ⟨_, rfl, .inr (.inr ⟨_, Nat.pos_of_ne_zero empty, ?_, rune_cut_starts _ _ empty, rfl⟩)⟩
    exact Nat.lt_of_le_of_lt (rune_cut_le _ _) long
  · exact ⟨payload.current.content, rfl, .inl rfl⟩

end Texts

section Shape

variable (payload : SentPayload) (hasPriming : Bool)

/-- What is left of a payload over the limit: `older` are the turns that were cut for their size,
`leading` the assistant turns in front of the newest user turn that was kept. -/
def Shape : Prop :=
  ∃ older leading newest told,
    conversation payload hasPriming = older ++ (leading ++ newest) ∧
    (∀ turn ∈ leading, turn.assistantResponseMessage.isSome = true) ∧
    (∀ first ∈ newest.head?, first.userInputMessage.isSome = true) ∧
    let front := priming payload hasPriming ++
      if older = [] then [] else [placeholderEntry payload]
    let history := front ++ newest
    let ids := currentPayloadToolResultIDs payload
    (if toolHistoryPaired history ids (structuredToolPairs history none) then told = newest
      else Cleaned (historyToolNames history) (currentToolResultsMatchLastAssistant history ids)
        false (lastOf none front) newest told) ∧
    (older = [] → ∀ first ∈ told.head?, first.userInputMessage.isSome = true) ∧
    ∃ text, TextCut payload.current.content text ∧
      truncatePayloadToLimit payload hasPriming =
        withContent (withHistory payload (front ++ told)) text

variable {payload hasPriming}

theorem repaired_shape (exceeds : maxPayloadBytes < payloadByteSize payload) :
    ∃ text, TextCut payload.current.content text ∧
      truncatePayloadToLimit payload hasPriming =
        withContent (repaired payload hasPriming) text := by
  unfold truncatePayloadToLimit
  rw [if_neg (Int.not_le.mpr exceeds)]
  simp only
  split_ifs
  · obtain ⟨text, same, cut⟩ := current_cut (repaired payload hasPriming)
    exact ⟨text, cut, same⟩
  · exact ⟨payload.current.content, .inl rfl, rfl⟩

/-- The priming entries stay, the placeholder stands for the turns that were cut for their size,
and the newest turns follow in their order. -/
theorem truncated_shape (exceeds : maxPayloadBytes < payloadByteSize payload)
    (spoken : Turns payload.history) (primed : Primed payload hasPriming) :
    Shape payload hasPriming := by
  obtain ⟨text, cut, whole⟩ := @repaired_shape payload hasPriming exceeds
  have history := repaired_history spoken primed
  have count : keepFrom payload hasPriming ≤ (conversation payload hasPriming).length :=
    Nat.sub_le _ _
  have mark : marker payload hasPriming =
      if (conversation payload hasPriming).take (keepFrom payload hasPriming) = [] then []
      else [placeholderEntry payload] := by
    unfold marker
    by_cases none_ : keepFrom payload hasPriming = 0
    · rw [none_, List.take_zero]
      rfl
    · have cutTurns : (conversation payload hasPriming).take (keepFrom payload hasPriming) ≠ [] := by
        intro empty
        have size := congrArg List.length empty
        rw [List.length_take, Nat.min_eq_left count] at size
        exact none_ size
      rw [if_pos (Nat.pos_of_ne_zero none_), if_neg cutTurns]
  refine ⟨(conversation payload hasPriming).take (keepFrom payload hasPriming),
    ((conversation payload hasPriming).drop (keepFrom payload hasPriming)).takeWhile
      fun turn => turn.assistantResponseMessage.isSome,
    tail payload hasPriming, told payload hasPriming, ?_, ?_, ?_, ?_⟩
  · rw [tail, dropLeadingAssistant, List.takeWhile_append_dropWhile, List.take_append_drop]
  · intro turn member
    exact List.all_eq_true.mp List.all_takeWhile turn member
  · exact tail_said spoken
  · simp only
    rw [← mark]
    refine ⟨?_, ?_, text, cut, ?_⟩
    · exact told_cleaned spoken
    · intro uncut
      have unmarked : marker payload hasPriming = [] := by rw [mark, if_pos uncut]
      exact told_from_user spoken primed unmarked
    · rw [whole]
      have same : repaired payload hasPriming =
          withHistory payload (repaired payload hasPriming).history := rfl
      rw [same, history]
      rfl

end Shape

section Large

/-- A current message without media is not larger than its payload. -/
theorem current_text_covered (payload : SentPayload) (plain : payload.current.images = [])
    (bare : payload.current.documents = []) :
    (payload.current.content.length : Int) ≤ payloadByteSize payload := by
  have text := marshal_string_length payload.current.content
  have content := member_length (lit "content") (marshalString payload.current.content)
  have user : (marshalMember (lit "content") (marshalString payload.current.content)).length ≤
      (marshalUser payload.current).length := object_covers _ _ List.mem_cons_self
  have message := member_length (lit "userInputMessage") (marshalUser payload.current)
  have object := object_covers [marshalMember (lit "userInputMessage")
    (marshalUser payload.current)] _ List.mem_cons_self
  have current := member_length (lit "currentMessage")
    (marshalObject [marshalMember (lit "userInputMessage") (marshalUser payload.current)])
  have state := object_covers (stateMembers payload) (marshalMember (lit "currentMessage")
    (marshalObject [marshalMember (lit "userInputMessage") (marshalUser payload.current)]))
    (by simp [stateMembers])
  have conversation := member_length (lit "conversationState")
    (marshalObject (stateMembers payload))
  have whole : (marshalMember (lit "conversationState")
      (marshalObject (stateMembers payload))).length ≤
        (marshalPayload (withHistory payload [])).length := by
    apply object_covers
    have none_ : stateMembers payload ++ marshalHistory [] = stateMembers payload :=
      List.append_nil _
    change _ ∈ marshalMember (lit "conversationState")
      (marshalObject (stateMembers payload ++ marshalHistory [])) :: otherMembers payload
    rw [none_]
    exact List.mem_cons_self
  have media : inlineMediaBytes (some payload.current) = 0 := by
    simp [inlineMediaBytes, plain, bare]
  have alone : (payload.current.content.length : Int) ≤
      payloadByteSize (withHistory payload []) := by
    have same : (withHistory payload []).current = payload.current := rfl
    have empty : (withHistory payload []).history = [] := rfl
    rw [payloadByteSize, same, empty, media, List.map_nil, List.sum_nil]
    omega
  cases history : payload.history with
  | nil =>
      have same : withHistory payload [] = payload := by
        rw [← history]
        rfl
      rwa [same] at alone
  | cons entry entries =>
      have whole := payload_size_history payload (entry :: entries) (List.cons_ne_nil _ _)
      have same : withHistory payload (entry :: entries) = payload := by
        rw [← history]
        rfl
      have nonneg := Budget.total_nonneg historyEntryByteSize (entry :: entries)
        (fun entry _ => entry_size_nonneg entry)
      rw [← entries_total] at nonneg
      rw [same] at whole
      omega

/-- Where the current message fills the limit only the least number of turns is kept. -/
theorem large_text_keeps (payload : SentPayload) (hasPriming : Bool)
    (plain : payload.current.images = []) (bare : payload.current.documents = [])
    (large : maxPayloadBytes < payload.current.content.length) :
    keptTurns payload hasPriming =
      min minRecentHistoryTurns (conversation payload hasPriming).length := by
  have covered := current_text_covered
    (withHistory payload (priming payload hasPriming)) plain bare
  have mark := entry_size_nonneg (placeholderEntry payload)
  unfold keptTurns
  rw [Budget.only_least_kept, Nat.sub_zero, List.length_reverse]
  · intro entry _
    exact entry_size_nonneg entry
  · unfold baseSize
    change (payload.current.content.length : Int) ≤ _ at covered
    omega
  · exact Nat.zero_le _

end Large

section Broken

/-- The newest turns without a gap, from a user turn on; told again are the tool turns only. -/
def UnbrokenSuffix (payload : SentPayload) (hasPriming : Bool) : Prop :=
  ∃ older newest told, conversation payload hasPriming = older ++ newest ∧
    (truncatePayloadToLimit payload hasPriming).history = priming payload hasPriming ++
      (if older = [] then [] else [placeholderEntry payload]) ++ told ∧
    List.Forall₂ (fun turn told => toolUses turn = [] → toolResults turn = [] → told = turn)
      newest told ∧
    ∀ first ∈ newest.head?, first.userInputMessage.isSome = true

def pasted (content : GoString) (history : History) : SentPayload :=
  { oneTurn [] with current := userTurn content, history := history }

def said (content : GoString) : KiroHistoryMessage := ⟨some (userTurn content), none⟩

def answered (content : GoString) : KiroHistoryMessage := ⟨none, some ⟨content, []⟩⟩

/-- Two turns whose images were removed, behind the answer to a call. -/
def noted : History :=
  [said (lit "read it"), ⟨none, some ⟨lit "Reading.", [⟨lit "c1", lit "read", []⟩]⟩⟩,
    ⟨some { userTurn minimalFallbackUserContent with
      userInputMessageContext := some ⟨[], [⟨lit "c1", [⟨lit "out"⟩], lit "success"⟩]⟩ }, none⟩,
    said (omittedNote 1), said (omittedNote 1), answered (lit "Done.")]

/-- A conversation that the assistant begins, behind a system prompt. -/
def greeted : History :=
  TranslatedRequests.priming [] (lit "Be brief.") ++
    [answered (lit "Hello."), said (lit "Hello."), answered (lit "Yes?")]

def userText (turn : KiroHistoryMessage) : Option GoString :=
  turn.userInputMessage.map KiroUserInputMessage.content

theorem placeholder_text (payload : SentPayload) :
    userText (placeholderEntry payload) = some truncationPlaceholder := by
  unfold userText placeholderEntry
  simp only [Option.map_some]

section Pasted

variable (content : GoString) (large : maxPayloadBytes < content.length)

include large

theorem pasted_over (history : History) :
    maxPayloadBytes < payloadByteSize (pasted content history) := by
  have covered := current_text_covered (pasted content history) rfl rfl
  change (content.length : Int) ≤ _ at covered
  omega

theorem pasted_keeps (history : History) (hasPriming : Bool) :
    keptTurns (pasted content history) hasPriming =
      min minRecentHistoryTurns (conversation (pasted content history) hasPriming).length :=
  large_text_keeps (pasted content history) hasPriming rfl rfl large

theorem pasted_history (history : History) (hasPriming : Bool) :
    (truncatePayloadToLimit (pasted content history) hasPriming).history =
      ensureToolHistoryPaired (rebuilt (pasted content history) hasPriming) [] := by
  obtain ⟨text, -, whole⟩ := @repaired_shape (pasted content history) hasPriming (pasted_over content large history)
  rw [whole]
  rfl

theorem noted_texts : (truncatePayloadToLimit (pasted content noted) false).history.map userText =
    [some truncationPlaceholder, some (lit "Tool results:\n\nout"), some (omittedNote 1), none] := by
  have kept : keptTurns (pasted content noted) false = 4 := pasted_keeps content large noted false
  have cut : rebuilt (pasted content noted) false = said truncationPlaceholder :: noted.drop 2 := by
    unfold rebuilt keepFrom
    rw [kept]
    rfl
  rw [pasted_history content large, cut]
  decide +kernel

theorem greeted_texts : (truncatePayloadToLimit (pasted content greeted) true).history.map userText =
    [some (lit "Be brief."), none, some (lit "Hello."), none] := by
  have kept : keptTurns (pasted content greeted) true = 3 := pasted_keeps content large greeted true
  have cut : rebuilt (pasted content greeted) true = greeted.take 2 ++ greeted.drop 3 := by
    unfold rebuilt keepFrom
    rw [kept]
    rfl
  rw [pasted_history content large, cut]
  decide

/-- The first of the turns told would be the note, which is not what the first one says. -/
theorem noted_broken : ¬UnbrokenSuffix (pasted content noted) false := by
  rintro ⟨older, newest, told, split, same, kept, -⟩
  have texts := noted_texts content large
  have front : priming (pasted content noted) false = [] := rfl
  rw [same, front, List.nil_append, List.map_append] at texts
  have size := kept.length_eq
  have whole : noted = older ++ newest := split
  have long := congrArg List.length whole
  have count : noted.length = 6 := rfl
  rw [List.length_append, count] at long
  cases older with
  | nil =>
      have all := congrArg List.length texts
      rw [List.length_append, List.length_map, List.length_map] at all
      change 0 + told.length = 4 at all
      change 6 = 0 + newest.length at long
      omega
  | cons first older =>
      have said_ : told.map userText = [some (lit "Tool results:\n\nout"), some (omittedNote 1), none] :=
        (List.cons.inj texts).2
      have three := congrArg List.length said_
      rw [List.length_map] at three
      change told.length = 3 at three
      have place : (first :: older).length = 3 := by omega
      have last : newest = noted.drop 3 := by
        rw [whole, ← place, List.drop_left]
      rw [last] at kept
      cases kept with
      | cons head rest =>
          have note := head rfl rfl
          rw [note, List.map_cons] at said_
          exact absurd (List.cons.inj said_).1 (by decide)

/-- No placeholder stands for the greeting. -/
theorem greeted_broken : ¬UnbrokenSuffix (pasted content greeted) true := by
  rintro ⟨older, newest, told, split, same, kept, -⟩
  have texts := greeted_texts content large
  have front : priming (pasted content greeted) true = greeted.take 2 := rfl
  rw [same, front, List.append_assoc, List.map_append] at texts
  have rest : ((if older = [] then [] else [placeholderEntry (pasted content greeted)]) ++
      told).map userText = [some (lit "Hello."), none] :=
    (List.cons.inj (List.cons.inj texts).2).2
  rw [List.map_append] at rest
  have size := kept.length_eq
  have whole : greeted.drop 2 = older ++ newest := split
  have long := congrArg List.length whole
  have count : (greeted.drop 2).length = 3 := rfl
  rw [List.length_append, count] at long
  cases older with
  | nil =>
      have all := congrArg List.length rest
      rw [List.length_append, List.length_map, List.length_map] at all
      change 0 + told.length = 2 at all
      change 3 = 0 + newest.length at long
      omega
  | cons first older =>
      rw [if_neg (List.cons_ne_nil _ _), List.map_singleton, placeholder_text] at rest
      exact absurd (List.cons.inj rest).1 (by decide +kernel)

end Pasted

def paste : GoString := List.replicate 921601 0x61

theorem paste_large : maxPayloadBytes < paste.length := by
  have length : paste.length = 921601 := List.length_replicate
  rw [length]
  decide

/-- A second note is left out when the passes run again, and an assistant turn in front is
dropped though no placeholder stands for it. -/
theorem suffix_broken :
    ¬UnbrokenSuffix (pasted paste noted) false ∧ ¬UnbrokenSuffix (pasted paste greeted) true :=
  ⟨noted_broken paste paste_large, greeted_broken paste paste_large⟩

theorem greeted_primes : Primes greeted :=
  ⟨[], lit "Be brief.", greeted.drop 2, by decide, rfl⟩

/-- Both are told from their newest turns on. -/
theorem pasted_shapes : Shape (pasted paste noted) false ∧ Shape (pasted paste greeted) true := by
  have noted_turns : Turns noted := by decide
  have greeted_turns : Turns greeted := by decide
  constructor
  · exact truncated_shape (pasted_over paste paste_large noted) noted_turns
      fun primed => absurd primed Bool.noConfusion
  · exact truncated_shape (pasted_over paste paste_large greeted) greeted_turns
      fun _ => greeted_primes

end Broken

end KiroProxy.Truncation
