import KiroProxy.Proxy.ToolHistory
import Mathlib.Data.List.Flatten
import Mathlib.Data.List.Infix

/-!
# Structured calls of a sanitized history

A history sanitized for tools keeps a structured call only in its own turn: no call is
made up, moved or duplicated, and the renaming loop behind the passes changes names only.
-/

namespace KiroProxy.ToolHistory

open KiroTypes
open ToolNames (NameMap)

set_option autoImplicit false

def calls (history : History) : List KiroToolUse := history.flatMap toolUses

/-- The history before the renaming loop of `sanitizeKiroHistoryForTools`. -/
def keptToolHistory (history : History) (ids : List GoString) (declared : NameMap) : History :=
  if declared = [] then sanitizeKiroHistory history ids
  else
    ensureToolHistoryPaired
      (sanitizeKiroHistoryKeeping history ids (structuredToolPairs history (some declared))) ids

section Calls

def renameUse (declared : NameMap) (use : KiroToolUse) : KiroToolUse :=
  let kiroName := (declared.lookup use.name).getD []
  if kiroName ≠ [] then { use with name := kiroName } else use

theorem rename_uses_map (declared : NameMap) (assistant : KiroAssistantResponseMessage) :
    renameUses declared assistant =
      { assistant with toolUses := assistant.toolUses.map (renameUse declared) } := rfl

theorem rename_uses_same_iff (declared : NameMap) (uses : List KiroToolUse) :
    uses.map (renameUse declared) = uses ↔ ∀ use ∈ uses, renameUse declared use = use := by
  conv_lhs => rhs; rw [← List.map_id uses]
  rw [List.map_inj_left]
  rfl

theorem rename_turn_same_iff (declared : NameMap) (msg : KiroHistoryMessage) :
    renameTurn declared msg = msg ↔ ∀ use ∈ toolUses msg, renameUse declared use = use := by
  obtain ⟨user, assistant⟩ := msg
  unfold renameTurn toolUses
  cases assistant with
  | none => simp
  | some assistant =>
      obtain ⟨content, uses⟩ := assistant
      simp only [Option.map_some, rename_uses_map, KiroHistoryMessage.mk.injEq,
        Option.some.injEq, KiroAssistantResponseMessage.mk.injEq, true_and]
      exact rename_uses_same_iff declared uses

theorem rename_same_iff (declared : NameMap) (history : History) :
    history.map (renameTurn declared) = history ↔
      ∀ use ∈ calls history, renameUse declared use = use := by
  induction history with
  | nil => simp [calls]
  | cons msg history ih =>
      rw [List.map_cons, List.cons.injEq, ih, rename_turn_same_iff]
      unfold calls
      rw [List.flatMap_cons]
      simp only [List.mem_append, or_imp, forall_and]

theorem sanitize_for_tools_kept (history : History) (ids : List GoString)
    (declared : NameMap) :
    sanitizeKiroHistoryForTools history ids declared =
      (keptToolHistory history ids declared).map (renameTurn declared) := by
  unfold sanitizeKiroHistoryForTools keptToolHistory
  split_ifs with nothing
  · rw [nothing]
    apply Eq.symm
    rw [rename_same_iff]
    intro use _
    rfl
  · rfl

theorem has_uses_iff (msg : KiroHistoryMessage) :
    hasToolUses msg = true ↔ toolUses msg ≠ [] := by
  unfold hasToolUses toolUses
  cases msg.assistantResponseMessage with
  | none => simp
  | some assistant => simp

theorem no_uses_iff (msg : KiroHistoryMessage) :
    hasToolUses msg = false ↔ toolUses msg = [] := by
  rw [← Bool.not_eq_true, has_uses_iff, not_not]

theorem sanitize_turn_uses (toolNames : NameMap) (active : Option Nat) (keep : Nat → Bool)
    (index : Nat) (msg : KiroHistoryMessage) :
    toolUses (sanitizeTurn toolNames active keep index msg) =
      if decide (active = some index) || keep index then toolUses msg else [] := by
  unfold sanitizeTurn toolUses sanitizeAssistant
  simp only
  cases msg.assistantResponseMessage with
  | none =>
      simp only [Option.map_none, ite_self]
      split_ifs <;> rfl
  | some assistant =>
      simp only [Option.map_some]
      split_ifs <;> rfl

theorem flat_map_idx_sublist {Item Part : Type} (read : Item → List Part)
    (change : Nat → Item → Item)
    (fewer : ∀ index item, (read (change index item)).Sublist (read item)) (items : List Item) :
    ((items.mapIdx change).flatMap read).Sublist (items.flatMap read) := by
  induction items generalizing change with
  | nil => exact List.Sublist.refl _
  | cons item items ih =>
      rw [List.mapIdx_cons, List.flatMap_cons, List.flatMap_cons]
      apply List.Sublist.append (fewer 0 item)
      exact ih (fun index => change (index + 1)) (fun index => fewer (index + 1))

theorem clean_sublist (last : Option KiroHistoryMessage) (turns : History) :
    (cleanFrom last turns).Sublist turns := by
  induction turns generalizing last with
  | nil => exact List.Sublist.refl _
  | cons msg rest ih =>
      rw [cleanFrom]
      split_ifs
      · exact (ih last).cons msg
      · exact (ih (some msg)).cons_cons msg

theorem trim_sublist (turns : History) :
    (trimLeadingAssistantHistory turns).Sublist turns :=
  List.dropWhile_sublist _

theorem sanitized_sublist (history : History) (ids : List GoString) (keep : Nat → Bool) :
    (sanitizeKiroHistoryKeeping history ids keep).Sublist (sanitizeTurns history ids keep) := by
  unfold sanitizeKiroHistoryKeeping
  split_ifs with empty
  · rw [empty]
    exact List.nil_sublist _
  · exact (trim_sublist _).trans (clean_sublist none _)

theorem sanitized_calls (history : History) (ids : List GoString) (keep : Nat → Bool) :
    (calls (sanitizeKiroHistoryKeeping history ids keep)).Sublist (calls history) := by
  apply ((sanitized_sublist history ids keep).flatMap toolUses).trans
  apply flat_map_idx_sublist
  intro index msg
  rw [sanitize_turn_uses]
  split_ifs
  · exact List.Sublist.refl _
  · exact List.nil_sublist _

theorem paired_calls (ids : List GoString) (attempts : Nat) (history : History) :
    (calls (ensurePairedFrom ids attempts history)).Sublist (calls history) := by
  induction attempts generalizing history with
  | zero =>
      rw [ensurePairedFrom]
      split_ifs
      · exact List.Sublist.refl _
      · exact sanitized_calls history ids _
  | succ attempts ih =>
      rw [ensurePairedFrom]
      split_ifs
      · exact List.Sublist.refl _
      · exact (ih _).trans (sanitized_calls history ids _)

/-- Sanitizing only drops calls. -/
theorem kept_calls (history : History) (ids : List GoString) (declared : NameMap) :
    (calls (keptToolHistory history ids declared)).Sublist (calls history) := by
  unfold keptToolHistory
  split_ifs
  · exact sanitized_calls history ids _
  · exact (paired_calls ids 3 _).trans (sanitized_calls history ids _)

theorem rename_turn_uses (declared : NameMap) (msg : KiroHistoryMessage) :
    toolUses (renameTurn declared msg) = (toolUses msg).map (renameUse declared) := by
  unfold renameTurn toolUses
  cases msg.assistantResponseMessage with
  | none => rfl
  | some assistant => rfl

theorem renamed_calls (declared : NameMap) (history : History) :
    calls (history.map (renameTurn declared)) = (calls history).map (renameUse declared) := by
  unfold calls
  rw [List.flatMap_map, List.map_flatMap]
  simp only [rename_turn_uses]

end Calls

section Marks

/-! The passes mark turns by index. Read from the front, a mark depends on the turn, the one
after it and the mark before. -/

def sanitizeMarked (toolNames : NameMap) (active keep : Bool) (msg : KiroHistoryMessage) :
    KiroHistoryMessage :=
  sanitizeTurn toolNames (if active then some 0 else none) (fun _ => keep) 0 msg

theorem sanitize_turn_marked (toolNames : NameMap) (active : Option Nat) (keep : Nat → Bool)
    (index : Nat) (msg : KiroHistoryMessage) :
    sanitizeTurn toolNames active keep index msg =
      sanitizeMarked toolNames (decide (active = some index)) (keep index) msg := by
  unfold sanitizeMarked sanitizeTurn
  by_cases here : active = some index <;> simp [here]

theorem marked_user (toolNames : NameMap) (active keep : Bool)
    (user : KiroUserInputMessage) :
    sanitizeMarked toolNames active keep ⟨some user, none⟩ =
      ⟨some (sanitizeUser toolNames keep user), none⟩ := rfl

theorem marked_assistant (toolNames : NameMap) (active keep : Bool)
    (assistant : KiroAssistantResponseMessage) :
    sanitizeMarked toolNames active keep ⟨none, some assistant⟩ =
      ⟨none, some ⟨stripPollutedToolCallText assistant.content,
        if active || keep then assistant.toolUses else []⟩⟩ := by
  have stripped : (if assistant.content ≠ [] then stripPollutedToolCallText assistant.content
      else assistant.content) = stripPollutedToolCallText assistant.content := by
    split_ifs with some_
    · rfl
    · rw [not_not.mp some_]
      decide
  have kept : (decide ((if active then some 0 else none) = some 0) || keep) = (active || keep) := by
    cases active <;> rfl
  unfold sanitizeMarked sanitizeTurn
  simp only [Option.map_none, Option.map_some, sanitizeAssistant, stripped, kept, ite_self]

def answeredBy (declared : Option NameMap) (call : KiroHistoryMessage) (rest : History) : Bool :=
  match rest with
  | [] => false
  | answer :: _ => toolPairMatches (toolUses call) (toolResults answer) declared

theorem pair_matches_uses (uses : List KiroToolUse) (results : List KiroToolResult)
    (declared : Option NameMap) (matched : toolPairMatches uses results declared = true) :
    uses ≠ [] ∧ results ≠ [] := by
  unfold toolPairMatches at matched
  split_ifs at matched with shape
  rw [Bool.or_eq_true, decide_eq_true_eq, decide_eq_true_eq, not_or, not_not] at shape
  refine ⟨shape.1, ?_⟩
  intro empty
  rw [empty] at shape
  exact shape.1 (List.eq_nil_of_length_eq_zero shape.2)

theorem results_ne_nil (msg : KiroHistoryMessage) (found : toolResults msg ≠ []) :
    ∃ user context, msg.userInputMessage = some user ∧
      user.userInputMessageContext = some context ∧ toolResults msg = context.toolResults := by
  obtain ⟨turn, assistant⟩ := msg
  cases turn with
  | none => exact absurd rfl found
  | some user =>
      cases present : user.userInputMessageContext with
      | none => simp [toolResults, present] at found
      | some context => exact ⟨user, context, rfl, present, by simp [toolResults, present]⟩

theorem pair_at_front (before : History) (declared : Option NameMap)
    (msg : KiroHistoryMessage) (rest : History) :
    pairAt (before ++ msg :: rest) declared before.length =
      (decide (0 < before.length) && answeredBy declared msg rest) := by
  unfold pairAt answeredBy
  rw [List.getElem?_append_right (Nat.le_refl _), List.getElem?_append_right (by omega)]
  simp only [Nat.sub_self, Nat.add_sub_cancel_left, List.getElem?_cons_zero,
    List.getElem?_cons_succ]
  cases rest with
  | nil => simp
  | cons answer rest =>
      simp only [List.getElem?_cons_zero]
      cases matched : toolPairMatches (toolUses msg) (toolResults answer) declared with
      | false => cases answer.userInputMessage <;> simp
      | true =>
          have found := pair_matches_uses _ _ declared matched
          obtain ⟨user, context, turn, present, _⟩ := results_ne_nil answer found.2
          simp [turn, present, (has_uses_iff msg).mpr found.1]

/-- Whether a turn answers the one before it. -/
def answering (before : History) (declared : Option NameMap) (rest : History) : Bool :=
  decide (0 < before.length) && pairAt (before ++ rest) declared (before.length - 1)

theorem answering_concat (before : History) (declared : Option NameMap)
    (msg : KiroHistoryMessage) (rest : History) :
    answering (before ++ [msg]) declared rest =
      (decide (0 < before.length) && answeredBy declared msg rest) := by
  unfold answering
  rw [List.append_assoc, List.singleton_append, List.length_append, List.length_singleton,
    Nat.add_sub_cancel, pair_at_front]
  simp

theorem pairs_at_front (before : History) (declared : Option NameMap)
    (msg : KiroHistoryMessage) (rest : History) :
    structuredToolPairs (before ++ msg :: rest) declared before.length =
      ((decide (0 < before.length) && answeredBy declared msg rest) ||
        answering before declared (msg :: rest)) := by
  unfold structuredToolPairs answering
  rw [pair_at_front]

def sanitizeFrom (toolNames : NameMap) (declared : Option NameMap) (lastActive : Bool) :
    Bool → Bool → History → History
  | _, _, [] => []
  | started, answers, msg :: rest =>
      let pairs := started && answeredBy declared msg rest
      sanitizeMarked toolNames (lastActive && rest.isEmpty) (pairs || answers) msg ::
        sanitizeFrom toolNames declared lastActive true pairs rest

theorem sanitize_from_front (toolNames : NameMap) (declared : Option NameMap)
    (lastActive : Bool) (before turns : History) :
    turns.mapIdx (fun index => sanitizeTurn toolNames
        (if lastActive then some ((before ++ turns).length - 1) else none)
        (structuredToolPairs (before ++ turns) declared) (before.length + index)) =
      sanitizeFrom toolNames declared lastActive (decide (0 < before.length))
        (answering before declared turns) turns := by
  induction turns generalizing before with
  | nil => rfl
  | cons msg rest ih =>
      have later := ih (before ++ [msg])
      rw [answering_concat] at later
      simp only [List.append_assoc, List.singleton_append, List.length_append,
        List.length_singleton, Nat.succ_pos, decide_true] at later
      rw [List.mapIdx_cons, sanitizeFrom, sanitize_turn_marked, Nat.add_zero, pairs_at_front]
      have last : decide ((if lastActive = true then some ((before ++ msg :: rest).length - 1)
          else none) = some before.length) = (lastActive && rest.isEmpty) := by
        cases lastActive with
        | false => simp
        | true =>
            cases rest with
            | nil => simp
            | cons next rest =>
                simp
      rw [last, List.cons.injEq]
      refine ⟨rfl, ?_⟩
      rw [← later]
      apply List.ext_getElem?
      intro index
      simp only [List.getElem?_mapIdx, List.length_append, List.length_cons]
      have shift : before.length + (index + 1) = before.length + 1 + index := by omega
      rw [shift]

/-- The marks of `structuredToolPairs`, read from the front. -/
theorem sanitize_turns_from (history : History) (ids : List GoString)
    (declared : Option NameMap) :
    sanitizeTurns history ids (structuredToolPairs history declared) =
      sanitizeFrom (historyToolNames history) declared
        (currentToolResultsMatchLastAssistant history ids) false false history := by
  have front := sanitize_from_front (historyToolNames history) declared
    (currentToolResultsMatchLastAssistant history ids) [] history
  unfold sanitizeTurns activeIndex
  simpa [answering] using front

end Marks

section Exchanges

def OneSidedTurn (msg : KiroHistoryMessage) : Prop :=
  msg.userInputMessage = none ∨ msg.assistantResponseMessage = none

/-- Every message is the turn of one side. -/
def OneSided (history : History) : Prop := ∀ msg ∈ history, OneSidedTurn msg

def StartsWithUser (history : History) : Prop :=
  ∀ msg ∈ history.head?, msg.assistantResponseMessage = none

/-- The results right after a turn; those of the current message follow the last one. -/
def answersOf (rest : History) (current : List KiroToolResult) : List KiroToolResult :=
  match rest with
  | [] => current
  | answer :: _ => toolResults answer

abbrev Exchange := List KiroToolUse × List KiroToolResult

/-- The calls of each assistant turn with the results right after it. -/
def exchanges : History → List KiroToolResult → List Exchange
  | [], _ => []
  | msg :: rest, current =>
      (if toolUses msg = [] then [] else [(toolUses msg, answersOf rest current)]) ++
        exchanges rest current

theorem exchanges_plain (msg : KiroHistoryMessage) (rest : History)
    (current : List KiroToolResult) (plain : toolUses msg = []) :
    exchanges (msg :: rest) current = exchanges rest current := by
  rw [exchanges, if_pos plain, List.nil_append]

theorem exchanges_call (msg : KiroHistoryMessage) (rest : History)
    (current : List KiroToolResult) (call : toolUses msg ≠ []) :
    exchanges (msg :: rest) current =
      (toolUses msg, answersOf rest current) :: exchanges rest current := by
  rw [exchanges, if_neg call, List.singleton_append]

theorem exchanges_concat (before : History) (last : KiroHistoryMessage)
    (current : List KiroToolResult) :
    exchanges (before ++ [last]) current =
      exchanges before (toolResults last) ++ exchanges [last] current := by
  induction before with
  | nil => rfl
  | cons msg before ih =>
      have next : answersOf (before ++ [last]) current = answersOf before (toolResults last) := by
        cases before <;> rfl
      rw [List.cons_append, exchanges, exchanges, ih, next, List.append_assoc]

theorem exchange_calls (history : History) (current : List KiroToolResult)
    (exchange : Exchange) (member : exchange ∈ exchanges history current) :
    exchange.1.Sublist (calls history) := by
  induction history with
  | nil => simp [exchanges] at member
  | cons msg rest ih =>
      have split : calls (msg :: rest) = toolUses msg ++ calls rest := rfl
      rw [split]
      rw [exchanges, List.mem_append] at member
      cases member with
      | inl here =>
          split_ifs at here
          · simp at here
          · rw [List.mem_singleton.mp here]
            exact List.sublist_append_left _ _
      | inr later => exact (ih later).trans (List.sublist_append_right _ _)

theorem uses_of_user (msg : KiroHistoryMessage) (user : msg.assistantResponseMessage = none) :
    toolUses msg = [] := by
  unfold toolUses
  rw [user]

theorem results_of_assistant (msg : KiroHistoryMessage) (assistant : msg.userInputMessage = none) :
    toolResults msg = [] := by
  unfold toolResults
  rw [assistant]

theorem one_sided_results (msg : KiroHistoryMessage) (sided : OneSidedTurn msg)
    (call : toolUses msg ≠ []) : toolResults msg = [] := by
  cases sided with
  | inl assistant => exact results_of_assistant msg assistant
  | inr user => exact absurd (uses_of_user msg user) call

theorem marked_uses (toolNames : NameMap) (active keep : Bool) (msg : KiroHistoryMessage) :
    toolUses (sanitizeMarked toolNames active keep msg) =
      if active || keep then toolUses msg else [] := by
  rw [sanitizeMarked, sanitize_turn_uses]
  cases active <;> simp

theorem sanitized_user_results (toolNames : NameMap) (keep : Bool)
    (user : KiroUserInputMessage) :
    toolResults ⟨some (sanitizeUser toolNames keep user), none⟩ =
      if keep then toolResults ⟨some user, none⟩ else [] := by
  have context : (sanitizeUser toolNames keep user).userInputMessageContext =
      user.userInputMessageContext.bind fun context =>
        (narrateContext toolNames keep user context).userInputMessageContext := by
    unfold sanitizeUser
    simp only [apply_ite KiroUserInputMessage.userInputMessageContext, ite_self]
    cases present : user.userInputMessageContext with
    | none => exact present
    | some context => rfl
  unfold toolResults
  simp only [context]
  cases user.userInputMessageContext with
  | none => simp
  | some context =>
      obtain ⟨tools, results⟩ := context
      unfold narrateContext
      cases results with
      | nil => simp
      | cons result results => cases keep <;> simp

theorem marked_results (toolNames : NameMap) (active keep : Bool) (msg : KiroHistoryMessage)
    (sided : OneSidedTurn msg) :
    toolResults (sanitizeMarked toolNames active keep msg) =
      if keep then toolResults msg else [] := by
  obtain ⟨user, assistant⟩ := msg
  cases sided with
  | inl none =>
      simp only at none
      subst none
      have nothing : toolResults (sanitizeMarked toolNames active keep ⟨none, assistant⟩) =
          [] := by
        apply results_of_assistant
        unfold sanitizeMarked sanitizeTurn
        simp only [Option.map_none]
        split_ifs <;> rfl
      rw [nothing, results_of_assistant _ rfl, ite_self]
  | inr none =>
      simp only at none
      subst none
      cases user with
      | none => cases keep <;> rfl
      | some user => exact sanitized_user_results toolNames keep user

theorem marked_sided (toolNames : NameMap) (active keep : Bool) (msg : KiroHistoryMessage) :
    ((sanitizeMarked toolNames active keep msg).userInputMessage = none ↔
        msg.userInputMessage = none) ∧
      ((sanitizeMarked toolNames active keep msg).assistantResponseMessage = none ↔
        msg.assistantResponseMessage = none) := by
  unfold sanitizeMarked sanitizeTurn
  simp only
  split_ifs <;> simp

end Exchanges

end KiroProxy.ToolHistory
