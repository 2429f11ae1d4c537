import KiroProxy.Proxy.KeptHistory

/-!
# Answered calls

Whatever the history before it, every call left by `sanitizeKiroHistoryForTools` has its
results in the turn right behind it, or is at the end and waits for the current message.
-/

namespace KiroProxy.ToolHistory

open KiroTypes
open ToolNames (NameMap)

set_option autoImplicit false

section Answered

variable (ids : List GoString)

theorem sanitized_sided (history : History) (keep : Nat → Bool) (sided : OneSided history) :
    OneSided (sanitizeKiroHistoryKeeping history ids keep) :=
  one_sided_sublist (sanitized_sublist history ids keep) (sanitize_turns_sided ids history keep sided)

/-- A history that passes the check: its calls are answered behind them, or wait at its end. -/
theorem paired_turns_exchanges (before turns : History) (sided : OneSided turns)
    (paired : (turns.zipIdx before.length).all (turnPaired (before ++ turns) ids
      (structuredToolPairs (before ++ turns) none)) = true)
    (current : List KiroToolResult) (exchange : Exchange)
    (member : exchange ∈ exchanges turns current) :
    toolPairMatches exchange.1 exchange.2 none = true ∨
      (ids ≠ [] ∧ ∃ last ∈ (before ++ turns).getLast?, exchange = (toolUses last, current)) := by
  induction turns generalizing before with
  | nil => simp [exchanges] at member
  | cons msg rest ih =>
      rw [List.zipIdx_cons, List.all_cons, Bool.and_eq_true] at paired
      have shifted : before ++ msg :: rest = (before ++ [msg]) ++ rest := by
        rw [List.append_assoc, List.singleton_append]
      have size : before.length + 1 = (before ++ [msg]).length := by
        rw [List.length_append, List.length_singleton]
      rw [exchanges, List.mem_append] at member
      cases member with
      | inr later =>
          rw [shifted]
          apply ih (before ++ [msg]) (fun other inside => sided other (List.mem_cons_of_mem _ inside))
            _ later
          rw [← shifted, ← size]
          exact paired.2
      | inl here =>
          split_ifs at here with plain
          · simp at here
          · rw [List.mem_singleton] at here
            have side : OneSidedTurn msg := sided msg List.mem_cons_self
            have unanswering : answering before none (msg :: rest) = false := by
              by_contra answers
              rw [Bool.not_eq_false, answering, Bool.and_eq_true, decide_eq_true_eq] at answers
              obtain ⟨earlier, call, place⟩ := List.eq_nil_or_concat before |>.resolve_left
                (List.ne_nil_of_length_pos answers.1)
              have answered := answers.2
              rw [place, List.concat_eq_append, List.append_assoc, List.length_append,
                List.length_singleton, Nat.add_sub_cancel, List.singleton_append,
                pair_at_front, Bool.and_eq_true] at answered
              exact plain (answered_results none call msg rest answered.2 side)
            have first := paired.1
            unfold turnPaired at first
            rw [pairs_at_front, unanswering, (has_uses_iff msg).mpr plain] at first
            simp only [Bool.or_false, Bool.true_and, Bool.and_eq_true, Bool.not_eq_true',
              Bool.and_eq_false_iff, Bool.not_eq_false', decide_eq_true_eq] at first
            cases first.1 with
            | inl answered =>
                left
                cases rest with
                | nil => exact absurd answered.2 Bool.false_ne_true
                | cons next rest =>
                    rw [here]
                    exact answered.2
            | inr waits =>
                right
                have none_left : rest = [] := by
                  have sizes := waits.2
                  rw [List.length_append, List.length_cons] at sizes
                  exact List.eq_nil_of_length_eq_zero (by omega)
                rw [none_left] at here waits ⊢
                have covered := covered_of_last_active _ waits.1 msg (by simp)
                exact ⟨covered.1, msg, by simp, here⟩

theorem exchanges_of_plain (turns : History) (plain : ∀ msg ∈ turns, toolUses msg = [])
    (current : List KiroToolResult) : exchanges turns current = [] := by
  induction turns with
  | nil => rfl
  | cons msg rest ih =>
      rw [exchanges_plain _ _ _ (plain msg List.mem_cons_self)]
      exact ih (fun other member => plain other (List.mem_cons_of_mem _ member))

/-- Where only a last turn has calls, what is left of the turns has only its exchange. -/
theorem exchanges_last_only (fewer before : History) (last : KiroHistoryMessage)
    (sub : fewer.Sublist (before ++ [last])) (plain : ∀ msg ∈ before, toolUses msg = [])
    (current : List KiroToolResult) (exchange : Exchange)
    (member : exchange ∈ exchanges fewer current) :
    exchange = (toolUses last, current) := by
  obtain ⟨front, back, split, inside, ending⟩ := List.sublist_append_iff.mp sub
  have silent : ∀ results, exchanges front results = [] :=
    exchanges_of_plain front (fun msg among => plain msg (inside.subset among))
  rw [List.sublist_singleton] at ending
  cases ending with
  | inl empty =>
      rw [split, empty, List.append_nil, silent] at member
      simp at member
  | inr whole =>
      rw [split, whole, exchanges_concat, silent, List.nil_append] at member
      rw [exchanges, List.mem_append] at member
      cases member with
      | inl here =>
          split_ifs at here with none
          · simp at here
          · exact List.mem_singleton.mp here
      | inr never => simp [exchanges] at never

theorem exchange_calls_ne_nil (turns : History) (current : List KiroToolResult)
    (exchange : Exchange) (member : exchange ∈ exchanges turns current) : exchange.1 ≠ [] := by
  induction turns with
  | nil => simp [exchanges] at member
  | cons msg rest ih =>
      rw [exchanges, List.mem_append] at member
      cases member with
      | inl here =>
          split_ifs at here with plain
          · simp at here
          · rw [List.mem_singleton.mp here]
            exact plain
      | inr later => exact ih later

theorem sanitize_turns_concat (before : History) (last : KiroHistoryMessage)
    (keep : Nat → Bool) :
    sanitizeTurns (before ++ [last]) ids keep =
      before.mapIdx (sanitizeTurn (historyToolNames (before ++ [last]))
          (activeIndex (before ++ [last]) ids) keep) ++
        [sanitizeTurn (historyToolNames (before ++ [last]))
          (activeIndex (before ++ [last]) ids) keep before.length last] := by
  rw [sanitizeTurns, List.mapIdx_append]
  simp

theorem active_index_concat (before : History) (last : KiroHistoryMessage) (index : Nat) :
    activeIndex (before ++ [last]) ids = some index ↔
      currentToolResultsMatchLastAssistant (before ++ [last]) ids = true ∧
        before.length = index := by
  unfold activeIndex
  rw [List.length_append, List.length_singleton, Nat.add_sub_cancel]
  split_ifs with active <;> simp [active]

/-- Narrated, a history keeps no calls but those the current message answers. -/
theorem narrated_exchanges (history : History) (current : List KiroToolResult)
    (exchange : Exchange)
    (member : exchange ∈ exchanges (sanitizeKiroHistory history ids) current) :
    ids ≠ [] ∧ ∃ last ∈ history.getLast?, exchange = (toolUses last, current) := by
  have calls := exchange_calls_ne_nil _ _ _ member
  have sub := sanitized_sublist history ids (fun _ => false)
  obtain empty | ⟨before, last, split⟩ := List.eq_nil_or_concat history
  · rw [empty] at member
    simp [sanitizeKiroHistory, sanitizeKiroHistoryKeeping, exchanges] at member
  · rw [List.concat_eq_append] at split
    rw [split] at member sub ⊢
    rw [sanitize_turns_concat] at sub
    have plain : ∀ msg ∈ before.mapIdx (sanitizeTurn (historyToolNames (before ++ [last]))
        (activeIndex (before ++ [last]) ids) (fun _ => false)), toolUses msg = [] := by
      intro msg inside
      obtain ⟨index, bound, same⟩ := List.getElem_of_mem inside
      rw [List.length_mapIdx] at bound
      rw [List.getElem_mapIdx] at same
      rw [← same, sanitize_turn_uses, if_neg]
      rw [Bool.or_false, decide_eq_true_eq, active_index_concat]
      intro here
      omega
    have only := exchanges_last_only _ _ _ sub plain current exchange member
    rw [only] at calls
    rw [sanitize_turn_uses] at only calls
    split_ifs at only calls with active
    · rw [Bool.or_false, decide_eq_true_eq, active_index_concat] at active
      have covered := covered_of_last_active _ active.1 last (by simp)
      exact ⟨covered.1, last, by simp, only⟩
    · exact absurd rfl calls

/-- The history ends in the assistant turn with these calls, or is all gone. -/
def EndsWith (uses : List KiroToolUse) (history : History) : Prop :=
  history = [] ∨ ∃ before last, history = before ++ [last] ∧ toolUses last = uses ∧
    last.userInputMessage = none

variable {ids} {uses : List KiroToolUse}

theorem ends_with_last (history : History) (ends : EndsWith uses history)
    (last : KiroHistoryMessage) (member : last ∈ history.getLast?) : toolUses last = uses := by
  cases ends with
  | inl empty => simp [empty] at member
  | inr whole =>
      obtain ⟨before, final, split, same, _⟩ := whole
      rw [split, List.getLast?_concat, Option.mem_def, Option.some.injEq] at member
      rw [← member]
      exact same

theorem clean_concat (first : Option KiroHistoryMessage) (before : History)
    (last : KiroHistoryMessage) (calls : toolUses last ≠ [])
    (assistant : last.userInputMessage = none) :
    cleanFrom first (before ++ [last]) = cleanFrom first before ++ [last] := by
  have stays : ∀ previous, (emptyAssistant last || repeatsUser previous last) = false := by
    intro previous
    by_contra dropped
    rw [Bool.not_eq_false] at dropped
    exact calls (dropped_plain previous last (Or.inl assistant) dropped).1
  induction before generalizing first with
  | nil => simp [cleanFrom, stays]
  | cons msg rest ih =>
      rw [List.cons_append, cleanFrom, cleanFrom]
      split_ifs
      · exact ih first
      · rw [ih (some msg), List.cons_append]

theorem sanitized_ends (history : History) (keep : Nat → Bool) (calls : uses ≠ [])
    (some_ : ids ≠ []) (covered : ∀ use ∈ uses, use.toolUseID ∈ ids)
    (ends : EndsWith uses history) :
    EndsWith uses (sanitizeKiroHistoryKeeping history ids keep) := by
  cases ends with
  | inl empty =>
      left
      rw [empty]
      rfl
  | inr whole =>
      obtain ⟨before, last, split, same, assistant⟩ := whole
      have active : activeIndex (before ++ [last]) ids = some before.length := by
        rw [active_index_concat]
        rw [← same] at calls covered
        exact ⟨last_active_of_covered before last calls some_ covered, rfl⟩
      let final := sanitizeTurn (historyToolNames (before ++ [last]))
        (activeIndex (before ++ [last]) ids) keep before.length last
      have finalUses : toolUses final = uses := by
        rw [sanitize_turn_uses, active]
        simp [same]
      have finalSide : final.userInputMessage = none := by
        simp only [final, sanitize_turn_marked]
        exact ((marked_sided _ _ _ _).1).mpr assistant
      have finalCalls : toolUses final ≠ [] := by
        rw [finalUses]
        exact calls
      have answers : final.assistantResponseMessage.isSome = true := by
        rw [Option.isSome_iff_ne_none]
        intro none
        exact finalCalls (uses_of_user final none)
      rw [split, sanitizeKiroHistoryKeeping, if_neg (by simp), sanitize_turns_concat,
        clean_concat none _ final finalCalls finalSide, trimLeadingAssistantHistory,
        List.dropWhile_append]
      split_ifs with gone
      · left
        simp [answers]
      · right
        exact ⟨_, final, rfl, finalUses, finalSide⟩

theorem paired_exchanges (history : History) (sided : OneSided history)
    (paired : toolHistoryPaired history ids (structuredToolPairs history none) = true)
    (current : List KiroToolResult) (exchange : Exchange)
    (member : exchange ∈ exchanges history current) :
    toolPairMatches exchange.1 exchange.2 none = true ∨
      (ids ≠ [] ∧ ∃ last ∈ history.getLast?, exchange = (toolUses last, current)) :=
  paired_turns_exchanges ids [] history sided paired current exchange member

/-- A history whose calls, at its end, wait for the results with these ids. -/
structure Waiting (ids : List GoString) (uses : List KiroToolUse) (history : History) :
    Prop where
  sided : OneSided history
  ends : ids ≠ [] → uses ≠ [] ∧ (∀ use ∈ uses, use.toolUseID ∈ ids) ∧ EndsWith uses history

theorem sanitized_waiting (history : History) (keep : Nat → Bool)
    (waiting : Waiting ids uses history) :
    Waiting ids uses (sanitizeKiroHistoryKeeping history ids keep) := by
  constructor
  · exact sanitized_sided ids history keep waiting.sided
  · intro some_
    obtain ⟨calls, covered, ends⟩ := waiting.ends some_
    exact ⟨calls, covered, sanitized_ends history keep calls some_ covered ends⟩

theorem waiting_exchange (history : History) (waiting : Waiting ids uses history)
    (current : List KiroToolResult) (exchange : Exchange)
    (last : ids ≠ [] ∧ ∃ last ∈ history.getLast?, exchange = (toolUses last, current)) :
    exchange = (uses, current) := by
  obtain ⟨some_, final, member, same⟩ := last
  rw [same, ends_with_last history (waiting.ends some_).2.2 final member]

theorem ensured_answered (attempts : Nat) (history : History)
    (waiting : Waiting ids uses history) (current : List KiroToolResult) (exchange : Exchange)
    (member : exchange ∈ exchanges (ensurePairedFrom ids attempts history) current) :
    toolPairMatches exchange.1 exchange.2 none = true ∨ exchange = (uses, current) := by
  induction attempts generalizing history with
  | zero =>
      rw [ensurePairedFrom] at member
      split_ifs at member with paired
      · apply (paired_exchanges history waiting.sided paired current exchange member).imp_right
        exact waiting_exchange history waiting current exchange
      · right
        apply waiting_exchange history waiting current exchange
        exact narrated_exchanges ids history current exchange member
  | succ attempts ih =>
      rw [ensurePairedFrom] at member
      split_ifs at member with paired
      · apply (paired_exchanges history waiting.sided paired current exchange member).imp_right
        exact waiting_exchange history waiting current exchange
      · exact ih _ (sanitized_waiting history _ waiting) member

/-- After the passes, calls are answered by the turn behind them; only those at the end of the
history wait for the current message. -/
theorem kept_answered (history : History) (declared : NameMap)
    (waiting : Waiting ids uses history) (current : List KiroToolResult) (exchange : Exchange)
    (member : exchange ∈ exchanges (keptToolHistory history ids declared) current) :
    toolPairMatches exchange.1 exchange.2 none = true ∨ exchange = (uses, current) := by
  unfold keptToolHistory at member
  split_ifs at member
  · right
    apply waiting_exchange history waiting current exchange
    exact narrated_exchanges ids history current exchange member
  · exact ensured_answered 3 _ (sanitized_waiting history _ waiting) current exchange member

end Answered

end KiroProxy.ToolHistory
