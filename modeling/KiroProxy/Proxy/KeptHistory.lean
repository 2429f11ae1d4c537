import KiroProxy.Proxy.HistoryCalls

/-!
# What stays structured

In a history of one-sided turns that a user starts, the first pass of
`sanitizeKiroHistoryForTools` leaves a history whose calls and results stand in pairs,
and the repairs behind it change nothing: no answered call is narrated.
-/

namespace KiroProxy.ToolHistory

open KiroTypes
open ToolNames (NameMap)

set_option autoImplicit false

section Structure

variable (ids : List GoString)

def pendingCalls (msg : KiroHistoryMessage) : Option (List KiroToolUse) :=
  if toolUses msg = [] then none else some (toolUses msg)

/-- A history read from the front: results stand only right after the calls they answer, and
calls at the end wait for the results of the current message. -/
def Structured : Option (List KiroToolUse) → History → Prop
  | none, [] => True
  | some uses, [] => ids ≠ [] ∧ ∀ use ∈ uses, use.toolUseID ∈ ids
  | none, msg :: rest => toolResults msg = [] ∧ Structured (pendingCalls msg) rest
  | some uses, msg :: rest =>
      toolPairMatches uses (toolResults msg) none = true ∧ toolUses msg = [] ∧
        Structured none rest

theorem distinct_ids_undeclared (declared : Option NameMap) (seen found : List GoString)
    (uses : List KiroToolUse) (distinct : distinctIDs declared seen uses = some found) :
    distinctIDs none seen uses = some found := by
  cases declared with
  | none => exact distinct
  | some declared =>
      induction uses generalizing seen with
      | nil => exact distinct
      | cons use uses ih =>
          simp only [distinctIDs] at distinct ⊢
          split_ifs at distinct ⊢ with unusable unnamed
          exact ih _ distinct

theorem pair_matches_undeclared (declared : Option NameMap) (uses : List KiroToolUse)
    (results : List KiroToolResult) (matched : toolPairMatches uses results declared = true) :
    toolPairMatches uses results none = true := by
  unfold toolPairMatches at matched ⊢
  split_ifs at matched ⊢
  cases distinct : distinctIDs declared [] uses with
  | none => simp [distinct] at matched
  | some found =>
      rw [distinct] at matched
      rw [distinct_ids_undeclared declared [] found uses distinct]
      exact matched

variable {ids}

theorem structured_calls (msg : KiroHistoryMessage) (rest : History)
    (calls : toolUses msg ≠ []) (results : toolResults msg = [])
    (later : Structured ids (some (toolUses msg)) rest) : Structured ids none (msg :: rest) := by
  rw [Structured, pendingCalls, if_neg calls]
  exact ⟨results, later⟩

theorem structured_plain (msg : KiroHistoryMessage) (rest : History)
    (plain : toolUses msg = []) (results : toolResults msg = [])
    (later : Structured ids none rest) : Structured ids none (msg :: rest) := by
  rw [Structured, pendingCalls, if_pos plain]
  exact ⟨results, later⟩

theorem answered_results (declared : Option NameMap) (call msg : KiroHistoryMessage)
    (rest : History) (answered : answeredBy declared call (msg :: rest) = true)
    (sided : OneSidedTurn msg) : toolUses msg = [] := by
  have found := (pair_matches_uses _ _ declared answered).2
  by_contra calls
  exact found (one_sided_results msg sided calls)

/-- A turn whose calls have no match keeps them only as the active last turn. -/
theorem unmatched_structured (toolNames : NameMap) (declared : Option NameMap) (lastActive : Bool)
    (msg : KiroHistoryMessage) (rest : History) (sided : OneSidedTurn msg)
    (covered : lastActive = true → ∀ last ∈ (msg :: rest).getLast?,
      ids ≠ [] ∧ ∀ use ∈ toolUses last, use.toolUseID ∈ ids)
    (later : Structured ids none
      (sanitizeFrom toolNames declared lastActive true false rest)) :
    Structured ids none (sanitizeMarked toolNames (lastActive && rest.isEmpty) false msg ::
      sanitizeFrom toolNames declared lastActive true false rest) := by
  have marked := marked_uses toolNames (lastActive && rest.isEmpty) false msg
  have silent : toolResults (sanitizeMarked toolNames (lastActive && rest.isEmpty)
      false msg) = [] := by
    rw [marked_results _ _ _ _ sided]
    rfl
  by_cases none : toolUses (sanitizeMarked toolNames (lastActive && rest.isEmpty) false msg) = []
  · exact structured_plain _ _ none silent later
  · apply structured_calls _ _ none silent
    rw [Bool.or_false] at marked
    split_ifs at marked with active
    · rw [Bool.and_eq_true, List.isEmpty_iff] at active
      rw [marked, active.2, sanitizeFrom, Structured]
      apply covered active.1
      rw [active.2]
      rfl
    · exact absurd marked none

/-- What the first pass makes of the turns behind a first one. -/
theorem structured_from (toolNames : NameMap) (declared : Option NameMap) (lastActive : Bool) (turns : History)
    (sided : OneSided turns)
    (covered : lastActive = true → ∀ last ∈ turns.getLast?,
      ids ≠ [] ∧ ∀ use ∈ toolUses last, use.toolUseID ∈ ids) :
    Structured ids none
        (sanitizeFrom toolNames declared lastActive true false turns) ∧
      ∀ call, answeredBy declared call turns = true →
        Structured ids (some (toolUses call))
          (sanitizeFrom toolNames declared lastActive true true turns) := by
  induction turns with
  | nil =>
      constructor
      · trivial
      · intro call answered
        exact absurd answered Bool.false_ne_true
  | cons msg rest ih =>
      have here : OneSidedTurn msg := sided msg List.mem_cons_self
      have later := ih (fun other member => sided other (List.mem_cons_of_mem _ member))
        (by
          intro active last member
          apply covered active last
          cases rest with
          | nil => simp at member
          | cons next rest => rwa [List.getLast?_cons_cons])
      constructor
      · rw [sanitizeFrom]
        simp only [Bool.true_and, Bool.or_false]
        cases pairs : answeredBy declared msg rest with
        | true =>
            have uses : toolUses msg ≠ [] := by
              cases rest with
              | nil => exact absurd pairs Bool.false_ne_true
              | cons next rest => exact (pair_matches_uses _ _ _ pairs).1
            have marked := marked_uses toolNames (lastActive && rest.isEmpty) true msg
            rw [Bool.or_true, if_pos rfl] at marked
            apply structured_calls
            · rw [marked]
              exact uses
            · rw [marked_results _ _ _ _ here, if_pos rfl]
              exact one_sided_results msg here uses
            · rw [marked]
              exact later.2 msg pairs
        | false =>
            exact unmatched_structured toolNames declared lastActive msg rest here covered
              later.1
      · intro call answered
        have plain := answered_results declared call msg rest answered here
        have unpaired : answeredBy declared msg rest = false := by
          cases rest with
          | nil => rfl
          | cons next rest =>
              by_contra pairs
              rw [Bool.not_eq_false] at pairs
              exact (pair_matches_uses _ _ _ pairs).1 plain
        rw [sanitizeFrom]
        simp only [Bool.true_and, unpaired, Bool.false_or]
        refine ⟨?_, ?_, later.1⟩
        · rw [marked_results _ _ _ _ here, if_pos rfl]
          exact pair_matches_undeclared declared _ _ answered
        · rw [marked_uses, plain, ite_self]

/-- The exchanges that match under declared names stay, behind a first turn. -/
theorem exchanges_from (toolNames declared : NameMap) (lastActive answers : Bool)
    (before : History) (last : KiroHistoryMessage) (sided : OneSided (before ++ [last]))
    (current : List KiroToolResult) :
    ((exchanges before (toolResults last)).filter fun exchange =>
        toolPairMatches exchange.1 exchange.2 (some declared)).Sublist
      (exchanges (sanitizeFrom toolNames (some declared) lastActive true answers
        (before ++ [last])) current) := by
  induction before generalizing answers with
  | nil => exact List.nil_sublist _
  | cons msg before ih =>
      have later := ih (answeredBy (some declared) msg (before ++ [last]))
        (fun other member => sided other (List.mem_cons_of_mem _ member))
      rw [List.cons_append, sanitizeFrom, Bool.true_and]
      by_cases plain : toolUses msg = []
      · rw [exchanges_plain msg before _ plain, exchanges_plain]
        · exact later
        · rw [marked_uses, plain, ite_self]
      · rw [exchanges_call msg before _ plain, List.filter_cons]
        have next : answeredBy (some declared) msg (before ++ [last]) =
            toolPairMatches (toolUses msg) (answersOf before (toolResults last))
              (some declared) := by
          cases before <;> rfl
        cases pairs : answeredBy (some declared) msg (before ++ [last]) with
        | false =>
            rw [pairs] at later next
            rw [← next, if_neg Bool.false_ne_true]
            exact later.trans (List.sublist_append_right _ _)
        | true =>
            rw [pairs] at later next
            have marked := marked_uses toolNames
              (lastActive && (before ++ [last]).isEmpty) (true || answers) msg
            rw [Bool.true_or, Bool.or_true, if_pos rfl] at marked
            rw [← next, if_pos rfl, Bool.true_or, exchanges_call _ _ _ (by rw [marked]; exact plain),
              marked]
            -- The answering turn keeps its results.
            have kept : answersOf (sanitizeFrom toolNames (some declared) lastActive true true
                (before ++ [last])) current = answersOf before (toolResults last) := by
              cases before with
              | nil =>
                  have side := sided last (by simp)
                  simp only [List.nil_append, sanitizeFrom, answersOf, Bool.or_true]
                  rw [marked_results _ _ _ _ side, if_pos rfl]
              | cons answer before =>
                  have side := sided answer (by simp)
                  simp only [List.cons_append, sanitizeFrom, answersOf, Bool.or_true]
                  rw [marked_results _ _ _ _ side, if_pos rfl]
            rw [kept]
            exact later.cons_cons _

theorem empty_assistant_plain (msg : KiroHistoryMessage) (empty : emptyAssistant msg = true) :
    toolUses msg = [] ∧ msg.assistantResponseMessage ≠ none := by
  unfold emptyAssistant at empty
  unfold toolUses
  cases answer : msg.assistantResponseMessage with
  | none => simp [answer] at empty
  | some assistant =>
      simp only [answer, Bool.and_eq_true, List.isEmpty_iff] at empty
      exact ⟨empty.1, by simp⟩

theorem repeats_user_plain (last : Option KiroHistoryMessage) (msg : KiroHistoryMessage)
    (repeats : repeatsUser last msg = true) :
    toolResults msg = [] ∧ msg.userInputMessage ≠ none := by
  unfold repeatsUser at repeats
  cases user : msg.userInputMessage with
  | none => simp [user] at repeats
  | some current =>
      cases previous : last.bind KiroHistoryMessage.userInputMessage with
      | none => simp [user, previous] at repeats
      | some earlier =>
          have silent : hasToolResults current = false := by
            simp only [user, previous, Bool.and_eq_true, Bool.not_eq_true'] at repeats
            exact repeats.1.1.1
          refine ⟨?_, by simp⟩
          unfold hasToolResults at silent
          unfold toolResults
          cases present : current.userInputMessageContext with
          | none => simp [user, present]
          | some context => simpa [user, present] using silent

/-- The cleaning drops no turn with calls or results. -/
theorem dropped_plain (last : Option KiroHistoryMessage) (msg : KiroHistoryMessage)
    (sided : OneSidedTurn msg)
    (dropped : (emptyAssistant msg || repeatsUser last msg) = true) :
    toolUses msg = [] ∧ toolResults msg = [] := by
  rw [Bool.or_eq_true] at dropped
  cases dropped with
  | inl empty =>
      have plain := empty_assistant_plain msg empty
      exact ⟨plain.1, results_of_assistant msg (sided.resolve_right plain.2)⟩
  | inr repeats =>
      have plain := repeats_user_plain last msg repeats
      exact ⟨uses_of_user msg (sided.resolve_left plain.2), plain.1⟩

theorem clean_structured (last : Option KiroHistoryMessage)
    (pending : Option (List KiroToolUse)) (turns : History) (sided : OneSided turns)
    (structured : Structured ids pending turns) :
    Structured ids pending (cleanFrom last turns) ∧
      ∀ current, exchanges (cleanFrom last turns) current = exchanges turns current ∧
        (pending ≠ none → answersOf (cleanFrom last turns) current = answersOf turns current) := by
  induction turns generalizing last pending with
  | nil => exact ⟨structured, fun current => ⟨rfl, fun _ => rfl⟩⟩
  | cons msg rest ih =>
      have here : OneSidedTurn msg := sided msg List.mem_cons_self
      have others : OneSided rest := fun other member => sided other (List.mem_cons_of_mem _ member)
      rw [cleanFrom]
      cases pending with
      | none =>
          split_ifs with dropped
          · have plain := dropped_plain last msg here dropped
            have rests : Structured ids none rest := by
              have later := structured.2
              rwa [pendingCalls, if_pos plain.1] at later
            have cleaned := ih last none others rests
            refine ⟨cleaned.1, ?_⟩
            intro current
            rw [exchanges_plain msg rest current plain.1]
            exact ⟨(cleaned.2 current).1, fun open_ => absurd rfl open_⟩
          · have cleaned := ih (some msg) (pendingCalls msg) others structured.2
            refine ⟨⟨structured.1, cleaned.1⟩, ?_⟩
            intro current
            refine ⟨?_, fun open_ => absurd rfl open_⟩
            by_cases plain : toolUses msg = []
            · rw [exchanges_plain _ _ _ plain, exchanges_plain _ _ _ plain]
              exact (cleaned.2 current).1
            · have waiting : pendingCalls msg ≠ none := by
                rw [pendingCalls, if_neg plain]
                simp
              rw [exchanges_call _ _ _ plain, exchanges_call _ _ _ plain,
                (cleaned.2 current).1, (cleaned.2 current).2 waiting]
      | some uses =>
          have results := (pair_matches_uses _ _ _ structured.1).2
          split_ifs with dropped
          · exact absurd (dropped_plain last msg here dropped).2 results
          · have cleaned := ih (some msg) none others structured.2.2
            refine ⟨⟨structured.1, structured.2.1, cleaned.1⟩, ?_⟩
            intro current
            rw [exchanges_plain _ _ _ structured.2.1, exchanges_plain _ _ _ structured.2.1]
            exact ⟨(cleaned.2 current).1, fun _ => rfl⟩

end Structure

section Kept

variable {ids : List GoString}

/-- What `toolHistoryPaired` asks of one turn. -/
def turnPaired (history : History) (ids : List GoString) (pairs : Nat → Bool)
    (entry : KiroHistoryMessage × Nat) : Bool :=
  !(hasToolUses entry.1 && !pairs entry.2 &&
      !(currentToolResultsMatchLastAssistant history ids && entry.2 + 1 = history.length)) &&
    !(!(toolResults entry.1).isEmpty && !pairs entry.2)

theorem tool_history_paired_turns (history : History) (ids : List GoString)
    (pairs : Nat → Bool) :
    toolHistoryPaired history ids pairs = history.zipIdx.all (turnPaired history ids pairs) := rfl

/-- Where the front of a structured history stands: behind a first turn, and right behind the
calls that are pending. -/
def Front (before : History) : Option (List KiroToolUse) → Prop
  | none => 0 < before.length
  | some uses =>
      ∃ earlier call, before = earlier ++ [call] ∧ 0 < earlier.length ∧
        toolUses call ≠ [] ∧ toolUses call = uses

theorem last_active_of_covered (before : History) (call : KiroHistoryMessage)
    (calls : toolUses call ≠ []) (some_ : ids ≠ [])
    (covered : ∀ use ∈ toolUses call, use.toolUseID ∈ ids) :
    currentToolResultsMatchLastAssistant (before ++ [call]) ids = true := by
  unfold currentToolResultsMatchLastAssistant
  rw [if_neg some_, List.getLast?_concat]
  simp only [(has_uses_iff call).mpr calls, Bool.true_and, List.all_eq_true]
  intro use member
  exact List.contains_iff_mem.mpr (covered use member)

theorem structured_turns_paired (before turns : History) (pending : Option (List KiroToolUse))
    (front : Front before pending) (structured : Structured ids pending turns) :
    (turns.zipIdx before.length).all
      (turnPaired (before ++ turns) ids (structuredToolPairs (before ++ turns) none)) = true := by
  induction turns generalizing before pending with
  | nil => rfl
  | cons msg rest ih =>
      rw [List.zipIdx_cons, List.all_cons, Bool.and_eq_true]
      have shifted : before ++ msg :: rest = (before ++ [msg]) ++ rest := by
        rw [List.append_assoc, List.singleton_append]
      have size : before.length + 1 = (before ++ [msg]).length := by
        rw [List.length_append, List.length_singleton]
      have marks := pairs_at_front before none msg rest
      cases pending with
      | none =>
          obtain ⟨silent, later⟩ := structured
          have started : 0 < before.length := front
          constructor
          · unfold turnPaired
            simp only [silent, List.isEmpty_nil, Bool.not_true, Bool.false_and, Bool.not_false,
              Bool.and_true]
            by_cases plain : toolUses msg = []
            · rw [(no_uses_iff msg).mpr plain]
              rfl
            · rw [pendingCalls, if_neg plain] at later
              cases rest with
              | nil =>
                  rw [last_active_of_covered before msg plain later.1 later.2]
                  simp
              | cons next rest =>
                  have answered : answeredBy none msg (next :: rest) = true := later.1
                  rw [marks, answered, decide_eq_true started]
                  simp
          · rw [shifted, size]
            apply ih (before ++ [msg]) (pendingCalls msg) _ later
            unfold pendingCalls
            split_ifs with plain
            · rw [Front, ← size]
              exact Nat.succ_pos _
            · exact ⟨before, msg, rfl, started, plain, rfl⟩
      | some uses =>
          obtain ⟨earlier, call, place, started, _, same⟩ := front
          obtain ⟨matched, plain, later⟩ := structured
          constructor
          · have answers : answering before none (msg :: rest) = true := by
              rw [place, answering_concat, decide_eq_true started, Bool.true_and, answeredBy,
                same]
              exact matched
            unfold turnPaired
            rw [(no_uses_iff msg).mpr plain, marks, answers]
            simp
          · rw [shifted, size]
            apply ih (before ++ [msg]) none _ later
            rw [Front, ← size]
            exact Nat.succ_pos _

theorem structured_paired (first : KiroHistoryMessage) (rest : History)
    (user : first.assistantResponseMessage = none)
    (structured : Structured ids none (first :: rest)) :
    toolHistoryPaired (first :: rest) ids (structuredToolPairs (first :: rest) none) = true := by
  obtain ⟨silent, later⟩ := structured
  have plain := uses_of_user first user
  rw [pendingCalls, if_pos plain] at later
  have others := structured_turns_paired [first] rest none (Nat.succ_pos 0) later
  rw [tool_history_paired_turns, List.zipIdx_cons, List.all_cons, Bool.and_eq_true]
  constructor
  · unfold turnPaired
    rw [(no_uses_iff first).mpr plain, silent]
    rfl
  · exact others

theorem ensure_of_paired (history : History)
    (paired : toolHistoryPaired history ids (structuredToolPairs history none) = true) :
    ensureToolHistoryPaired history ids = history := by
  unfold ensureToolHistoryPaired ensurePairedFrom
  simp only [paired, if_true]

theorem covered_of_last_active (history : History)
    (active : currentToolResultsMatchLastAssistant history ids = true) :
    ∀ last ∈ history.getLast?, ids ≠ [] ∧ ∀ use ∈ toolUses last, use.toolUseID ∈ ids := by
  unfold currentToolResultsMatchLastAssistant at active
  split_ifs at active with empty
  intro last member
  rw [Option.mem_def] at member
  rw [member] at active
  simp only [Bool.and_eq_true, List.all_eq_true] at active
  exact ⟨empty, fun use inside => List.contains_iff_mem.mp (active.2 use inside)⟩

variable (ids)

theorem one_sided_sublist {fewer turns : History} (sub : fewer.Sublist turns)
    (sided : OneSided turns) : OneSided fewer := fun msg member => sided msg (sub.subset member)

theorem sanitize_turns_sided (history : History) (keep : Nat → Bool) (sided : OneSided history) :
    OneSided (sanitizeTurns history ids keep) := by
  intro msg member
  obtain ⟨index, bound, same⟩ := List.getElem_of_mem member
  simp only [sanitizeTurns, List.getElem_mapIdx, sanitize_turn_marked] at same
  rw [← same]
  unfold OneSidedTurn
  rw [(marked_sided _ _ _ _).1, (marked_sided _ _ _ _).2]
  exact sided _ (List.getElem_mem _)

/-- A first pass that keeps the pairs leaves nothing to repair in a history that a user starts. -/
theorem passed_from_user (first : KiroHistoryMessage) (rest : History)
    (declared : Option NameMap) (sided : OneSided (first :: rest))
    (user : first.assistantResponseMessage = none) :
    let sanitized := sanitizeTurns (first :: rest) ids
      (structuredToolPairs (first :: rest) declared)
    Structured ids none sanitized ∧ OneSided sanitized ∧
      sanitizeKiroHistoryKeeping (first :: rest) ids
        (structuredToolPairs (first :: rest) declared) = cleanFrom none sanitized ∧
      toolHistoryPaired (cleanFrom none sanitized) ids
        (structuredToolPairs (cleanFrom none sanitized) none) = true := by
  intro sanitized
  have plain := uses_of_user first user
  have reading : sanitized = sanitizeFrom (historyToolNames (first :: rest)) declared
      (currentToolResultsMatchLastAssistant (first :: rest) ids) false false (first :: rest) :=
    sanitize_turns_from (first :: rest) ids declared
  rw [sanitizeFrom] at reading
  simp only [Bool.false_and, Bool.or_false] at reading
  have here : OneSidedTurn first := sided first List.mem_cons_self
  have behind := (@structured_from ids (historyToolNames (first :: rest)) declared
    (currentToolResultsMatchLastAssistant (first :: rest) ids) rest
    (fun other member => sided other (List.mem_cons_of_mem _ member))
    (by
      intro active last member
      apply covered_of_last_active (first :: rest) active last
      cases rest with
      | nil => simp at member
      | cons next rest => rwa [List.getLast?_cons_cons])).1
  have structured : Structured ids none sanitized := by
    rw [reading]
    apply structured_plain _ _ _ _ behind
    · rw [marked_uses, plain, ite_self]
    · rw [marked_results _ _ _ _ here]
      rfl
  have sides : OneSided sanitized :=
    sanitize_turns_sided ids (first :: rest) _ sided
  have kept := (clean_structured none none sanitized sides structured).1
  have head : ∃ turn turns, cleanFrom none sanitized = turn :: turns ∧
      turn.assistantResponseMessage = none := by
    rw [reading, cleanFrom]
    have side := ((marked_sided (historyToolNames (first :: rest))
      (currentToolResultsMatchLastAssistant (first :: rest) ids && rest.isEmpty) false first).2).mpr
      user
    have stays : (emptyAssistant (sanitizeMarked (historyToolNames (first :: rest))
        (currentToolResultsMatchLastAssistant (first :: rest) ids && rest.isEmpty) false first) ||
        repeatsUser none (sanitizeMarked (historyToolNames (first :: rest))
          (currentToolResultsMatchLastAssistant (first :: rest) ids && rest.isEmpty) false
          first)) = false := by
      unfold emptyAssistant repeatsUser
      rw [side]
      simp
    rw [if_neg (by rw [stays]; exact Bool.false_ne_true)]
    exact ⟨_, _, rfl, side⟩
  obtain ⟨turn, turns, cleaned, side⟩ := head
  refine ⟨structured, sides, ?_, ?_⟩
  · rw [sanitizeKiroHistoryKeeping, if_neg (List.cons_ne_nil _ _)]
    change trimLeadingAssistantHistory (cleanFrom none sanitized) = cleanFrom none sanitized
    rw [cleaned, trimLeadingAssistantHistory, List.dropWhile_cons, side]
    rfl
  · rw [cleaned] at kept ⊢
    exact structured_paired turn turns side kept

/-- What is kept of a history that a user starts. -/
theorem kept_from_user (first : KiroHistoryMessage) (rest : History) (declared : NameMap)
    (some_ : declared ≠ []) (sided : OneSided (first :: rest))
    (user : first.assistantResponseMessage = none) :
    let sanitized := sanitizeTurns (first :: rest) ids
      (structuredToolPairs (first :: rest) (some declared))
    Structured ids none sanitized ∧ OneSided sanitized ∧
      keptToolHistory (first :: rest) ids declared = cleanFrom none sanitized := by
  intro sanitized
  have passed := passed_from_user ids first rest (some declared) sided user
  refine ⟨passed.1, passed.2.1, ?_⟩
  unfold keptToolHistory
  rw [if_neg some_, passed.2.2.1]
  exact ensure_of_paired _ passed.2.2.2

/-- The exchanges that match under declared names stay in a history that a user starts. -/
theorem kept_exchanges (before : History) (last : KiroHistoryMessage) (declared : NameMap)
    (some_ : declared ≠ []) (sided : OneSided (before ++ [last]))
    (starts : StartsWithUser (before ++ [last])) (current : List KiroToolResult) :
    ((exchanges before (toolResults last)).filter fun exchange =>
        toolPairMatches exchange.1 exchange.2 (some declared)).Sublist
      (exchanges (keptToolHistory (before ++ [last]) ids declared) current) := by
  cases before with
  | nil => exact List.nil_sublist _
  | cons first before =>
      have user := starts first rfl
      have plain := uses_of_user first user
      have kept := kept_from_user ids first (before ++ [last]) declared some_ sided user
      rw [List.cons_append, kept.2.2,
        ((clean_structured none none _ kept.2.1 kept.1).2 current).1, sanitize_turns_from,
        sanitizeFrom, exchanges_plain first before _ plain, exchanges_plain]
      · exact exchanges_from _ declared _ _ before last
          (fun other member => sided other (List.mem_cons_of_mem _ member)) current
      · rw [marked_uses, plain, ite_self]

end Kept

end KiroProxy.ToolHistory
