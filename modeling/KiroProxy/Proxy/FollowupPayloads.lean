import KiroProxy.Proxy.AnsweredHistory
import KiroProxy.Proxy.ToolDeclarations
import Mathlib.Data.List.Nodup
import Mathlib.Data.List.Perm.Subperm

/-!
# Follow-up payloads

`buildWebSearchFollowupPayload` of `proxy/mcp_websearch.go` and
`buildContinuationPayload` of `proxy/auto_continue.go` on the values of a payload. Both
move the current message into the history and sanitize it again for the same tools.
-/

namespace KiroProxy.FollowupPayloads

open GoStrings KiroTypes ToolDeclarations ToolHistory
open ToolNames (NameMap)

set_option autoImplicit false

structure InferenceConfig where
  maxTokens : Int
  deriving DecidableEq

structure KiroPayload where
  current : KiroUserInputMessage
  history : History
  inferenceConfig : Option InferenceConfig
  toolNameMap : NameMap

def autoContinuePrompt : GoString :=
  lit "Your previous response was cut off by the output limit. Continue exactly where it stopped, even mid-sentence or mid-code block. Do not repeat any earlier text and do not add a preamble or summary."

def currentTurn (payload : KiroPayload) : KiroHistoryMessage := ⟨some payload.current, none⟩

def currentResults (payload : KiroPayload) : List KiroToolResult :=
  toolResults (currentTurn payload)

def currentTools (payload : KiroPayload) : List KiroToolWrapper :=
  match payload.current.userInputMessageContext with
  | some context => context.tools
  | none => []

/-- The declared map of a follow-up; `order` is the name map as the loop visits it. -/
def declaredMap (enabled : Bool) (order : NameMap) (payload : KiroPayload) : NameMap :=
  match payload.current.userInputMessageContext with
  | some context => structuredToolHistoryNames enabled context.tools order
  | none => []

/-- The Kiro name of a client name: the first entry visited that has it. -/
def putBack (order : NameMap) (use : KiroToolUse) : KiroToolUse :=
  match order.find? fun entry => entry.2 == use.name with
  | some entry => { use with name := entry.1 }
  | none => use

/-- How the range loops over maps go: the one of the declared map, and one for each call. -/
structure MapOrders where
  declared : NameMap
  call : Nat → NameMap

def putBackCalls (orders : MapOrders) (uses : List KiroToolUse) : List KiroToolUse :=
  uses.mapIdx fun index use => putBack (orders.call index) use

def assistantTurn (content : GoString) (uses : List KiroToolUse) : KiroHistoryMessage :=
  ⟨none, some ⟨content, uses⟩⟩

def buildWebSearchFollowupPayload (enabled : Bool) (orders : MapOrders) (base : KiroPayload)
    (uses : List KiroToolUse) (results : List KiroToolResult) : KiroPayload :=
  let history := base.history ++
    [currentTurn base, assistantTurn [] (putBackCalls orders uses)]
  let ids := results.map KiroToolResult.toolUseID
  { base with
    history := sanitizeKiroHistoryForTools history ids (declaredMap enabled orders.declared base)
    current :=
      { content := buildToolResultsContinuation results
        modelID := base.current.modelID
        origin := base.current.origin
        images := []
        documents := []
        userInputMessageContext := some ⟨currentTools base, results⟩ } }

def buildContinuationPayload (enabled : Bool) (orders : MapOrders) (base : KiroPayload)
    (answer : GoString) (budget : Int) : KiroPayload :=
  let history := base.history ++ [currentTurn base, assistantTurn answer []]
  { base with
    history := sanitizeKiroHistoryForTools history [] (declaredMap enabled orders.declared base)
    current :=
      { content := autoContinuePrompt
        modelID := base.current.modelID
        origin := base.current.origin
        images := []
        documents := []
        userInputMessageContext :=
          if currentTools base = [] then none else some ⟨currentTools base, []⟩ }
    inferenceConfig :=
      if 0 < budget then base.inferenceConfig.map fun _ => ⟨budget⟩ else base.inferenceConfig }

section Pairing

def idsAnswered (uses : List KiroToolUse) (results : List KiroToolResult) : Prop :=
  ∀ id, id ∈ results.map KiroToolResult.toolUseID ↔ id ∈ uses.map KiroToolUse.toolUseID

/-- Every assistant turn with calls is answered by exactly its ids, in the turn behind it or
in the current message, and no id stands for two calls. -/
structure ToolsPaired (payload : KiroPayload) : Prop where
  sided : OneSided payload.history
  answered : ∀ exchange ∈ exchanges payload.history (currentResults payload),
    idsAnswered exchange.1 exchange.2
  distinct : ((calls payload.history).map KiroToolUse.toolUseID).Nodup

theorem distinct_ids_found (seen found : List GoString) (uses : List KiroToolUse)
    (distinct : distinctIDs none seen uses = some found) (once : seen.Nodup) :
    found.Nodup ∧ found = (uses.map KiroToolUse.toolUseID).reverse ++ seen := by
  induction uses generalizing seen with
  | nil =>
      rw [distinctIDs, Option.some.injEq] at distinct
      rw [← distinct]
      exact ⟨once, rfl⟩
  | cons use uses ih =>
      simp only [distinctIDs] at distinct
      split_ifs at distinct with unusable
      rw [Bool.or_eq_true, decide_eq_true_eq, not_or] at unusable
      have fresh : use.toolUseID ∉ seen := by
        intro member
        exact unusable.2 (List.contains_iff_mem.mpr member)
      have rest := ih (use.toolUseID :: seen) distinct (List.nodup_cons.mpr ⟨fresh, once⟩)
      refine ⟨rest.1, ?_⟩
      rw [rest.2, List.map_cons, List.reverse_cons, List.append_assoc, List.singleton_append]

theorem answers_all_sound (ids : List GoString) (results : List KiroToolResult)
    (answers : answersAll ids results = true) :
    (results.map KiroToolResult.toolUseID).Nodup ∧
      ∀ id ∈ results.map KiroToolResult.toolUseID, id ∈ ids := by
  induction results generalizing ids with
  | nil => simp
  | cons result results ih =>
      rw [answersAll, Bool.and_eq_true] at answers
      have rest := ih _ answers.2
      rw [List.map_cons, List.nodup_cons]
      refine ⟨⟨?_, rest.1⟩, ?_⟩
      · intro again
        have kept := rest.2 _ again
        simp at kept
      · intro id member
        cases List.mem_cons.mp member with
        | inl same =>
            rw [same]
            exact List.contains_iff_mem.mp answers.1
        | inr later => exact (List.mem_filter.mp (rest.2 id later)).1

theorem pair_matches_answered (uses : List KiroToolUse) (results : List KiroToolResult)
    (matched : toolPairMatches uses results none = true) : idsAnswered uses results := by
  unfold toolPairMatches at matched
  split_ifs at matched with shape
  rw [Bool.or_eq_true, decide_eq_true_eq, decide_eq_true_eq, not_or, not_not] at shape
  cases distinct : distinctIDs none [] uses with
  | none => simp [distinct] at matched
  | some found =>
      rw [distinct] at matched
      have ids := distinct_ids_found [] found uses distinct List.nodup_nil
      rw [List.append_nil] at ids
      have answers := answers_all_sound found results matched
      have inside : (results.map KiroToolResult.toolUseID).Subperm
          (uses.map KiroToolUse.toolUseID) := by
        apply List.subperm_of_subset answers.1
        intro id member
        have among := answers.2 id member
        rw [ids.2] at among
        exact List.mem_reverse.mp among
      have whole : (results.map KiroToolResult.toolUseID).Perm
          (uses.map KiroToolUse.toolUseID) := by
        apply inside.perm_of_length_le
        simp only [List.length_map, shape.2, Nat.le_refl]
      intro id
      exact whole.mem_iff

end Pairing

section Renaming

theorem renamed_id (declared : NameMap) (use : KiroToolUse) :
    (renameUse declared use).toolUseID = use.toolUseID ∧
      (renameUse declared use).input = use.input := by
  unfold renameUse
  simp only
  split_ifs
  · exact ⟨rfl, rfl⟩
  · exact ⟨rfl, rfl⟩

def renameExchange (declared : NameMap) (exchange : Exchange) : Exchange :=
  (exchange.1.map (renameUse declared), exchange.2)

theorem renamed_ids (declared : NameMap) (uses : List KiroToolUse) :
    (uses.map (renameUse declared)).map KiroToolUse.toolUseID =
      uses.map KiroToolUse.toolUseID := by
  rw [List.map_map]
  apply List.map_congr_left
  intro use _
  exact (renamed_id declared use).1

theorem renamed_exchanges (declared : NameMap) (history : History)
    (current : List KiroToolResult) :
    exchanges (history.map (renameTurn declared)) current =
      (exchanges history current).map (renameExchange declared) := by
  induction history with
  | nil => rfl
  | cons msg rest ih =>
      have answers : answersOf (rest.map (renameTurn declared)) current =
          answersOf rest current := by
        cases rest <;> rfl
      rw [List.map_cons, exchanges, exchanges, ih, answers, rename_turn_uses, List.map_append]
      by_cases plain : toolUses msg = []
      · rw [if_pos plain, if_pos (by rw [plain]; rfl)]
        rfl
      · rw [if_neg plain, if_neg (by simpa using plain)]
        rfl

theorem renamed_sided (declared : NameMap) (history : History) (sided : OneSided history) :
    OneSided (history.map (renameTurn declared)) := by
  intro msg member
  obtain ⟨original, inside, same⟩ := List.mem_map.mp member
  rw [← same]
  apply (sided original inside).imp id
  intro none
  rw [renameTurn, none]
  rfl

theorem kept_sided (history : History) (ids : List GoString) (declared : NameMap)
    (sided : OneSided history) : OneSided (keptToolHistory history ids declared) := by
  have ensured : ∀ attempts turns, OneSided turns →
      OneSided (ensurePairedFrom ids attempts turns) := by
    intro attempts
    induction attempts with
    | zero =>
        intro turns sides
        rw [ensurePairedFrom]
        split_ifs
        · exact sides
        · exact sanitized_sided ids turns _ sides
    | succ attempts ih =>
        intro turns sides
        rw [ensurePairedFrom]
        split_ifs
        · exact sides
        · exact ih _ (sanitized_sided ids turns _ sides)
  unfold keptToolHistory
  split_ifs
  · exact sanitized_sided ids history _ sided
  · exact ensured 3 _ (sanitized_sided ids history _ sided)

end Renaming

section Steps

/-- The history a follow-up sanitizes: the current message, then the assistant's new turn. -/
def extended (base : KiroPayload) (content : GoString) (uses : List KiroToolUse) : History :=
  base.history ++ [currentTurn base, assistantTurn content uses]

theorem extended_sided (base : KiroPayload) (content : GoString) (uses : List KiroToolUse)
    (sided : OneSided base.history) : OneSided (extended base content uses) := by
  intro msg member
  unfold extended at member
  rw [List.mem_append] at member
  cases member with
  | inl old => exact sided msg old
  | inr new =>
      rw [List.mem_cons, List.mem_singleton] at new
      cases new with
      | inl current =>
          rw [current]
          exact Or.inr rfl
      | inr assistant =>
          rw [assistant]
          exact Or.inl rfl

theorem extended_calls (base : KiroPayload) (content : GoString) (uses : List KiroToolUse) :
    calls (extended base content uses) = calls base.history ++ uses := by
  unfold calls extended
  rw [List.flatMap_append]
  simp [currentTurn, assistantTurn, toolUses]

theorem extended_waiting (base : KiroPayload) (content : GoString) (uses : List KiroToolUse)
    (results : List KiroToolResult) (sided : OneSided base.history)
    (answered : idsAnswered uses results) :
    Waiting (results.map KiroToolResult.toolUseID) uses (extended base content uses) := by
  constructor
  · exact extended_sided base content uses sided
  · intro some_
    have covered : ∀ use ∈ uses, use.toolUseID ∈ results.map KiroToolResult.toolUseID := by
      intro use member
      exact (answered use.toolUseID).mpr (List.mem_map_of_mem member)
    refine ⟨?_, covered, Or.inr ⟨base.history ++ [currentTurn base],
      assistantTurn content uses, ?_, rfl, rfl⟩⟩
    · intro empty
      obtain ⟨id, member⟩ := List.exists_mem_of_ne_nil _ some_
      have among := (answered id).mp member
      rw [empty] at among
      exact absurd among (by simp)
    · rw [extended, List.append_assoc]
      rfl

/-- What one follow-up keeps of the pairing. -/
theorem followup_paired (base next : KiroPayload) (content : GoString)
    (uses : List KiroToolUse) (declared : NameMap) (paired : ToolsPaired base)
    (fresh : ((calls base.history ++ uses).map KiroToolUse.toolUseID).Nodup)
    (answered : idsAnswered uses (currentResults next))
    (history : next.history = sanitizeKiroHistoryForTools (extended base content uses)
      ((currentResults next).map KiroToolResult.toolUseID) declared) : ToolsPaired next := by
  have waiting := extended_waiting base content uses _ paired.sided answered
  constructor
  · rw [history, sanitize_for_tools_kept]
    exact renamed_sided declared _ (kept_sided _ _ declared waiting.sided)
  · intro exchange member
    rw [history, sanitize_for_tools_kept, renamed_exchanges, List.mem_map] at member
    obtain ⟨kept, inside, same⟩ := member
    have answer : idsAnswered kept.1 kept.2 := by
      cases kept_answered _ declared waiting _ kept inside with
      | inl matched => exact pair_matches_answered kept.1 kept.2 matched
      | inr last =>
          rw [last]
          exact answered
    rw [← same]
    intro id
    rw [renameExchange, renamed_ids]
    exact answer id
  · rw [history, sanitize_for_tools_kept, renamed_calls, renamed_ids]
    apply ((kept_calls _ _ declared).map KiroToolUse.toolUseID).nodup
    rw [extended_calls]
    exact fresh

theorem put_back_ids (orders : MapOrders) (uses : List KiroToolUse) :
    (putBackCalls orders uses).map KiroToolUse.toolUseID = uses.map KiroToolUse.toolUseID := by
  apply List.ext_getElem?
  intro index
  simp only [putBackCalls, List.getElem?_map, List.getElem?_mapIdx, Option.map_map]
  cases uses[index]? with
  | none => rfl
  | some use =>
      simp only [Option.map_some, Function.comp_apply, putBack]
      split <;> rfl

theorem search_paired (enabled : Bool) (orders : MapOrders) (base : KiroPayload)
    (uses : List KiroToolUse) (results : List KiroToolResult) (paired : ToolsPaired base)
    (fresh : ((calls base.history ++ uses).map KiroToolUse.toolUseID).Nodup)
    (answered : idsAnswered uses results) :
    ToolsPaired (buildWebSearchFollowupPayload enabled orders base uses results) := by
  apply followup_paired base _ [] (putBackCalls orders uses)
    (declaredMap enabled orders.declared base) paired
  · rw [List.map_append, put_back_ids, ← List.map_append]
    exact fresh
  · intro id
    rw [put_back_ids]
    exact answered id
  · rfl

theorem continuation_paired (enabled : Bool) (orders : MapOrders) (base : KiroPayload)
    (answer : GoString) (budget : Int) (paired : ToolsPaired base) :
    ToolsPaired (buildContinuationPayload enabled orders base answer budget) := by
  have silent : currentResults (buildContinuationPayload enabled orders base answer budget) =
      [] := by
    unfold currentResults currentTurn toolResults buildContinuationPayload
    by_cases empty : currentTools base = [] <;> simp [empty]
  apply followup_paired base _ answer [] (declaredMap enabled orders.declared base) paired
  · rw [List.append_nil]
    exact paired.distinct
  · rw [silent]
    intro id
    simp
  · rw [silent]
    rfl

end Steps

section Narration

/-! With structured history on, the exchanges of the base payload stay structured: ids,
inputs and results as they are, names rewritten at most. -/

def callBody (use : KiroToolUse) : GoString × JsonFields := (use.toolUseID, use.input)

def SameExchange (before after : Exchange) : Prop :=
  after.1.map callBody = before.1.map callBody ∧ after.2 = before.2

/-- No call and result that is structured before is narrated after. -/
def KeepsExchanges (before next : KiroPayload) : Prop :=
  ∃ kept, kept.Sublist (exchanges next.history (currentResults next)) ∧
    List.Forall₂ SameExchange (exchanges before.history (currentResults before)) kept

/-- The names a call may carry: a declared Kiro name or the client's name for one. -/
def declaredName (declaration : ToolDeclaration) (name : GoString) : Prop :=
  name ∈ kiroNames declaration.tools ∨
    ∃ kiroName, declaration.nameMap.lookup kiroName = some name

/-- Calls with ids of their own under declared names, each with one result. -/
structure DeclaredExchange (declaration : ToolDeclaration) (exchange : Exchange) : Prop where
  calls : exchange.1 ≠ []
  distinct : (exchange.1.map KiroToolUse.toolUseID).Nodup
  present : ∀ use ∈ exchange.1, use.toolUseID ≠ []
  once : (exchange.2.map KiroToolResult.toolUseID).Perm
    (exchange.1.map KiroToolUse.toolUseID)
  declared : ∀ use ∈ exchange.1, declaredName declaration use.name

theorem distinct_ids_declared (declared : NameMap) (seen : List GoString)
    (uses : List KiroToolUse)
    (distinct : (seen ++ uses.map KiroToolUse.toolUseID).Nodup)
    (present : ∀ use ∈ uses, use.toolUseID ≠ [])
    (named : ∀ use ∈ uses, (declared.lookup use.name).getD [] ≠ []) :
    ∃ found, distinctIDs (some declared) seen uses = some found ∧
      ∀ id, id ∈ found ↔ id ∈ seen ∨ id ∈ uses.map KiroToolUse.toolUseID := by
  induction uses generalizing seen with
  | nil => exact ⟨seen, rfl, by simp⟩
  | cons use uses ih =>
      rw [List.map_cons] at distinct
      have moved : (use.toolUseID :: (seen ++ uses.map KiroToolUse.toolUseID)).Nodup :=
        List.perm_middle.nodup_iff.mp distinct
      have fresh : use.toolUseID ∉ seen := by
        intro member
        exact (List.nodup_cons.mp moved).1 (List.mem_append_left _ member)
      obtain ⟨found, distinct', members⟩ := ih (use.toolUseID :: seen) moved
        (fun other member => present other (List.mem_cons_of_mem _ member))
        (fun other member => named other (List.mem_cons_of_mem _ member))
      refine ⟨found, ?_, ?_⟩
      · simp only [distinctIDs]
        rw [if_neg, if_neg (named use List.mem_cons_self), distinct']
        rw [Bool.or_eq_true, decide_eq_true_eq, not_or]
        exact ⟨present use List.mem_cons_self, fun among => fresh (List.contains_iff_mem.mp among)⟩
      · intro id
        rw [members, List.map_cons, List.mem_cons, List.mem_cons]
        tauto

theorem answers_all_complete (ids : List GoString) (results : List KiroToolResult)
    (once : (results.map KiroToolResult.toolUseID).Nodup)
    (inside : ∀ id ∈ results.map KiroToolResult.toolUseID, id ∈ ids) :
    answersAll ids results = true := by
  induction results generalizing ids with
  | nil => rfl
  | cons result results ih =>
      rw [List.map_cons, List.nodup_cons] at once
      rw [answersAll, Bool.and_eq_true]
      constructor
      · exact List.contains_iff_mem.mpr (inside _ (by simp))
      · apply ih _ once.2
        intro id member
        rw [List.mem_filter, decide_eq_true_eq]
        refine ⟨inside id (List.mem_cons_of_mem _ member), ?_⟩
        intro same
        rw [same] at member
        exact once.1 member

variable {declaration : ToolDeclaration}

theorem declared_lookup (order : NameMap) (visits : Visits order declaration.nameMap)
    (declares : declaration.tools ≠ []) (name : GoString)
    (declared : declaredName declaration name) :
    ∃ kiroName, (structuredToolHistoryNames true declaration.tools order).lookup name =
      some kiroName ∧ kiroName ∈ kiroNames declaration.tools := by
  have names := history_names declaration order visits declares
  have found : ∃ kiroName, (structuredToolHistoryNames true declaration.tools order).lookup name =
      some kiroName := by
    cases declared with
    | inl kiro => exact names.kiro name kiro
    | inr client =>
        obtain ⟨kiroName, mapped⟩ := client
        obtain ⟨other, looked, _⟩ :=
          names.client (kiroName, name) ((visits.entries kiroName name).mpr mapped)
        exact ⟨other, looked⟩
  obtain ⟨kiroName, looked⟩ := found
  exact ⟨kiroName, looked, (names.sound name kiroName looked).1⟩

theorem declared_exchange_declares (exchange : Exchange)
    (good : DeclaredExchange declaration exchange) : declaration.tools ≠ [] := by
  intro empty
  obtain ⟨use, member⟩ := List.exists_mem_of_ne_nil _ good.calls
  cases good.declared use member with
  | inl kiro =>
      rw [empty] at kiro
      exact absurd kiro (by simp [kiroNames])
  | inr client =>
      obtain ⟨kiroName, mapped⟩ := client
      have inside := (declaration.mapped kiroName use.name mapped).1
      rw [empty] at inside
      exact absurd inside (by simp [kiroNames])

/-- Such an exchange passes the name check of the first pass. -/
theorem declared_exchange_matches (order : NameMap) (visits : Visits order declaration.nameMap)
    (exchange : Exchange) (good : DeclaredExchange declaration exchange) :
    toolPairMatches exchange.1 exchange.2
      (some (structuredToolHistoryNames true declaration.tools order)) = true := by
  have declares := declared_exchange_declares exchange good
  have named : ∀ use ∈ exchange.1,
      ((structuredToolHistoryNames true declaration.tools order).lookup use.name).getD [] ≠
        [] := by
    intro use member
    obtain ⟨kiroName, looked, inside⟩ :=
      declared_lookup order visits declares use.name (good.declared use member)
    rw [looked]
    exact declaration.named kiroName inside
  obtain ⟨found, distinct, members⟩ := distinct_ids_declared _ [] exchange.1
    (by rw [List.nil_append]; exact good.distinct) good.present named
  have sizes : exchange.1.length = exchange.2.length := by
    have lengths := good.once.length_eq
    rw [List.length_map, List.length_map] at lengths
    exact lengths.symm
  unfold toolPairMatches
  rw [distinct, if_neg]
  · apply answers_all_complete
    · exact good.once.nodup_iff.mpr good.distinct
    · intro id member
      rw [members]
      exact Or.inr (good.once.mem_iff.mp member)
  · rw [Bool.or_eq_true, decide_eq_true_eq, decide_eq_true_eq, not_or, not_not]
    exact ⟨good.calls, sizes⟩

/-- What a follow-up carries on of an original payload. -/
structure Carries (declaration : ToolDeclaration) (original payload : KiroPayload) : Prop where
  tools : currentTools payload = declaration.tools
  names : payload.toolNameMap = declaration.nameMap
  sided : OneSided payload.history
  starts : StartsWithUser payload.history
  kept : ∃ kept, kept.Sublist (exchanges payload.history (currentResults payload)) ∧
    List.Forall₂ SameExchange (exchanges original.history (currentResults original)) kept ∧
    ∀ exchange ∈ kept, DeclaredExchange declaration exchange

theorem declared_map_on (order : NameMap) (payload : KiroPayload)
    (tools : currentTools payload = declaration.tools) :
    declaredMap true order payload = structuredToolHistoryNames true declaration.tools order := by
  rw [← tools]
  unfold declaredMap currentTools
  cases payload.current.userInputMessageContext with
  | none => rfl
  | some context => rfl

theorem sanitized_starts (history : History) (ids : List GoString) (keep : Nat → Bool) :
    StartsWithUser (sanitizeKiroHistoryKeeping history ids keep) := by
  intro msg member
  unfold sanitizeKiroHistoryKeeping at member
  split_ifs at member with empty
  · simp [empty] at member
  · have head := List.head?_dropWhile_not
      (fun msg : KiroHistoryMessage => msg.assistantResponseMessage.isSome)
      (cleanFrom none (sanitizeTurns history ids keep))
    rw [trimLeadingAssistantHistory] at member
    rw [Option.mem_def] at member
    rw [member] at head
    simpa using head

theorem kept_starts (history : History) (ids : List GoString) (declared : NameMap) :
    StartsWithUser (keptToolHistory history ids declared) := by
  have ensured : ∀ attempts turns, StartsWithUser turns →
      StartsWithUser (ensurePairedFrom ids attempts turns) := by
    intro attempts
    induction attempts with
    | zero =>
        intro turns starts
        rw [ensurePairedFrom]
        split_ifs
        · exact starts
        · exact sanitized_starts turns ids _
    | succ attempts ih =>
        intro turns starts
        rw [ensurePairedFrom]
        split_ifs
        · exact starts
        · exact ih _ (sanitized_starts turns ids _)
  unfold keptToolHistory
  split_ifs
  · exact sanitized_starts history ids _
  · exact ensured 3 _ (sanitized_starts history ids _)

theorem renamed_exchange_declared (order : NameMap) (visits : Visits order declaration.nameMap)
    (exchange : Exchange) (good : DeclaredExchange declaration exchange) :
    DeclaredExchange declaration (renameExchange
      (structuredToolHistoryNames true declaration.tools order) exchange) := by
  have declares := declared_exchange_declares exchange good
  constructor
  · simpa [renameExchange] using good.calls
  · rw [renameExchange, renamed_ids]
    exact good.distinct
  · intro use member
    obtain ⟨original, inside, same⟩ := List.mem_map.mp member
    rw [← same, (renamed_id _ original).1]
    exact good.present original inside
  · rw [renameExchange, renamed_ids]
    exact good.once
  · intro use member
    obtain ⟨original, inside, same⟩ := List.mem_map.mp member
    obtain ⟨kiroName, looked, known⟩ :=
      declared_lookup order visits declares original.name (good.declared original inside)
    left
    rw [← same]
    simpa [renameUse, looked, declaration.named kiroName known] using known

theorem renamed_exchange_same (declared : NameMap) (before after : Exchange)
    (same : SameExchange before after) : SameExchange before (renameExchange declared after) := by
  refine ⟨?_, same.2⟩
  rw [← same.1, renameExchange, List.map_map]
  apply List.map_congr_left
  intro use _
  rw [Function.comp_apply, callBody, (renamed_id declared use).1, (renamed_id declared use).2]
  rfl

theorem extended_starts (base : KiroPayload) (content : GoString) (uses : List KiroToolUse)
    (starts : StartsWithUser base.history) : StartsWithUser (extended base content uses) := by
  intro msg member
  unfold extended at member
  cases before : base.history with
  | nil =>
      rw [before] at member
      rw [← Option.some.inj member]
      rfl
  | cons first rest =>
      rw [before] at member
      apply starts
      rw [before]
      exact member

/-- The exchanges before the new call are those of the base payload. -/
theorem extended_exchanges (base : KiroPayload) (content : GoString) (uses : List KiroToolUse) :
    exchanges (base.history ++ [currentTurn base]) (toolResults (assistantTurn content uses)) =
      exchanges base.history (currentResults base) := by
  rw [exchanges_concat, exchanges_plain (currentTurn base) [] _ rfl]
  exact List.append_nil _

theorem declared_exchange_names (order : NameMap) (visits : Visits order declaration.nameMap)
    (exchange : Exchange) (good : DeclaredExchange declaration exchange) :
    structuredToolHistoryNames true declaration.tools order ≠ [] := by
  intro empty
  obtain ⟨use, member⟩ := List.exists_mem_of_ne_nil _ good.calls
  obtain ⟨kiroName, looked, _⟩ := declared_lookup order visits
    (declared_exchange_declares exchange good) use.name (good.declared use member)
  rw [empty] at looked
  exact absurd looked (by simp)

/-- The exchanges carried so far stay in the kept history of the next payload. -/
theorem extended_keeps (base : KiroPayload) (content : GoString) (uses : List KiroToolUse)
    (ids : List GoString) (order : NameMap) (visits : Visits order declaration.nameMap)
    (sided : OneSided base.history) (starts : StartsWithUser base.history)
    (kept : List Exchange) (part : kept.Sublist (exchanges base.history (currentResults base)))
    (good : ∀ exchange ∈ kept, DeclaredExchange declaration exchange)
    (current : List KiroToolResult) :
    kept.Sublist (exchanges (keptToolHistory (extended base content uses) ids
      (structuredToolHistoryNames true declaration.tools order)) current) := by
  cases kept with
  | nil => exact List.nil_sublist _
  | cons first rest =>
      have some_ := declared_exchange_names order visits first (good first List.mem_cons_self)
      have sidedNext := extended_sided base content uses sided
      have startsNext := extended_starts base content uses starts
      have split : extended base content uses =
          (base.history ++ [currentTurn base]) ++ [assistantTurn content uses] := by
        rw [extended, List.append_assoc]
        rfl
      rw [split] at sidedNext startsNext ⊢
      have stays := kept_exchanges ids (base.history ++ [currentTurn base])
        (assistantTurn content uses) _ some_ sidedNext startsNext current
      rw [extended_exchanges] at stays
      apply List.Sublist.trans _ stays
      have passing := part.filter fun exchange : Exchange =>
        toolPairMatches exchange.1 exchange.2
          (some (structuredToolHistoryNames true declaration.tools order))
      rwa [List.filter_eq_self.mpr (fun exchange member =>
        declared_exchange_matches order visits exchange (good exchange member))] at passing

/-- What one follow-up with structured history on narrates none of. -/
theorem followup_carries (original base next : KiroPayload) (content : GoString)
    (uses : List KiroToolUse) (ids : List GoString) (order : NameMap)
    (visits : Visits order declaration.nameMap) (carries : Carries declaration original base)
    (history : next.history = sanitizeKiroHistoryForTools (extended base content uses) ids
      (declaredMap true order base))
    (tools : currentTools next = currentTools base) (names : next.toolNameMap = base.toolNameMap) :
    Carries declaration original next := by
  obtain ⟨kept, part, same, good⟩ := carries.kept
  have sided := extended_sided base content uses carries.sided
  rw [declared_map_on order base carries.tools, sanitize_for_tools_kept] at history
  constructor
  · rw [tools, carries.tools]
  · rw [names, carries.names]
  · rw [history]
    exact renamed_sided _ _ (kept_sided _ ids _ sided)
  · rw [history]
    intro msg member
    rw [List.head?_map, Option.mem_def, Option.map_eq_some_iff] at member
    obtain ⟨turn, head, renamed⟩ := member
    have side := kept_starts (extended base content uses) ids _ turn head
    rw [← renamed, renameTurn, side]
    rfl
  · refine ⟨kept.map (renameExchange (structuredToolHistoryNames true declaration.tools order)),
      ?_, ?_, ?_⟩
    · rw [history, renamed_exchanges]
      apply List.Sublist.map
      exact extended_keeps base content uses ids order visits carries.sided carries.starts kept
        part good (currentResults next)
    · rw [List.forall₂_map_right_iff]
      exact same.imp fun before after => renamed_exchange_same _ before after
    · intro exchange member
      obtain ⟨inner, inside, renamed⟩ := List.mem_map.mp member
      rw [← renamed]
      exact renamed_exchange_declared order visits inner (good inner inside)

theorem carries_keeps (original payload : KiroPayload)
    (carries : Carries declaration original payload) : KeepsExchanges original payload := by
  obtain ⟨kept, part, same, _⟩ := carries.kept
  exact ⟨kept, part, same⟩

end Narration

end KiroProxy.FollowupPayloads
