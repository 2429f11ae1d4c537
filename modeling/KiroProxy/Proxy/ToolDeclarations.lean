import KiroProxy.Proxy.KeptHistory
import KiroProxy.Proxy.OpenAITools
import Mathlib.Data.List.Perm.Basic

/-!
# Declared tool names of a history

`structuredToolHistoryNames` of `proxy/tool_history.go` gives the Kiro name for every
name a historical call may carry: the client's names and the Kiro names are keys of
one map. A name map is a Go map, visited in any order.
-/

namespace KiroProxy.ToolDeclarations

open GoStrings KiroTypes OpenAITools ToolHistory ToolNames

set_option autoImplicit false

def kiroNames (tools : List KiroToolWrapper) : List GoString := tools.map KiroToolWrapper.name

/-- A declared tool list with its name map, as the translators make them: the map has the
tools that were renamed. -/
structure ToolDeclaration where
  tools : List KiroToolWrapper
  nameMap : NameMap
  named : ∀ name ∈ kiroNames tools, name ≠ []
  mapped : ∀ kiroName clientName, nameMap.lookup kiroName = some clientName →
    kiroName ∈ kiroNames tools ∧ kiroName ≠ clientName

section Conversions

theorem mem_of_lookup (nameMap : NameMap) (name client : GoString)
    (found : nameMap.lookup name = some client) : (name, client) ∈ nameMap := by
  induction nameMap with
  | nil => simp at found
  | cons entry nameMap ih =>
      obtain ⟨key, value⟩ := entry
      rw [List.lookup_cons] at found
      cases same : name == key with
      | true =>
          rw [same] at found
          rw [beq_iff_eq.mp same, Option.some.inj found]
          exact List.mem_cons_self
      | false =>
          rw [same] at found
          exact List.mem_cons_of_mem _ (ih found)

/-- What every step of both conversions keeps. -/
structure Renamed (tools : List KiroToolWrapper) (nameMap : NameMap) : Prop where
  named : ∀ name ∈ kiroNames tools, name ≠ []
  entries : ∀ entry ∈ nameMap, entry.1 ∈ kiroNames tools ∧ entry.1 ≠ entry.2

theorem renamed_nil : Renamed [] [] := ⟨by simp [kiroNames], by simp⟩

theorem renamed_declare {tools : List KiroToolWrapper} {nameMap : NameMap}
    (renamed : Renamed tools nameMap) (tool : KiroToolWrapper) (present : tool.name ≠ []) :
    Renamed (tools ++ [tool]) nameMap := by
  have names : kiroNames (tools ++ [tool]) = kiroNames tools ++ [tool.name] := by
    simp [kiroNames]
  constructor
  · intro name member
    rw [names, List.mem_append, List.mem_singleton] at member
    cases member with
    | inl old => exact renamed.named name old
    | inr new => rwa [new]
  · intro entry member
    have old := renamed.entries entry member
    rw [names]
    exact ⟨List.mem_append_left _ old.1, old.2⟩

theorem renamed_rename {tools : List KiroToolWrapper} {nameMap : NameMap}
    (renamed : Renamed tools nameMap) (kiroName clientName : GoString)
    (member : kiroName ∈ kiroNames tools) (differ : kiroName ≠ clientName) :
    Renamed tools ((kiroName, clientName) :: nameMap) := by
  constructor
  · exact renamed.named
  · intro entry inside
    cases List.mem_cons.mp inside with
    | inl same =>
        rw [same]
        exact ⟨member, differ⟩
    | inr old => exact renamed.entries entry old

theorem kiro_names_last (tools : List KiroToolWrapper) (tool : KiroToolWrapper) :
    tool.name ∈ kiroNames (tools ++ [tool]) := by
  simp [kiroNames]

def Renamed.declaration {tools : List KiroToolWrapper} {nameMap : NameMap}
    (renamed : Renamed tools nameMap) : ToolDeclaration where
  tools := tools
  nameMap := nameMap
  named := renamed.named
  mapped := fun kiroName clientName found =>
    renamed.entries (kiroName, clientName) (mem_of_lookup nameMap kiroName clientName found)

theorem convert_openai_renamed (letters : Letters) (tools : List OpenAITool)
    (state : Conversion) (before : Renamed state.result state.nameMap) :
    Renamed (tools.foldl (convertOpenAITool letters) state).result
      (tools.foldl (convertOpenAITool letters) state).nameMap := by
  induction tools generalizing state with
  | nil => exact before
  | cons tool tools ih =>
      rw [List.foldl_cons]
      apply ih
      unfold convertOpenAITool
      simp only
      split_ifs with hosted function blank renamed
      · apply renamed_rename
        · exact renamed_declare before hostedSearchTool (by decide)
        · exact kiro_names_last state.result hostedSearchTool
        · decide
      · exact before
      · exact before
      · apply renamed_rename
        · exact renamed_declare before _ (unique_name_ne_nil _ _)
        · exact kiro_names_last state.result _
        · exact renamed
      · exact renamed_declare before _ (unique_name_ne_nil _ _)

def openAIDeclaration (letters : Letters) (tools : List OpenAITool) : ToolDeclaration :=
  (convert_openai_renamed letters tools ⟨[], [], []⟩ renamed_nil).declaration

theorem spelled_name_ne_nil (name : GoString) : kiroToolName name ≠ [] := by
  have sanitized : sanitizeToolName name ≠ [] := by
    unfold sanitizeToolName
    simp only
    split_ifs with _ joined
    · decide
    · decide
    · exact joined
  have taken : (sanitizeToolName name).take 64 ≠ [] := by
    intro empty
    rw [List.take_eq_nil_iff] at empty
    cases empty with
    | inl zero => exact absurd zero (by decide)
    | inr nothing => exact sanitized nothing
  unfold kiroToolName shortenToolName
  split_ifs with short namespaced
  · exact sanitized
  · split
    · split_ifs
      · have tagged : lit "mcp__" ≠ [] := by decide
        simp [tagged]
      · exact taken
    · exact taken
  · exact taken

theorem convert_claude_renamed (tools : List ClaudeTool)
    (state : List KiroToolWrapper × NameMap) (before : Renamed state.1 state.2) :
    Renamed (tools.foldl convertStep state).1 (tools.foldl convertStep state).2 := by
  induction tools generalizing state with
  | nil => exact before
  | cons tool tools ih =>
      rw [List.foldl_cons]
      apply ih
      have declared := renamed_declare before (convertTool tool) (spelled_name_ne_nil tool.name)
      unfold convertStep
      simp only
      split_ifs with renamed
      · apply renamed_rename declared
        · exact kiro_names_last state.1 (convertTool tool)
        · exact renamed
      · exact declared

theorem claude_renamed (tools : List ClaudeTool) :
    Renamed (convertClaudeTools tools).1 (convertClaudeTools tools).2 := by
  rw [convert_tools_fold]
  exact convert_claude_renamed _ _ renamed_nil

def claudeDeclaration (tools : List ClaudeTool) : ToolDeclaration :=
  (claude_renamed tools).declaration

end Conversions

section Names

/-- One order in which a range loop visits a map: every key once, with its value. -/
structure Visits (order nameMap : NameMap) : Prop where
  once : (order.map Prod.fst).Nodup
  entries : ∀ kiroName clientName,
    (kiroName, clientName) ∈ order ↔ nameMap.lookup kiroName = some clientName

/-- The entries of a map, its shadowed ones left out. -/
def rangeOrder : NameMap → NameMap
  | [] => []
  | entry :: rest => entry :: (rangeOrder rest).filter fun other => other.1 ≠ entry.1

theorem range_order_visits (nameMap : NameMap) : Visits (rangeOrder nameMap) nameMap := by
  induction nameMap with
  | nil => exact ⟨List.nodup_nil, by simp [rangeOrder]⟩
  | cons entry rest ih =>
      constructor
      · rw [rangeOrder, List.map_cons, List.nodup_cons]
        constructor
        · simp
        · exact (List.filter_sublist.map Prod.fst).nodup ih.once
      · intro kiroName clientName
        rw [rangeOrder, List.mem_cons, List.mem_filter, ih.entries, List.lookup_cons]
        by_cases same : kiroName = entry.1
        · rw [same, beq_self_eq_true]
          simp [Prod.ext_iff, eq_comm]
        · have apart : (kiroName == entry.1) = false := by simpa using same
          rw [apart]
          simp [Prod.ext_iff, same]

def declareName (declared : NameMap) (tool : KiroToolWrapper) : NameMap :=
  if tool.name ≠ [] then (tool.name, tool.name) :: declared else declared

def declareAlias (declared : NameMap) (entry : GoString × GoString) : NameMap :=
  if (declared.lookup entry.1).getD [] ≠ [] then (entry.2, entry.1) :: declared else declared

/-- `enabled` is `structuredToolHistoryEnabled()`, `order` the name map as the loop visits
it. No entry is the nil map, under which the history is narrated. -/
def structuredToolHistoryNames (enabled : Bool) (tools : List KiroToolWrapper)
    (order : NameMap) : NameMap :=
  if tools = [] || !enabled then []
  else order.foldl declareAlias (tools.foldl declareName [])

theorem declare_name_lookup (tools : List KiroToolWrapper) (declared : NameMap)
    (named : ∀ name ∈ kiroNames tools, name ≠ []) (name : GoString) :
    (tools.foldl declareName declared).lookup name =
      if name ∈ kiroNames tools then some name else declared.lookup name := by
  induction tools generalizing declared with
  | nil => simp [kiroNames]
  | cons tool tools ih =>
      have present : tool.name ≠ [] := named tool.name (by simp [kiroNames])
      have later := ih ((tool.name, tool.name) :: declared)
        (fun other member => named other (by
          unfold kiroNames at member ⊢
          exact List.mem_cons_of_mem _ member))
      have names : kiroNames (tool :: tools) = tool.name :: kiroNames tools := rfl
      rw [List.foldl_cons, declareName, if_pos present, later, List.lookup_cons, names]
      by_cases behind : name ∈ kiroNames tools
      · rw [if_pos behind, if_pos (List.mem_cons_of_mem _ behind)]
      · rw [if_neg behind]
        by_cases here : name = tool.name
        · rw [here, if_pos List.mem_cons_self, beq_self_eq_true]
        · have apart : (name == tool.name) = false := by simpa using here
          rw [apart, if_neg]
          intro member
          cases List.mem_cons.mp member with
          | inl same => exact here same
          | inr inside => exact behind inside

/-- What the declared map says after some entries of the name map: a Kiro name stands for
itself or for a tool whose client name it is. -/
structure Names (tools : List KiroToolWrapper) (seen declared : NameMap) : Prop where
  sound : ∀ name kiroName, declared.lookup name = some kiroName →
    kiroName ∈ kiroNames tools ∧ (kiroName = name ∨ (kiroName, name) ∈ seen)
  kiro : ∀ name ∈ kiroNames tools, ∃ kiroName, declared.lookup name = some kiroName
  client : ∀ entry ∈ seen, ∃ kiroName, declared.lookup entry.2 = some kiroName ∧
    (kiroName, entry.2) ∈ seen

theorem names_alias {tools : List KiroToolWrapper} {seen declared : NameMap}
    (named : ∀ name ∈ kiroNames tools, name ≠ []) (names : Names tools seen declared)
    (entry : GoString × GoString) (member : entry.1 ∈ kiroNames tools) :
    Names tools (seen ++ [entry]) (declareAlias declared entry) := by
  have defined : (declared.lookup entry.1).getD [] ≠ [] := by
    obtain ⟨kiroName, found⟩ := names.kiro entry.1 member
    rw [found]
    exact named kiroName (names.sound entry.1 kiroName found).1
  rw [declareAlias, if_pos defined]
  have looked : ∀ name, List.lookup name ((entry.2, entry.1) :: declared) =
      if name = entry.2 then some entry.1 else declared.lookup name := by
    intro name
    rw [List.lookup_cons]
    by_cases same : name = entry.2
    · rw [if_pos same, same, beq_self_eq_true]
    · have apart : (name == entry.2) = false := by simpa using same
      rw [if_neg same, apart]
  constructor
  · intro name kiroName found
    rw [looked] at found
    split_ifs at found with same
    · rw [← Option.some.inj found, same]
      exact ⟨member, Or.inr (by simp)⟩
    · have old := names.sound name kiroName found
      exact ⟨old.1, old.2.imp_right (List.mem_append_left _)⟩
  · intro name inside
    rw [looked]
    split_ifs
    · exact ⟨entry.1, rfl⟩
    · exact names.kiro name inside
  · intro other inside
    rw [looked]
    split_ifs with same
    · exact ⟨entry.1, rfl, by rw [same]; simp⟩
    · rw [List.mem_append, List.mem_singleton] at inside
      cases inside with
      | inl old =>
          obtain ⟨kiroName, found, among⟩ := names.client other old
          exact ⟨kiroName, found, List.mem_append_left _ among⟩
      | inr new => exact absurd (by rw [new]) same

theorem names_aliases {tools : List KiroToolWrapper} (named : ∀ name ∈ kiroNames tools, name ≠ [])
    (order seen declared : NameMap) (names : Names tools seen declared)
    (members : ∀ entry ∈ order, entry.1 ∈ kiroNames tools) :
    Names tools (seen ++ order) (order.foldl declareAlias declared) := by
  induction order generalizing seen declared with
  | nil => rwa [List.append_nil]
  | cons entry order ih =>
      have step := names_alias named names entry (members entry List.mem_cons_self)
      have rest := ih (seen ++ [entry]) (declareAlias declared entry) step
        (fun other inside => members other (List.mem_cons_of_mem _ inside))
      rwa [List.append_assoc, List.singleton_append] at rest

variable (declaration : ToolDeclaration)

/-- The map of a request that declares tools. -/
theorem history_names (order : NameMap) (visits : Visits order declaration.nameMap)
    (declares : declaration.tools ≠ []) :
    Names declaration.tools order
      (structuredToolHistoryNames true declaration.tools order) := by
  have start : Names declaration.tools [] (declaration.tools.foldl declareName []) := by
    constructor
    · intro name kiroName found
      rw [declare_name_lookup _ _ declaration.named] at found
      split_ifs at found with member
      · rw [← Option.some.inj found]
        exact ⟨member, Or.inl rfl⟩
      · simp at found
    · intro name member
      rw [declare_name_lookup _ _ declaration.named, if_pos member]
      exact ⟨name, rfl⟩
    · simp
  have entered : ∀ entry ∈ order, entry.1 ∈ kiroNames declaration.tools := by
    intro entry member
    exact (declaration.mapped entry.1 entry.2 ((visits.entries entry.1 entry.2).mp member)).1
  have names := names_aliases declaration.named order [] _ start entered
  rw [List.nil_append] at names
  simpa [structuredToolHistoryNames, declares] using names

end Names

section Stability

/-- The renaming loop finds every name it looks at already in place. -/
def RewritesNothing (history : History) (ids : List GoString) (declared : NameMap) : Prop :=
  sanitizeKiroHistoryForTools history ids declared = keptToolHistory history ids declared

/-- A pass over a rewritten history and behind it turns whose calls carry Kiro names renames
no call, whatever orders the two passes visit the name map in. -/
def StableRewriting (declaration : ToolDeclaration) : Prop :=
  ∀ (enabled : Bool) (first second : NameMap),
    Visits first declaration.nameMap → Visits second declaration.nameMap →
    ∀ (history turns : History) (ids laterIds : List GoString),
      (∀ use ∈ calls turns, use.name ∈ kiroNames declaration.tools) →
      RewritesNothing
        (sanitizeKiroHistoryForTools history ids
          (structuredToolHistoryNames enabled declaration.tools first) ++ turns)
        laterIds (structuredToolHistoryNames enabled declaration.tools second)

/-- No declared Kiro name is the name the client gave another declared tool. -/
def NamesApart (declaration : ToolDeclaration) : Prop :=
  ∀ kiroName clientName, declaration.nameMap.lookup kiroName = some clientName →
    clientName ∉ kiroNames declaration.tools

theorem rewrites_nothing_iff (history : History) (ids : List GoString) (declared : NameMap) :
    RewritesNothing history ids declared ↔
      ∀ use ∈ calls (keptToolHistory history ids declared), renameUse declared use = use := by
  rw [RewritesNothing, sanitize_for_tools_kept, rename_same_iff]

theorem rewrites_nothing_nil (history : History) (ids : List GoString) :
    RewritesNothing history ids [] := by
  rw [rewrites_nothing_iff]
  intro use _
  rfl

theorem rename_use_name (declared : NameMap) (use : KiroToolUse) :
    renameUse declared use = use ↔
      ∀ kiroName, declared.lookup use.name = some kiroName → kiroName ≠ [] →
        kiroName = use.name := by
  obtain ⟨toolUseID, name, input⟩ := use
  unfold renameUse
  cases declared.lookup name with
  | none => simp
  | some kiroName => by_cases empty : kiroName = [] <;> simp [empty]

variable {declaration : ToolDeclaration}

/-- Apart from the client names, a Kiro name stands for itself. -/
theorem kiro_name_fixed (order : NameMap) (visits : Visits order declaration.nameMap)
    (declares : declaration.tools ≠ []) (apart : NamesApart declaration) (use : KiroToolUse)
    (member : use.name ∈ kiroNames declaration.tools) :
    renameUse (structuredToolHistoryNames true declaration.tools order) use = use := by
  rw [rename_use_name]
  intro kiroName found _
  have names := history_names declaration order visits declares
  cases (names.sound use.name kiroName found).2 with
  | inl same => exact same
  | inr renamed =>
      have mapped := (visits.entries kiroName use.name).mp renamed
      exact absurd member (apart kiroName use.name mapped)

/-- Which names are in the map does not depend on the order. -/
theorem unmapped_same (first second : NameMap) (firstVisits : Visits first declaration.nameMap)
    (secondVisits : Visits second declaration.nameMap) (declares : declaration.tools ≠ [])
    (name : GoString)
    (unmapped : (structuredToolHistoryNames true declaration.tools first).lookup name = none) :
    (structuredToolHistoryNames true declaration.tools second).lookup name = none := by
  have before := history_names declaration first firstVisits declares
  have after := history_names declaration second secondVisits declares
  rw [Option.eq_none_iff_forall_ne_some]
  intro kiroName found
  obtain ⟨member, origin⟩ := after.sound name kiroName found
  have known : ∃ other, (structuredToolHistoryNames true declaration.tools first).lookup name =
      some other := by
    cases origin with
    | inl same =>
        rw [same] at member
        exact before.kiro name member
    | inr renamed =>
        have mapped := (secondVisits.entries kiroName name).mp renamed
        obtain ⟨other, looked, _⟩ :=
          before.client (kiroName, name) ((firstVisits.entries kiroName name).mpr mapped)
        exact ⟨other, looked⟩
  obtain ⟨other, looked⟩ := known
  rw [unmapped] at looked
  exact absurd looked (by simp)

/-- A rewritten call stays as it is under every order of a map without collisions. -/
theorem rewritten_fixed (first second : NameMap) (firstVisits : Visits first declaration.nameMap)
    (secondVisits : Visits second declaration.nameMap) (declares : declaration.tools ≠ [])
    (apart : NamesApart declaration) (use : KiroToolUse) :
    let rewritten := renameUse (structuredToolHistoryNames true declaration.tools first) use
    renameUse (structuredToolHistoryNames true declaration.tools second) rewritten =
      rewritten := by
  intro rewritten
  have names := history_names declaration first firstVisits declares
  cases found : (structuredToolHistoryNames true declaration.tools first).lookup use.name with
  | none =>
      have same : rewritten = use := by
        rw [rename_use_name, found]
        simp
      rw [same, rename_use_name,
        unmapped_same first second firstVisits secondVisits declares use.name found]
      simp
  | some kiroName =>
      have member := (names.sound use.name kiroName found).1
      have present := declaration.named kiroName member
      apply kiro_name_fixed second secondVisits declares apart
      have named : rewritten.name = kiroName := by
        simp [rewritten, renameUse, found, present]
      rw [named]
      exact member

theorem history_names_off (enabled : Bool) (tools : List KiroToolWrapper) (order : NameMap)
    (off : enabled = false ∨ tools = []) : structuredToolHistoryNames enabled tools order = [] := by
  unfold structuredToolHistoryNames
  cases off with
  | inl disabled => simp [disabled]
  | inr empty => simp [empty]

theorem stable_of_apart (apart : NamesApart declaration) : StableRewriting declaration := by
  intro enabled first second firstVisits secondVisits history turns ids laterIds settled
  by_cases off : enabled = false ∨ declaration.tools = []
  · rw [history_names_off enabled _ second off]
    exact rewrites_nothing_nil _ laterIds
  · rw [not_or, Bool.not_eq_false] at off
    obtain ⟨on, declares⟩ := off
    rw [on, rewrites_nothing_iff]
    intro use member
    have given := (kept_calls _ laterIds _).subset member
    unfold calls at given
    rw [List.flatMap_append, List.mem_append] at given
    cases given with
    | inl rewritten =>
        change use ∈ calls _ at rewritten
        rw [sanitize_for_tools_kept, renamed_calls, List.mem_map] at rewritten
        obtain ⟨original, _, same⟩ := rewritten
        rw [← same]
        exact rewritten_fixed first second firstVisits secondVisits declares apart original
    | inr new =>
        exact kiro_name_fixed second secondVisits declares apart use (settled use new)

/-- A user's turn, one call and its answer. -/
def singleCall (name : GoString) : History :=
  [⟨some ⟨lit "go", [], [], [], [], none⟩, none⟩,
    ⟨none, some ⟨[], [⟨lit "t", name, []⟩]⟩⟩,
    ⟨some ⟨[], [], [], [], [], some ⟨[], [⟨lit "t", [], []⟩]⟩⟩, none⟩]

theorem single_call_kept (name kiroName : GoString) (declared : NameMap)
    (found : declared.lookup name = some kiroName) (present : kiroName ≠ []) :
    ⟨lit "t", name, []⟩ ∈ calls (keptToolHistory (singleCall name) [] declared) := by
  let turn : KiroHistoryMessage := ⟨some ⟨lit "go", [], [], [], [], none⟩, none⟩
  let call : KiroHistoryMessage := ⟨none, some ⟨[], [⟨lit "t", name, []⟩]⟩⟩
  let answer : KiroHistoryMessage :=
    ⟨some ⟨[], [], [], [], [], some ⟨[], [⟨lit "t", [], []⟩]⟩⟩, none⟩
  have sided : OneSided ([turn, call] ++ [answer]) := by
    intro msg member
    simp only [List.cons_append, List.nil_append, List.mem_cons, List.not_mem_nil,
      or_false] at member
    rcases member with same | same | same
    · exact Or.inr (by rw [same])
    · exact Or.inl (by rw [same])
    · exact Or.inr (by rw [same])
  have starts : StartsWithUser ([turn, call] ++ [answer]) := by
    intro msg member
    rw [← Option.some.inj member]
  have some_ : declared ≠ [] := by
    intro empty
    rw [empty] at found
    exact absurd found (by simp)
  have matched : toolPairMatches [⟨lit "t", name, []⟩] [⟨lit "t", [], []⟩] (some declared) =
      true := by
    have id : lit "t" ≠ [] := by decide
    simp [toolPairMatches, distinctIDs, answersAll, found, present, id]
  have kept := kept_exchanges [] [turn, call] answer declared some_ sided starts []
  have exchanged : exchanges [turn, call] (toolResults answer) =
      [([⟨lit "t", name, []⟩], [⟨lit "t", [], []⟩])] := rfl
  rw [exchanged, List.filter_cons, if_pos matched] at kept
  have member := kept.subset List.mem_cons_self
  exact (exchange_calls _ _ _ member).subset List.mem_cons_self

theorem sanitize_for_tools_nil (ids : List GoString) (declared : NameMap) :
    sanitizeKiroHistoryForTools [] ids declared = [] := by
  unfold sanitizeKiroHistoryForTools
  split_ifs
  · rfl
  · rfl

theorem apart_of_stable (stable : StableRewriting declaration) : NamesApart declaration := by
  intro kiroName clientName mapped member
  have visits := range_order_visits declaration.nameMap
  have declares : declaration.tools ≠ [] := by
    intro empty
    rw [empty] at member
    exact absurd member (by simp [kiroNames])
  have names := history_names declaration (rangeOrder declaration.nameMap) visits declares
  obtain ⟨other, found, among⟩ :=
    names.client (kiroName, clientName) ((visits.entries kiroName clientName).mpr mapped)
  have renamed := declaration.mapped other clientName ((visits.entries other clientName).mp among)
  have present := declaration.named other renamed.1
  have kept := stable true _ _ visits visits [] (singleCall clientName) [] []
    (by
      intro use inside
      simp only [singleCall, calls, toolUses, List.flatMap_cons, List.flatMap_nil,
        List.append_nil, List.nil_append, List.mem_singleton] at inside
      rw [inside]
      exact member)
  rw [sanitize_for_tools_nil, List.nil_append, rewrites_nothing_iff] at kept
  have fixed := kept _ (single_call_kept clientName other _ found present)
  rw [rename_use_name] at fixed
  exact renamed.2 (fixed other found present)

theorem rewriting_stable_iff (declaration : ToolDeclaration) :
    StableRewriting declaration ↔ NamesApart declaration :=
  ⟨apart_of_stable, stable_of_apart⟩

/-- The hosted search is declared first, under the name of the client's own function. -/
def searchTools : List OpenAITool :=
  [⟨lit "web_search", [], [], .null⟩, ⟨lit "function", lit "webSearch", [], .null⟩]

theorem search_call_renamed :
    ¬∀ declaration : ToolDeclaration, StableRewriting declaration := by
  intro stable
  have apart := apart_of_stable (stable (openAIDeclaration asciiLetters searchTools))
  have mapped : (openAIDeclaration asciiLetters searchTools).nameMap.lookup (lit "webSearch2") =
      some (lit "webSearch") := by decide
  have declared : lit "webSearch" ∈ kiroNames (openAIDeclaration asciiLetters searchTools).tools := by
    decide
  exact apart (lit "webSearch2") (lit "webSearch") mapped declared

end Stability

end KiroProxy.ToolDeclarations
