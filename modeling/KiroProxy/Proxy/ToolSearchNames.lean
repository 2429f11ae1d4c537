import KiroProxy.Proxy.OpenAIToolNames
import KiroProxy.Proxy.ToolIdentityTrips

/-!
# Names of loaded tools

A tool search of the client loads tools that are declared along with the others of the request.
`toolSearchOutputText` of `proxy/responses_tools.go` says what they are called, and
`convertResponsesTools` of `proxy/responses.go` with the conversion behind it decides what they
are declared as.
-/

namespace KiroProxy.Responses

open Decimals GoStrings KiroTypes OpenAITools
open ToolDeclarations (kiroNames)
open ToolNames

set_option autoImplicit false

section Requests

/-- What `openAIToolChoice` makes of a valid choice. -/
inductive ToolChoice where
  | auto
  | none
  | any
  | tool (name : GoString)

/-- An input item with tools; `search` marks the output of a tool search that is shown to the
model. -/
structure InputTools where
  search : Bool
  tools : List ResponsesTool

structure ToolRequest where
  tools : List ResponsesTool
  items : List InputTools
  choice : ToolChoice

def ToolRequest.declarations (request : ToolRequest) : List ResponsesTool :=
  request.tools ++ request.items.flatMap InputTools.tools

variable (letters : Letters) (canonical : ConvertedTool → GoString)

/-- A name that is declared twice has to be declared alike; `canonical` is
`canonicalizeCacheValue`. -/
def addConverted (result : List ConvertedTool) (item : ConvertedTool) :
    Except GoString (List ConvertedTool) :=
  match result.find? fun prior => prior.name == item.name with
  | some prior =>
      if canonical prior ≠ canonical item then
        .error (lit "conflicting Responses tool declarations: " ++ item.name)
      else .ok result
  | none => .ok (result ++ [item])

def convertDeclarations (result : List ConvertedTool) :
    List ResponsesTool → Except GoString (List ConvertedTool)
  | [] => .ok result
  | tool :: tools => do
      let converted ← convertResponsesTool letters [] tool
      let result ← converted.foldlM (addConverted canonical) result
      convertDeclarations result tools

def convertResponsesTools (tools : List ResponsesTool) (choice : ToolChoice) :
    Except GoString (List ConvertedTool) :=
  match choice with
  | .none => .ok []
  | _ => convertDeclarations letters canonical [] tools

/-- The tools of an OpenAI request that are declared to Kiro. -/
def chosenTools (choice : ToolChoice) (tools : List ConvertedTool) : List ConvertedTool :=
  match choice with
  | .none => []
  | .tool name => tools.filter fun tool => tool.name == name
  | _ => tools

def prepareTools (request : ToolRequest) : Except GoString (List ConvertedTool) :=
  match (responsesToolIdentities letters request.declarations).conflict with
  | some message => .error message
  | none => convertResponsesTools letters canonical request.declarations request.choice

/-- A request that is accepted. -/
structure PreparedTools where
  request : ToolRequest
  converted : List ConvertedTool
  prepared : prepareTools letters canonical request = .ok converted

end Requests

section Texts

variable (letters : Letters)

def loadedKeys (tools : List ResponsesTool) : List GoString :=
  ((responsesToolIdentities letters tools).result.map Prod.fst).eraseDups

/-- The text that lists names, in order. -/
def searchText (names : List GoString) : GoString :=
  if names = [] then lit "No matching tools found."
  else lit "Loaded tools, now callable: " ++
    List.intercalate (lit ", ") (names.mergeSort fun left right => decide (left ≤ right))

theorem search_text_names (decodeTools : Json → List ResponsesTool) (raw : Json) :
    toolSearchOutputText letters decodeTools raw =
      searchText ((loadedKeys letters (decodeTools raw)).map kiroToolName) := by
  unfold toolSearchOutputText searchText loadedKeys
  cases (responsesToolIdentities letters (decodeTools raw)).result with
  | nil => rfl
  | cons first rest =>
      have some_ : ((first :: rest).map Prod.fst).eraseDups.map kiroToolName ≠ [] := by
        rw [List.map_cons, List.eraseDups_cons, List.map_cons]
        exact List.cons_ne_nil _ _
      simp only [List.isEmpty_cons, Bool.false_eq_true, if_false, if_neg some_]

end Texts

section Converted

variable (letters : Letters) (canonical : ConvertedTool → GoString)

/-- What every converted tool is. -/
structure FunctionTool (tool : ConvertedTool) : Prop where
  function : tool.type = lit "function"
  trimmed : trimSpace tool.name = tool.name
  named : tool.name ≠ []

theorem qualified_name_ne_nil (namespace_ name : GoString) (named : trimSpace name ≠ []) :
    qualifiedResponsesToolName namespace_ name ≠ [] := by
  unfold qualifiedResponsesToolName
  simp only
  split_ifs with alone
  · exact named
  · exact named
  · exact List.append_ne_nil_of_left_ne_nil
      (List.append_ne_nil_of_left_ne_nil alone _) _

theorem specification_function (namespace_ : GoString) (hosted : Bool)
    (tool : ToolSpecification) :
    ConvertsTo FunctionTool (convertSpecification namespace_ hosted tool) := by
  intro tools same converted member
  unfold convertSpecification at same
  simp only at same
  split_ifs at same with blank
  rw [← Except.ok.inj same, List.mem_singleton] at member
  rw [member]
  refine ⟨rfl, qualified_name_trimmed namespace_ _, ?_⟩
  exact qualified_name_ne_nil namespace_ _ (by rwa [trim_space_twice])

/-- What the conversion keeps of the tools it has so far. -/
structure Distinct (tools : List ConvertedTool) : Prop where
  names : (tools.map fun tool => tool.name).Nodup
  functions : ∀ tool ∈ tools, FunctionTool tool

theorem add_converted_distinct (result next : List ConvertedTool) (item : ConvertedTool)
    (distinct : Distinct result) (function : FunctionTool item)
    (added : addConverted canonical result item = .ok next) : Distinct next := by
  unfold addConverted at added
  cases known : result.find? fun prior => prior.name == item.name with
  | some prior =>
      rw [known] at added
      simp only at added
      split_ifs at added
      rwa [← Except.ok.inj added]
  | none =>
      rw [known] at added
      rw [← Except.ok.inj added]
      rw [List.find?_eq_none] at known
      constructor
      · rw [List.map_append, List.nodup_append]
        refine ⟨distinct.names, List.nodup_singleton _, ?_⟩
        intro name member other new same
        obtain ⟨tool, inside, rfl⟩ := List.mem_map.mp member
        rw [List.map_singleton, List.mem_singleton] at new
        exact known tool inside (by rw [same, new, beq_self_eq_true])
      · intro tool member
        cases List.mem_append.mp member with
        | inl old => exact distinct.functions tool old
        | inr new => rwa [List.mem_singleton.mp new]

theorem add_all_distinct (items result next : List ConvertedTool) (distinct : Distinct result)
    (functions : ∀ item ∈ items, FunctionTool item)
    (added : items.foldlM (addConverted canonical) result = .ok next) : Distinct next := by
  induction items generalizing result with
  | nil =>
      rw [← Except.ok.inj added]
      exact distinct
  | cons item items ih =>
      rw [List.foldlM_cons] at added
      cases first : addConverted canonical result item with
      | error message =>
          rw [first] at added
          cases added
      | ok middle =>
          rw [first] at added
          apply ih middle _ (fun other member => functions other (List.mem_cons_of_mem _ member))
            added
          exact add_converted_distinct canonical result middle item distinct
            (functions item List.mem_cons_self) first

theorem convert_declarations_distinct (tools : List ResponsesTool)
    (result next : List ConvertedTool) (distinct : Distinct result)
    (converted : convertDeclarations letters canonical result tools = .ok next) :
    Distinct next := by
  induction tools generalizing result with
  | nil =>
      rw [convertDeclarations] at converted
      rw [← Except.ok.inj converted]
      exact distinct
  | cons tool tools ih =>
      rw [convertDeclarations] at converted
      cases first : convertResponsesTool letters [] tool with
      | error message =>
          rw [first] at converted
          cases converted
      | ok items =>
          rw [first] at converted
          have functions := converted_tool_holds letters FunctionTool specification_function
            [] tool items first
          cases added : items.foldlM (addConverted canonical) result with
          | error message =>
              simp only [bind, Except.bind, added] at converted
              cases converted
          | ok middle =>
              simp only [bind, Except.bind, added] at converted
              exact ih middle
                (add_all_distinct canonical items result middle distinct functions added) converted

theorem distinct_nil : Distinct [] := ⟨List.nodup_nil, by simp⟩

theorem prepared_distinct (prepared : PreparedTools letters canonical) :
    Distinct prepared.converted := by
  have accepted := prepared.prepared
  unfold prepareTools at accepted
  cases conflict : (responsesToolIdentities letters prepared.request.declarations).conflict with
  | some message =>
      rw [conflict] at accepted
      cases accepted
  | none =>
      rw [conflict] at accepted
      simp only [convertResponsesTools] at accepted
      cases choice : prepared.request.choice with
      | none =>
          rw [choice] at accepted
          rw [← Except.ok.inj accepted]
          exact distinct_nil
      | _ =>
          rw [choice] at accepted
          exact convert_declarations_distinct letters canonical _ [] _ distinct_nil accepted

theorem chosen_distinct (choice : ToolChoice) (tools : List ConvertedTool)
    (distinct : Distinct tools) : Distinct (chosenTools choice tools) := by
  cases choice with
  | none => exact distinct_nil
  | tool name =>
      constructor
      · exact (List.filter_sublist.map _).nodup distinct.names
      · exact fun tool member => distinct.functions tool (List.mem_of_mem_filter member)
  | _ => exact distinct

end Converted

section Declared

variable {letters : Letters} {canonical : ConvertedTool → GoString}

def kiroTools (letters : Letters) (tools : List ConvertedTool) : List KiroToolWrapper :=
  (convertOpenAITools letters (tools.map ConvertedTool.toOpenAITool)).1

def PreparedTools.chosen (prepared : PreparedTools letters canonical) : List ConvertedTool :=
  chosenTools prepared.request.choice prepared.converted

/-- The declared Kiro names, each with the name of its tool. -/
def PreparedTools.declaredNames (prepared : PreparedTools letters canonical) : NameMap :=
  (kiroNames (kiroTools letters prepared.chosen)).zip (prepared.chosen.map fun tool => tool.name)

/-- A key of a tool that a search of the request loads. -/
def ToolRequest.Loads (letters : Letters) (request : ToolRequest) (key : GoString) : Prop :=
  ∃ item ∈ request.items, item.search = true ∧ key ∈ loadedKeys letters item.tools

/-- The listed names are the declared ones, and tell the loaded tools apart. -/
structure ListsDeclaredNames (prepared : PreparedTools letters canonical) : Prop where
  declared : ∀ key, prepared.request.Loads letters key →
    (kiroToolName key, key) ∈ prepared.declaredNames
  apart : ∀ first second, prepared.request.Loads letters first →
    prepared.request.Loads letters second → kiroToolName first = kiroToolName second →
    first = second

/-- Each loaded tool is declared, and no tool before it has taken its Kiro name. -/
def LoadedNamesFree (prepared : PreparedTools letters canonical) : Prop :=
  ∀ key, prepared.request.Loads letters key →
    ∃ before tool after, prepared.chosen = before ++ tool :: after ∧ tool.name = key ∧
      trimSpace (kiroToolName key) ≠ [] ∧
      kiroToolName key ∉ kiroNames (kiroTools letters before)

theorem function_not_hosted (letters : Letters) :
    isHostedWebSearchToolType letters (lit "function") = false := by
  have trimmed : trimSpace (lit "function") = lit "function" := by decide
  have lower : letters.toLower (lit "function") = lit "function" := by
    rw [letters.lower_ascii _ (ascii_bytes _ (by decide))]
    decide
  rw [isHostedWebSearchToolType, trimmed, lower]
  decide

theorem function_origins (tools : List ConvertedTool)
    (functions : ∀ tool ∈ tools, FunctionTool tool) :
    origins letters tools = tools.map fun tool => .function tool.hostedWebSearch tool.name := by
  have each : ∀ tool ∈ tools, originOf letters tool =
      some (.function tool.hostedWebSearch tool.name) := by
    intro tool member
    obtain ⟨type, trimmed, named⟩ := functions tool member
    rw [originOf, type, function_not_hosted, if_neg Bool.false_ne_true, if_neg (not_not.mpr rfl),
      trimmed, if_neg named]
  unfold origins
  induction tools with
  | nil => rfl
  | cons tool tools ih =>
      rw [List.filterMap_cons_some (each tool List.mem_cons_self), List.map_cons,
        ih (fun other member => functions other (List.mem_cons_of_mem _ member))
          (fun other member => each other (List.mem_cons_of_mem _ member))]

theorem kiro_names_assigned (tools : List ConvertedTool) :
    kiroNames (kiroTools letters tools) = assignNames [] (origins letters tools) := by
  rw [kiroTools, convertOpenAITools]
  simp only [convert_fold_names]
  rfl

/-- Functions never share a Kiro name. -/
theorem functions_distinct (letters : Letters) (tools : List ConvertedTool)
    (functions : ∀ tool ∈ tools, FunctionTool tool) :
    (kiroNames (kiroTools letters tools)).Nodup := by
  rw [kiro_names_assigned, assigned_distinct_iff, function_origins tools functions]
  intro before after split
  have member : Origin.search ∈ before ++ Origin.search :: after :=
    List.mem_append_right _ List.mem_cons_self
  rw [← split, List.mem_map] at member
  obtain ⟨tool, _, same⟩ := member
  exact absurd same (by simp)

/-- Where a tool stands between others, its name is what is free then. -/
theorem kiro_names_split (letters : Letters) (before after : List ConvertedTool)
    (tool : ConvertedTool)
    (functions : ∀ other ∈ before ++ tool :: after, FunctionTool other) :
    ∃ rest, kiroNames (kiroTools letters (before ++ tool :: after)) =
      kiroNames (kiroTools letters before) ++
        uniqueKiroToolName (kiroToolName tool.name)
          (kiroNames (kiroTools letters before)).reverse :: rest := by
  have parts : origins letters (before ++ tool :: after) = origins letters before ++
      .function tool.hostedWebSearch tool.name :: origins letters after := by
    rw [function_origins _ functions,
      function_origins before fun other member => functions other (List.mem_append_left _ member),
      function_origins after fun other member =>
        functions other (List.mem_append_right _ (List.mem_cons_of_mem _ member)),
      List.map_append, List.map_cons]
  rw [kiro_names_assigned, kiro_names_assigned, parts, assign_append, assignNames, claimName,
    List.append_nil]
  exact ⟨_, rfl⟩

theorem numbered_not_blank (name : GoString) (number : Nat) :
    trimSpace (numberedName name number) ≠ [] := by
  have spaces : (spaceRunes.all fun rune => rune.all fun byte => !isDigit byte) = true := by decide
  obtain ⟨byte, inside⟩ := List.exists_mem_of_ne_nil (decimal number)
    (written_number_ne_nil number)
  have kept := mem_trim_space (numberedName name number) byte
    (by
      intro rune member held
      have digit := decimal_digits number byte inside
      have plain := List.all_eq_true.mp (List.all_eq_true.mp spaces rune member) byte held
      rw [digit] at plain
      exact Bool.false_ne_true plain)
    (by
      rw [numbered_decimal]
      exact List.mem_append_right _ inside)
  exact List.ne_nil_of_mem kept

/-- A name is kept when it is one and is free. -/
theorem unique_name_kept_iff (name : GoString) (used : List GoString) :
    uniqueKiroToolName name used = name ↔ trimSpace name ≠ [] ∧ name ∉ used := by
  by_cases blank : trimSpace name = []
  · have replaced : presentName name = lit "tool" := if_pos blank
    refine iff_of_false ?_ (fun both => both.1 blank)
    intro same
    cases unique_name_cases name used with
    | inl kept =>
        rw [kept.2, replaced] at same
        rw [← same] at blank
        exact absurd blank (by decide)
    | inr numbered =>
        obtain ⟨_, number, _, found⟩ := numbered
        rw [found] at same
        rw [← same] at blank
        exact numbered_not_blank _ number blank
  · have present : presentName name = name := if_neg blank
    have cases_ := unique_name_cases name used
    rw [present] at cases_
    constructor
    · intro same
      refine ⟨blank, ?_⟩
      cases cases_ with
      | inl kept => exact kept.1
      | inr numbered =>
          obtain ⟨_, number, first, found⟩ := numbered
          rw [same] at found
          rw [found]
          exact first.free
    · intro free
      cases cases_ with
      | inl kept => exact kept.2
      | inr numbered => exact absurd numbered.1 free.2

theorem zip_at_split {Name Client : Type} (names frontNames rest : List Name) (name : Name)
    (clients frontClients later : List Client) (client : Client)
    (namesSplit : names = frontNames ++ name :: rest)
    (clientsSplit : clients = frontClients ++ client :: later)
    (aligned : frontNames.length = frontClients.length) : (name, client) ∈ names.zip clients := by
  rw [namesSplit, clientsSplit, List.zip_append aligned, List.zip_cons_cons]
  exact List.mem_append_right _ List.mem_cons_self

variable (prepared : PreparedTools letters canonical)

theorem chosen_functions : ∀ tool ∈ prepared.chosen, FunctionTool tool :=
  (chosen_distinct _ _ (prepared_distinct letters canonical prepared)).functions

theorem declared_aligned (letters : Letters) (tools : List ConvertedTool)
    (functions : ∀ tool ∈ tools, FunctionTool tool) :
    (kiroNames (kiroTools letters tools)).length = tools.length := by
  rw [kiro_names_assigned, assign_length, function_origins tools functions, List.length_map]

/-- The entry of a declared tool. -/
theorem declared_entry (before after : List ConvertedTool) (tool : ConvertedTool)
    (split : prepared.chosen = before ++ tool :: after) :
    (uniqueKiroToolName (kiroToolName tool.name) (kiroNames (kiroTools letters before)).reverse,
      tool.name) ∈ prepared.declaredNames := by
  have functions := chosen_functions prepared
  rw [split] at functions
  obtain ⟨rest, names⟩ := kiro_names_split letters before after tool functions
  have aligned := declared_aligned letters before
    fun other member => functions other (List.mem_append_left _ member)
  rw [PreparedTools.declaredNames, split]
  refine zip_at_split _ _ rest _ _ (before.map fun tool => tool.name)
    (after.map fun tool => tool.name) _ names ?_ ?_
  · rw [List.map_append, List.map_cons]
  · rw [aligned, List.length_map]

/-- One Kiro name belongs to one tool, and one tool has one Kiro name. -/
theorem declared_name_client (name : GoString) (first second : GoString)
    (firstMember : (name, first) ∈ prepared.declaredNames)
    (secondMember : (name, second) ∈ prepared.declaredNames) : first = second := by
  have distinct := functions_distinct letters prepared.chosen
    (chosen_functions prepared)
  have keys : prepared.declaredNames.map Prod.fst =
      kiroNames (kiroTools letters prepared.chosen) := by
    apply List.map_fst_zip
    rw [declared_aligned letters prepared.chosen (chosen_functions prepared), List.length_map]
  rw [← keys] at distinct
  have found := lookup_distinct _ distinct name first firstMember
  rw [lookup_distinct _ distinct name second secondMember] at found
  exact (Option.some.inj found).symm

theorem declared_client_name (client : GoString) (first second : GoString)
    (firstMember : (first, client) ∈ prepared.declaredNames)
    (secondMember : (second, client) ∈ prepared.declaredNames) : first = second := by
  have distinct := (chosen_distinct prepared.request.choice _
    (prepared_distinct letters canonical prepared)).names
  let swapped := prepared.declaredNames.map Prod.swap
  have keys : swapped.map Prod.fst = prepared.chosen.map fun tool => tool.name := by
    rw [List.map_map]
    have second : Prod.fst ∘ Prod.swap = (Prod.snd : GoString × GoString → GoString) := rfl
    rw [second]
    apply List.map_snd_zip
    rw [declared_aligned letters prepared.chosen (chosen_functions prepared), List.length_map]
  have unique : (swapped.map Prod.fst).Nodup := by
    rw [keys]
    exact distinct
  have found := lookup_distinct swapped unique client first
    (List.mem_map.mpr ⟨_, firstMember, rfl⟩)
  rw [lookup_distinct swapped unique client second
    (List.mem_map.mpr ⟨_, secondMember, rfl⟩)] at found
  exact (Option.some.inj found).symm

theorem loaded_declared_iff (key : GoString) :
    (kiroToolName key, key) ∈ prepared.declaredNames ↔
      ∃ before tool after, prepared.chosen = before ++ tool :: after ∧ tool.name = key ∧
        trimSpace (kiroToolName key) ≠ [] ∧
        kiroToolName key ∉ kiroNames (kiroTools letters before) := by
  constructor
  · intro member
    have client := (List.of_mem_zip member).2
    obtain ⟨tool, inside, rfl⟩ := List.mem_map.mp client
    obtain ⟨before, after, split⟩ := List.append_of_mem inside
    have entry := declared_entry prepared before after tool split
    have same := declared_client_name prepared tool.name _ _ entry member
    obtain ⟨named, free⟩ := (unique_name_kept_iff _ _).mp same
    rw [List.mem_reverse] at free
    exact ⟨before, tool, after, split, rfl, named, free⟩
  · rintro ⟨before, tool, after, split, rfl, named, free⟩
    have entry := declared_entry prepared before after tool split
    rw [← List.mem_reverse] at free
    rwa [(unique_name_kept_iff _ _).mpr ⟨named, free⟩] at entry

theorem lists_of_free (free : LoadedNamesFree prepared) : ListsDeclaredNames prepared := by
  have declared : ∀ key, prepared.request.Loads letters key →
      (kiroToolName key, key) ∈ prepared.declaredNames :=
    fun key loaded => (loaded_declared_iff prepared key).mpr (free key loaded)
  refine ⟨declared, ?_⟩
  intro first second firstLoaded secondLoaded same
  have entry := declared first firstLoaded
  rw [same] at entry
  exact declared_name_client prepared _ first second entry (declared second secondLoaded)

/-- The text of a search lists the Kiro names of the keys, and these are the names of callable
tools exactly when every loaded tool is declared and its Kiro name is free at its turn. -/
theorem loaded_names_declared_iff :
    (∀ (decodeTools : Json → List ResponsesTool) (raw : Json),
      toolSearchOutputText letters decodeTools raw =
        searchText ((loadedKeys letters (decodeTools raw)).map kiroToolName)) ∧
    (ListsDeclaredNames prepared ↔ LoadedNamesFree prepared) := by
  constructor
  · exact search_text_names letters
  · constructor
    · intro lists key loaded
      exact (loaded_declared_iff prepared key).mp (lists.declared key loaded)
    · exact lists_of_free prepared

def plainFunction (name : GoString) : ResponsesTool :=
  .declare ⟨lit "function", [], name, [], .null, [], ⟨[], [], .null⟩⟩ []

def plainConverted (name : GoString) : ConvertedTool where
  type := lit "function"
  name := name
  description := []
  parameters := .obj [(lit "type", .str (lit "object")), (lit "properties", .obj [])]
  hostedWebSearch := false

/-- The loaded tool has the Kiro name of a declared one. -/
def clashingTools : PreparedTools asciiLetters fun tool => tool.name where
  request :=
    { tools := [plainFunction (lit "a_b")]
      items := [⟨true, [plainFunction (lit "aB")]⟩]
      choice := .auto }
  converted := [plainConverted (lit "a_b"), plainConverted (lit "aB")]
  prepared := rfl

/-- The listed name calls the other tool. -/
theorem listed_name_calls_another :
    (lit "aB", lit "a_b") ∈ clashingTools.declaredNames ∧ ¬ListsDeclaredNames clashingTools := by
  constructor
  · decide
  · intro lists
    have entry := lists.declared (lit "aB")
      ⟨⟨true, [plainFunction (lit "aB")]⟩, List.mem_singleton_self _, rfl, by decide⟩
    have absent : (kiroToolName (lit "aB"), lit "aB") ∉ clashingTools.declaredNames := by decide
    exact absent entry

end Declared

end KiroProxy.Responses
