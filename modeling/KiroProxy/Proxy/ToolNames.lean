import KiroProxy.Proxy.KiroTypes
import KiroProxy.Proxy.ToolSchema
import Mathlib.Data.List.Forall2

/-!
# Tool names of Claude requests

A transcription of the tool conversion in `proxy/translator.go`, with the native
web-search tool of `proxy/claude_websearch.go`. Kiro takes short names without
separators, so a client's name is rewritten and the name map takes a call made
under the Kiro name back to the client's tool. The conversion does not make names
unique; the last section says which client names meet in one Kiro name.
-/

namespace KiroProxy.ToolNames

open GoStrings KiroTypes ToolSchema

set_option autoImplicit false

structure ClaudeTool where
  type : GoString
  name : GoString
  description : GoString
  inputSchema : Json
  maxUses : Int

/-- Kiro names with the client names they stand for; a later entry shadows. -/
abbrev NameMap := List (GoString × GoString)

def maxToolDescLen : Nat := 10237

def webSearchToolName : GoString := lit "web_search"

def separator (byte : UInt8) : Bool := byte == 0x5F || byte == 0x2D

def capitalizePart (index : Nat) (part : GoString) : GoString :=
  match part with
  | [] => []
  | first :: rest => (if index = 0 then toLowerOne first else toUpperOne first) ++ rest

def joinParts (index : Nat) : List GoString → GoString
  | [] => []
  | part :: parts => capitalizePart index part ++ joinParts (index + 1) parts

def sanitizeToolName (name : GoString) : GoString :=
  let parts := fieldsFunc separator name
  if parts = [] then lit "tool"
  else
    let result := joinParts 0 parts
    if result = [] then lit "tool" else result

def shortenToolName (name : GoString) : GoString :=
  if name.length ≤ 64 then name
  else if (lit "mcp__").isPrefixOf name then
    match lastIndex name (lit "__") with
    | some lastIdx =>
        if 5 < lastIdx ∧ (lit "mcp__" ++ name.drop (lastIdx + 2)).length ≤ 64 then
          lit "mcp__" ++ name.drop (lastIdx + 2)
        else name.take 64
    | none => name.take 64
  else name.take 64

def kiroToolName (name : GoString) : GoString := shortenToolName (sanitizeToolName name)

/-- Only an ASCII letter folds to a letter of the prefix. -/
def isNativeWebSearchTool (tool : ClaudeTool) : Bool :=
  trimSpace tool.name == webSearchToolName &&
    (lit "web_search_").isPrefixOf ((trimSpace tool.type).map lowerByte)

def hasNativeWebSearchTool (tools : List ClaudeTool) : Bool :=
  tools.any isNativeWebSearchTool

def clientToolShadowsWebSearch (tools : List ClaudeTool) : Bool :=
  tools.any (fun tool => !isNativeWebSearchTool tool &&
    kiroToolName tool.name == kiroToolName webSearchToolName)

def webSearchInputSchema : Json :=
  .obj [(lit "type", .str (lit "object")),
    (lit "properties", .obj [(lit "query", .obj [(lit "type", .str (lit "string")),
      (lit "description", .str (lit "Search query"))])]),
    (lit "required", .arr [.str (lit "query")])]

def kiroWebSearchTool : ClaudeTool where
  type := []
  name := webSearchToolName
  description := lit "Search the web for current information."
  inputSchema := webSearchInputSchema
  maxUses := 0

def clientTools (tools : List ClaudeTool) : List ClaudeTool :=
  tools.filter (fun tool => !isNativeWebSearchTool tool)

def withKiroWebSearchTool (tools : List ClaudeTool) : List ClaudeTool :=
  if !hasNativeWebSearchTool tools then tools
  else if clientToolShadowsWebSearch tools then clientTools tools
  else clientTools tools ++ [kiroWebSearchTool]

def normalizeToolDesc (desc name : GoString) : GoString :=
  if trimSpace desc ≠ [] then desc else lit "Tool: " ++ name

def convertTool (tool : ClaudeTool) : KiroToolWrapper :=
  let desc :=
    if maxToolDescLen < tool.description.length then
      tool.description.take maxToolDescLen ++ lit "..."
    else tool.description
  let sanitized := kiroToolName tool.name
  { name := sanitized
    description := normalizeToolDesc desc sanitized
    inputSchema := ensureObjectSchema tool.inputSchema }

def convertStep (state : List KiroToolWrapper × NameMap) (tool : ClaudeTool) :
    List KiroToolWrapper × NameMap :=
  let sanitized := kiroToolName tool.name
  (state.1 ++ [convertTool tool],
    if sanitized ≠ tool.name then (sanitized, tool.name) :: state.2 else state.2)

def convertClaudeTools (tools : List ClaudeTool) : List KiroToolWrapper × NameMap :=
  if tools = [] then ([], [])
  else (withKiroWebSearchTool tools).foldl convertStep ([], [])

/-- The client tool a call under a Kiro name is handed to. -/
def restoreToolName (nameMap : NameMap) (name : GoString) : GoString :=
  (nameMap.lookup name).getD name

section Spelling

/-- Where a name is being read: before its first letter, after a separator, or
inside a word. -/
inductive Place where
  | front
  | boundary
  | word
  deriving DecidableEq

def Place.separated : Place → Place
  | .front => .front
  | _ => .boundary

def Place.write (place : Place) (byte : UInt8) : GoString :=
  match place with
  | .front => toLowerOne byte
  | .boundary => toUpperOne byte
  | .word => [byte]

/-- The name without separators, with the byte after a separator in upper case and
the first byte in lower case. -/
def spelled (place : Place) : GoString → GoString
  | [] => []
  | byte :: text =>
      if separator byte then spelled place.separated text
      else place.write byte ++ spelled .word text

def spelledName (name : GoString) : GoString :=
  (if spelled .front name = [] then lit "tool" else spelled .front name).take 64

/-- The place before the part at the index when `current` of it has been read. -/
def placeOf (index : Nat) (current : GoString) : Place :=
  if current ≠ [] then .word else if index = 0 then .front else .boundary

theorem place_of_nil (index : Nat) :
    (placeOf index []).separated = placeOf index [] := by
  cases index <;> rfl

theorem place_of_read (index : Nat) (current : GoString) (read : current ≠ []) :
    placeOf index current = .word := by
  simp [placeOf, read]

theorem capitalize_append (index : Nat) (current : GoString) (byte : UInt8) :
    capitalizePart index (current ++ [byte]) =
      capitalizePart index current ++ (placeOf index current).write byte := by
  cases current with
  | nil => cases index <;> simp [capitalizePart, placeOf, Place.write]
  | cons first rest => simp [capitalizePart, placeOf, Place.write]

theorem join_fields (index : Nat) (current text : GoString) :
    joinParts index (fieldsFrom separator current text) =
      capitalizePart index current ++ spelled (placeOf index current) text := by
  induction text generalizing index current with
  | nil =>
      by_cases empty : current = []
      · simp [fieldsFrom, empty, joinParts, capitalizePart, spelled]
      · simp [fieldsFrom, empty, joinParts, spelled]
  | cons byte text ih =>
      by_cases cut : separator byte = true
      · by_cases empty : current = []
        · rw [fieldsFrom, if_pos cut, if_pos empty, ih, empty, spelled, if_pos cut,
            place_of_nil]
        · rw [fieldsFrom, if_pos cut, if_neg empty, joinParts, ih, spelled, if_pos cut,
            place_of_read index current empty]
          rfl
      · have read : placeOf index (current ++ [byte]) = .word :=
          place_of_read index _ (by simp)
        rw [fieldsFrom, if_neg cut, ih, spelled, if_neg cut, capitalize_append, read,
          List.append_assoc]

theorem sanitize_spelled (name : GoString) :
    sanitizeToolName name =
      if spelled .front name = [] then lit "tool" else spelled .front name := by
  have joined : joinParts 0 (fieldsFunc separator name) = spelled .front name :=
    join_fields 0 [] name
  simp only [sanitizeToolName, joined]
  by_cases parts : fieldsFunc separator name = []
  · have empty : spelled .front name = [] := by
      rw [← joined, parts]
      rfl
    rw [if_pos parts, if_pos empty]
  · rw [if_neg parts]

theorem lower_byte_underscore (byte : UInt8) (other : byte ≠ 0x5F) :
    lowerByte byte ≠ 0x5F := by
  unfold lowerByte
  split_ifs with upper
  · intro same
    have value := congrArg UInt8.toNat same
    simp only [UInt8.le_iff_toNat_le, UInt8.toNat_add] at upper value
    simp at upper value
    omega
  · exact other

theorem upper_byte_underscore (byte : UInt8) (other : byte ≠ 0x5F) :
    upperByte byte ≠ 0x5F := by
  unfold upperByte
  split_ifs with lower
  · intro same
    have bound : (0x20 : UInt8) ≤ byte := UInt8.le_trans (by decide) lower.1
    have value := congrArg UInt8.toNat same
    rw [UInt8.toNat_sub_of_le byte 0x20 bound] at value
    simp only [UInt8.le_iff_toNat_le] at lower
    simp at lower value
    omega
  · exact other

theorem write_no_underscore (place : Place) (byte : UInt8) (kept : separator byte = false) :
    (0x5F : UInt8) ∉ place.write byte := by
  have other : byte ≠ 0x5F := by
    intro same
    rw [same] at kept
    exact absurd kept (by decide)
  cases place with
  | front =>
      simp only [Place.write, toLowerOne]
      split_ifs
      · simpa using (lower_byte_underscore byte other).symm
      · decide
  | boundary =>
      simp only [Place.write, toUpperOne]
      split_ifs
      · simpa using (upper_byte_underscore byte other).symm
      · decide
  | word => simpa [Place.write] using other.symm

theorem spelled_no_underscore (place : Place) (text : GoString) :
    (0x5F : UInt8) ∉ spelled place text := by
  induction text generalizing place with
  | nil => simp [spelled]
  | cons byte text ih =>
      rw [spelled]
      split_ifs with cut
      · exact ih _
      · rw [List.mem_append, not_or]
        exact ⟨write_no_underscore place byte (by simpa using cut), ih _⟩

/-- A sanitized name has no underscore left, so it is only ever cut. -/
theorem kiro_name_spelled (name : GoString) : kiroToolName name = spelledName name := by
  have plain : (0x5F : UInt8) ∉ sanitizeToolName name := by
    rw [sanitize_spelled]
    split_ifs
    · decide
    · exact spelled_no_underscore .front name
  have unprefixed : (lit "mcp__").isPrefixOf (sanitizeToolName name) = false := by
    cases prefixed : (lit "mcp__").isPrefixOf (sanitizeToolName name) with
    | false => rfl
    | true =>
        have member : (0x5F : UInt8) ∈ lit "mcp__" := by decide
        exact absurd ((List.isPrefixOf_iff_prefix.mp prefixed).subset member) plain
  have cut : kiroToolName name = (sanitizeToolName name).take 64 := by
    simp only [kiroToolName, shortenToolName, unprefixed, Bool.false_eq_true, if_false]
    split_ifs with short
    · exact (List.take_of_length_le short).symm
    · rfl
  rw [cut, sanitize_spelled, spelledName]

theorem kiro_name_short (name : GoString) : (kiroToolName name).length ≤ 64 := by
  rw [kiro_name_spelled, spelledName]
  exact List.length_take_le _ _

end Spelling

section Restoring

theorem convert_fold (tools : List ClaudeTool) (state : List KiroToolWrapper × NameMap) :
    (tools.foldl convertStep state).1 = state.1 ++ tools.map convertTool := by
  induction tools generalizing state with
  | nil => simp
  | cons tool tools ih => simp [ih, convertStep]

/-- A name none of the tools is declared under keeps its entry. -/
theorem lookup_fold_other (tools : List ClaudeTool) (state : List KiroToolWrapper × NameMap)
    (name : GoString) (absent : ∀ tool ∈ tools, kiroToolName tool.name ≠ name) :
    (tools.foldl convertStep state).2.lookup name = state.2.lookup name := by
  induction tools generalizing state with
  | nil => rfl
  | cons tool tools ih =>
      have apart := absent tool List.mem_cons_self
      rw [List.foldl_cons, ih _ (fun other member => absent other (List.mem_cons_of_mem _ member))]
      simp only [convertStep]
      split_ifs
      · have differ : (name == kiroToolName tool.name) = false := by
          simpa using Ne.symm apart
        rw [List.lookup_cons, differ]
      · rfl

/-- Under distinct Kiro names, each one is restored to the tool it was made from. -/
theorem restore_fold (tools : List ClaudeTool) (state : List KiroToolWrapper × NameMap)
    (distinct : tools.Pairwise (fun left right =>
      kiroToolName left.name ≠ kiroToolName right.name))
    (unused : ∀ tool ∈ tools, state.2.lookup (kiroToolName tool.name) = none)
    (tool : ClaudeTool) (member : tool ∈ tools) :
    restoreToolName (tools.foldl convertStep state).2 (kiroToolName tool.name) = tool.name := by
  induction tools generalizing state with
  | nil => simp at member
  | cons first tools ih =>
      rw [List.pairwise_cons] at distinct
      rw [List.foldl_cons]
      rcases List.mem_cons.mp member with same | later
      · subst same
        rw [restoreToolName, lookup_fold_other tools _ _
          (fun other present => Ne.symm (distinct.1 other present))]
        simp only [convertStep]
        split_ifs with renamed
        · simp
        · rw [unused tool List.mem_cons_self]
          simpa using renamed
      · apply ih
        · exact distinct.2
        · intro other present
          simp only [convertStep]
          split_ifs
          · have differ : (kiroToolName other.name == kiroToolName first.name) = false := by
              simpa using Ne.symm (distinct.1 other present)
            rw [List.lookup_cons, differ]
            exact unused other (List.mem_cons_of_mem _ present)
          · exact unused other (List.mem_cons_of_mem _ present)
        · exact later

/-- What the conversion returns: one declaration per tool, in order. -/
theorem convert_tools_fold (tools : List ClaudeTool) :
    convertClaudeTools tools = (withKiroWebSearchTool tools).foldl convertStep ([], []) := by
  unfold convertClaudeTools
  split_ifs with empty
  · simp [empty, withKiroWebSearchTool, hasNativeWebSearchTool]
  · rfl

theorem converted_names (tools : List ClaudeTool) :
    (convertClaudeTools tools).1.map KiroToolWrapper.name =
      (withKiroWebSearchTool tools).map (fun tool => kiroToolName tool.name) := by
  rw [convert_tools_fold, convert_fold, List.nil_append, List.map_map]
  rfl

/-- The declared Kiro names are distinct and short, and each is taken back to the
tool it was declared for. -/
structure RenamedWithoutCollision (tools : List ClaudeTool) : Prop where
  distinct : ((convertClaudeTools tools).1.map KiroToolWrapper.name).Nodup
  short : ∀ wrapper ∈ (convertClaudeTools tools).1, wrapper.name.length ≤ 64
  restored : List.Forall₂ (fun tool wrapper =>
      restoreToolName (convertClaudeTools tools).2 wrapper.name = tool.name)
    (withKiroWebSearchTool tools) (convertClaudeTools tools).1

/-- The declared names are distinct when the client's are: the native tool is only
declared if no client tool has taken its Kiro name. -/
theorem declared_distinct_iff (tools : List ClaudeTool) :
    ((convertClaudeTools tools).1.map KiroToolWrapper.name).Nodup ↔
      (clientTools tools).Pairwise (fun left right =>
        kiroToolName left.name ≠ kiroToolName right.name) := by
  rw [converted_names, withKiroWebSearchTool]
  have unfolded : ∀ list : List ClaudeTool,
      (list.map (fun tool => kiroToolName tool.name)).Nodup ↔
        list.Pairwise (fun left right => kiroToolName left.name ≠ kiroToolName right.name) :=
    fun list => List.pairwise_map
  rw [unfolded]
  split_ifs with plain shadowed
  · have all : clientTools tools = tools := by
      rw [clientTools, List.filter_eq_self]
      intro tool member
      simp only [hasNativeWebSearchTool, Bool.not_eq_true', List.any_eq_false] at plain
      simpa using plain tool member
    rw [all]
  · rfl
  · rw [List.pairwise_append]
    have free : ∀ tool ∈ clientTools tools,
        kiroToolName tool.name ≠ kiroToolName webSearchToolName := by
      intro tool member
      simp only [clientToolShadowsWebSearch, Bool.not_eq_true, List.any_eq_false] at shadowed
      rw [clientTools, List.mem_filter] at member
      simpa [member.2] using shadowed tool member.1
    constructor
    · exact fun both => both.1
    · intro distinct
      refine ⟨distinct, List.pairwise_singleton _ _, ?_⟩
      intro tool member other added
      rw [List.mem_singleton.mp added]
      exact free tool member

/-- Tool names come back to the client's tools exactly when no two of its tools have
the same spelling without separators. -/
theorem renamed_without_collision_iff (tools : List ClaudeTool) :
    RenamedWithoutCollision tools ↔
      (clientTools tools).Pairwise (fun left right =>
        spelledName left.name ≠ spelledName right.name) := by
  have spelling : ((clientTools tools).Pairwise (fun left right =>
      spelledName left.name ≠ spelledName right.name)) ↔
      ((convertClaudeTools tools).1.map KiroToolWrapper.name).Nodup := by
    rw [declared_distinct_iff]
    simp only [kiro_name_spelled]
  rw [spelling]
  constructor
  · exact fun renamed => renamed.distinct
  · intro distinct
    constructor
    · exact distinct
    · intro wrapper member
      have named : wrapper.name ∈ (convertClaudeTools tools).1.map KiroToolWrapper.name :=
        List.mem_map_of_mem member
      rw [converted_names] at named
      obtain ⟨tool, _, same⟩ := List.mem_map.mp named
      rw [← same]
      exact kiro_name_short tool.name
    · rw [convert_tools_fold, convert_fold, List.nil_append, List.forall₂_map_right_iff,
        List.forall₂_same]
      intro tool member
      rw [converted_names] at distinct
      exact restore_fold (withKiroWebSearchTool tools) ([], []) (List.pairwise_map.mp distinct)
        (fun _ _ => rfl) tool member

def snakeTool : ClaudeTool := ⟨[], lit "foo_bar", lit "", .null, 0⟩

def camelTool : ClaudeTool := ⟨[], lit "fooBar", lit "", .null, 0⟩

/-- Two different client names, one Kiro name. -/
theorem names_collide :
    [snakeTool, camelTool].Pairwise (fun left right => left.name ≠ right.name) ∧
      ¬RenamedWithoutCollision [snakeTool, camelTool] := by
  refine ⟨by decide, fun renamed => ?_⟩
  exact absurd renamed.distinct (by decide)

end Restoring

end KiroProxy.ToolNames
