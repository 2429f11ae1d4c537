import KiroProxy.Proxy.ToolNames

/-!
# Tools of OpenAI requests

`convertOpenAITools` and `uniqueKiroToolName` of `proxy/translator.go`, with the
hosted search entries of `proxy/mcp_websearch.go`. A name that is taken gets a number.
-/

namespace KiroProxy.OpenAITools

open GoStrings KiroTypes ToolNames ToolSchema

set_option autoImplicit false

structure OpenAITool where
  type : GoString
  name : GoString
  description : GoString
  parameters : Json

def kiroWebSearchToolName : GoString := lit "webSearch"

def isHostedWebSearchToolType (letters : Letters) (toolType : GoString) : Bool :=
  let kind := letters.toLower (trimSpace toolType)
  kind == lit "web_search" || kind == lit "web_search_preview" ||
    (lit "web_search_preview_").isPrefixOf kind

def hostedSearchTool : KiroToolWrapper where
  name := kiroWebSearchToolName
  description := lit "Search the web for current information."
  inputSchema := webSearchInputSchema

def numberedName (name : GoString) (number : Nat) : GoString :=
  let suffix := lit (toString number)
  (if 64 < name.length + suffix.length then name.take (64 - suffix.length) else name) ++ suffix

/-- The loop over the numbers, for as many of them as the fuel has. -/
def firstFreeName (name : GoString) (used : List GoString) : Nat → Nat → GoString
  | 0, number => numberedName name number
  | fuel + 1, number =>
      if used.contains (numberedName name number) then
        firstFreeName name used fuel (number + 1)
      else numberedName name number

/-- Among a hundred numbers for each used name, and a hundred more, one is free: names of
equally long numbers differ. -/
def uniqueKiroToolName (name : GoString) (used : List GoString) : GoString :=
  let name := if trimSpace name = [] then lit "tool" else name
  if used.contains name then firstFreeName name used (100 * (used.length + 1)) 2 else name

structure Conversion where
  result : List KiroToolWrapper
  nameMap : NameMap
  usedNames : List GoString

def functionTool (tool : OpenAITool) (sanitized : GoString) : KiroToolWrapper :=
  let desc :=
    if maxToolDescLen < tool.description.length then
      tool.description.take maxToolDescLen ++ lit "..."
    else tool.description
  { name := sanitized
    description := normalizeToolDesc desc sanitized
    inputSchema := ensureObjectSchema tool.parameters }

def convertOpenAITool (letters : Letters) (state : Conversion) (tool : OpenAITool) :
    Conversion :=
  if isHostedWebSearchToolType letters tool.type then
    { result := state.result ++ [hostedSearchTool]
      nameMap := (kiroWebSearchToolName, webSearchToolName) :: state.nameMap
      usedNames := kiroWebSearchToolName :: state.usedNames }
  else if tool.type ≠ lit "function" then state
  else
    let originalName := trimSpace tool.name
    if originalName = [] then state
    else
      let sanitized := uniqueKiroToolName (kiroToolName originalName) state.usedNames
      { result := state.result ++ [functionTool tool sanitized]
        nameMap :=
          if sanitized ≠ originalName then (sanitized, originalName) :: state.nameMap
          else state.nameMap
        usedNames := sanitized :: state.usedNames }

/-- The declared tools and the name map; an empty map is the source's nil one. -/
def convertOpenAITools (letters : Letters) (tools : List OpenAITool) :
    List KiroToolWrapper × NameMap :=
  let converted := tools.foldl (convertOpenAITool letters) ⟨[], [], []⟩
  (converted.result, converted.nameMap)

section Names

theorem written_number_ne_nil (number : Nat) : lit (toString number) ≠ [] := by
  intro empty
  have bytes := congrArg List.length empty
  simp [lit] at bytes

theorem numbered_name_ne_nil (name : GoString) (number : Nat) :
    numberedName name number ≠ [] := by
  intro empty
  exact written_number_ne_nil number (List.append_eq_nil_iff.mp empty).2

theorem first_free_name_ne_nil (name : GoString) (used : List GoString) (fuel number : Nat) :
    firstFreeName name used fuel number ≠ [] := by
  induction fuel generalizing number with
  | zero => exact numbered_name_ne_nil name number
  | succ fuel ih =>
      rw [firstFreeName]
      split_ifs
      · exact ih (number + 1)
      · exact numbered_name_ne_nil name number

theorem unique_name_ne_nil (name : GoString) (used : List GoString) :
    uniqueKiroToolName name used ≠ [] := by
  have named : (if trimSpace name = [] then lit "tool" else name) ≠ [] := by
    split_ifs with blank
    · decide
    · intro empty
      rw [empty] at blank
      exact blank (by decide)
  unfold uniqueKiroToolName
  simp only
  by_cases taken : used.contains (if trimSpace name = [] then lit "tool" else name)
  · rw [if_pos taken]
    exact first_free_name_ne_nil _ used _ 2
  · rw [if_neg taken]
    exact named

end Names

end KiroProxy.OpenAITools
