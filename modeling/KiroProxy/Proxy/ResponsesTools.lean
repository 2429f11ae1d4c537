import KiroProxy.Proxy.ResponsesStream

/-!
# Tools of Responses requests

`proxy/responses_tools.go`, and the conversion of tools in `proxy/responses.go`: declared tools
are a tree of namespaces, and the model is given one flat list of qualified names.
-/

namespace KiroProxy.Responses

open GoStrings OpenAITools ToolNames

set_option autoImplicit false

section Values

/-- A value that is missing counts as one that is no string. -/
def firstString : List (Option Json) → GoString
  | [] => []
  | some (.str text) :: values => if text ≠ [] then text else firstString values
  | _ :: values => firstString values

def firstNonEmpty (values : List GoString) : GoString :=
  (values.find? fun value => trimSpace value != []).getD []

def firstExisting (fields : JsonFields) (keys : List GoString) : Json :=
  (keys.findSome? fields.get).getD .null

end Values

section Declarations

structure ToolFunction where
  name : GoString
  description : GoString
  parameters : Json

/-- A declaration without the tools inside of it; parameters that are missing are null. -/
structure ToolDeclaration where
  type : GoString
  execution : GoString
  name : GoString
  description : GoString
  parameters : Json
  format : JsonFields
  function : ToolFunction

inductive ResponsesTool where
  | declare (tool : ToolDeclaration) (tools : List ResponsesTool)

def toolSearchToolType : GoString := lit "tool_search"

def qualifiedResponsesToolName (namespace_ name : GoString) : GoString :=
  let namespace_ := trimSpace namespace_
  let name := trimSpace name
  if namespace_ = [] then name
  else if name = [] then namespace_
  else if (namespace_ ++ lit "__").isPrefixOf name then name
  else namespace_ ++ lit "__" ++ name

variable (letters : Letters)

def isClientToolSearch (tool : ToolDeclaration) : Bool :=
  letters.equalFold (trimSpace tool.execution) (lit "client")

/-- A declaration without a type is a function if it has one. -/
def toolKind (tool : ToolDeclaration) : GoString :=
  let kind := letters.toLower (trimSpace tool.type)
  if kind = [] ∧ tool.function.name ≠ [] then lit "function" else kind

end Declarations

section Identities

/-- The identities found so far, the last one in front, and the last conflict. -/
structure ToolIdentities where
  result : List (GoString × ResponsesToolIdentity)
  conflict : Option GoString

deriving instance DecidableEq for ResponsesToolIdentity

def ResponsesToolIdentity.key (identity : ResponsesToolIdentity) : GoString :=
  qualifiedResponsesToolName identity.namespace_ identity.name

def ToolIdentities.record (identities : ToolIdentities) (identity : ResponsesToolIdentity) :
    ToolIdentities where
  result := (identity.key, identity) :: identities.result
  conflict :=
    match identities.result.lookup identity.key with
    | none => identities.conflict
    | some prior =>
        if prior ≠ identity then some (lit "ambiguous Responses tool identity: " ++ identity.key)
        else identities.conflict

variable (letters : Letters)

/-- Tools that are not run by the client have no identity. -/
def toolIdentity (namespace_ : GoString) (tool : ToolDeclaration) :
    Option ResponsesToolIdentity :=
  let kind := toolKind letters tool
  if kind = toolSearchToolType ∧ isClientToolSearch letters tool = true then
    some ⟨kind, toolSearchToolType, namespace_⟩
  else if kind ≠ lit "function" ∧ kind ≠ lit "custom" then none
  else some ⟨kind, trimSpace (firstNonEmpty [tool.function.name, tool.name]), namespace_⟩

mutual

def walkTool (namespace_ : GoString) (identities : ToolIdentities) :
    ResponsesTool → ToolIdentities
  | .declare tool tools =>
      if letters.toLower (trimSpace tool.type) = lit "namespace" then
        walkTools (qualifiedResponsesToolName namespace_ tool.name) identities tools
      else
        match toolIdentity letters namespace_ tool with
        | none => identities
        | some identity => identities.record identity

def walkTools (namespace_ : GoString) (identities : ToolIdentities) :
    List ResponsesTool → ToolIdentities
  | [] => identities
  | tool :: tools => walkTools namespace_ (walkTool namespace_ identities tool) tools

end

def responsesToolIdentities (tools : List ResponsesTool) : ToolIdentities :=
  walkTools letters [] ⟨[], none⟩ tools

/-- The names under which the tools of a search are called. How `encoding/json` reads
declarations is left open. -/
def toolSearchOutputText (decodeTools : Json → List ResponsesTool) (raw : Json) : GoString :=
  let identities := (responsesToolIdentities letters (decodeTools raw)).result
  if identities.isEmpty then lit "No matching tools found."
  else
    let names := ((identities.map Prod.fst).eraseDups.map kiroToolName).mergeSort fun left right =>
      decide (left ≤ right)
    lit "Loaded tools, now callable: " ++ List.intercalate (lit ", ") names

end Identities

section Conversion

/-- A tool as it is handed to the model, which knows the hosted search by a mark of its own. -/
structure ConvertedTool extends OpenAITool where
  hostedWebSearch : Bool

/-- The input of a custom tool is wrapped in an object. -/
def customToolSchema : Json :=
  .obj [(lit "type", .str (lit "object")),
    (lit "properties", .obj [(lit "input", .obj [(lit "type", .str (lit "string")),
      (lit "description", .str (lit "The raw text to pass to this custom tool."))])]),
    (lit "required", .arr [.str (lit "input")])]

variable (letters : Letters)

def customToolDescription (tool : ToolDeclaration) : GoString :=
  let description := trimSpace tool.description
  let definition := trimSpace (firstString [tool.format.get (lit "definition")])
  if letters.toLower (firstString [tool.format.get (lit "type")]) ≠ lit "grammar" then description
  else if definition = [] then description
  else
    let syntax_ := trimSpace (firstString [tool.format.get (lit "syntax")])
    let grammar := if syntax_ ≠ [] then syntax_ ++ lit " grammar" else lit "grammar"
    let hint := lit "The input string must match this " ++ grammar ++ lit ":\n" ++ definition
    if description = [] then hint else description ++ lit "\n\n" ++ hint

structure ToolSpecification where
  name : GoString
  description : GoString
  parameters : Json

/-- A value that is missing is replaced. -/
def presentOr (value other : Json) : Json :=
  match value with
  | .null => other
  | _ => value

/-- Tools of other types are left out. -/
def toolSpecification (tool : ToolDeclaration) : Option ToolSpecification :=
  let kind := toolKind letters tool
  if isHostedWebSearchToolType letters kind then
    some ⟨webSearchToolName, lit "Search the web for current information.", webSearchInputSchema⟩
  else if kind = lit "function" then
    some ⟨firstNonEmpty [tool.function.name, tool.name],
      firstNonEmpty [tool.function.description, tool.description],
      presentOr tool.function.parameters tool.parameters⟩
  else if kind = lit "custom" then
    some ⟨tool.name, customToolDescription letters tool, customToolSchema⟩
  else if kind = toolSearchToolType ∧ isClientToolSearch letters tool = true then
    some ⟨toolSearchToolType, tool.description, tool.parameters⟩
  else none

def convertSpecification (namespace_ : GoString) (hosted : Bool) (tool : ToolSpecification) :
    Except GoString (List ConvertedTool) :=
  let name := trimSpace tool.name
  if name = [] then .error (lit "Responses tool name is required")
  else
    .ok [{
      hostedWebSearch := hosted
      type := lit "function"
      name := qualifiedResponsesToolName namespace_ name
      description := tool.description
      parameters := presentOr tool.parameters
        (.obj [(lit "type", .str (lit "object")), (lit "properties", .obj [])]) }]

mutual

def convertResponsesTool (namespace_ : GoString) :
    ResponsesTool → Except GoString (List ConvertedTool)
  | .declare tool tools =>
      if toolKind letters tool = lit "namespace" then
        convertChildren (qualifiedResponsesToolName namespace_ tool.name) tools
      else
        match toolSpecification letters tool with
        | none => .ok []
        | some found =>
            convertSpecification namespace_
              (isHostedWebSearchToolType letters (toolKind letters tool)) found

def convertChildren (namespace_ : GoString) :
    List ResponsesTool → Except GoString (List ConvertedTool)
  | [] => .ok []
  | tool :: tools => do
      let converted ← convertResponsesTool namespace_ tool
      let rest ← convertChildren namespace_ tools
      pure (converted ++ rest)

end

end Conversion

end KiroProxy.Responses
