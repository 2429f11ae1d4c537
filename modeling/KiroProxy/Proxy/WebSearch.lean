import KiroProxy.Config.ModelMappings
import KiroProxy.Proxy.KiroTypes

/-!
# Web searches

The searches of `proxy/mcp_websearch.go`: the query of a call, the texts of its results and
the tool results that answer hosted calls. The answers of the search service are a parameter,
as is the text of numbers and of values that are no scalars.
-/

namespace KiroProxy.WebSearch

open GoStrings KiroTypes
open ModelMappings (decimal)

set_option autoImplicit false

def webSearchToolName : GoString := lit "web_search"

structure WebSearchResult where
  title : GoString
  url : GoString
  snippet : GoString
  publishedDate : GoString

/-- What a search comes to: results, or an error's text. -/
structure SearchAnswer where
  results : List WebSearchResult
  err : Option GoString

def isWebSearchToolUse (letters : Letters) (toolUse : KiroToolUse) : Bool :=
  (letters.toLower (trimSpace toolUse.name)).filter (fun byte => !(byte == 0x5F || byte == 0x2D)) ==
    lit "websearch"

def scalarString (print : Json → GoString) : Option Json → GoString
  | none => []
  | some .null => []
  | some (.str text) => text
  | some (.bool true) => lit "true"
  | some (.bool false) => lit "false"
  | some value => print value

def queryKeys : List GoString := [lit "query", lit "q", lit "search_query", lit "searchQuery"]

/-- The first query of an input that is not blank. -/
def webSearchQueryFromInput (print : Json → GoString) (input : JsonFields) : GoString :=
  ((queryKeys.map fun key => trimSpace (scalarString print (input.get key))).find?
    fun value => decide (value ≠ [])).getD []

def formatWebSearchResult (index : Nat) (result : WebSearchResult) : GoString :=
  decimal (index + 1) ++ lit ". " ++ trimSpace result.title ++
    (if result.url ≠ [] then lit "\nURL: " ++ result.url else []) ++
    (if result.publishedDate ≠ [] then lit "\nPublished: " ++ result.publishedDate else []) ++
    (if result.snippet ≠ [] then lit "\n" ++ result.snippet else [])

def formatWebSearchResults (results : List WebSearchResult) : GoString :=
  if results = [] then lit "No web search results found."
  else List.intercalate (lit "\n\n") (results.mapIdx formatWebSearchResult)

section Searches

variable (letters : Letters) (print : Json → GoString) (search : Nat → GoString → SearchAnswer)

/-- The service is asked where there is a query. -/
def performKiroWebSearch (index : Nat) (query : GoString) : SearchAnswer :=
  if trimSpace query = [] then ⟨[], some (lit "query is required")⟩
  else search index (trimSpace query)

def webSearchToolResult (index : Nat) (toolUse : KiroToolUse) : KiroToolResult :=
  let answer := performKiroWebSearch search index (webSearchQueryFromInput print toolUse.input)
  match answer.err with
  | none => ⟨toolUse.toolUseID, [⟨formatWebSearchResults answer.results⟩], lit "success"⟩
  | some err => ⟨toolUse.toolUseID, [⟨lit "web_search failed: " ++ err⟩], lit "error"⟩

/-- The results of the calls in order; a call of another tool is an error. -/
def resolveFrom : Nat → List KiroToolUse → Except GoString (List KiroToolResult)
  | _, [] => .ok []
  | index, toolUse :: rest =>
      if !isWebSearchToolUse letters toolUse then
        .error (lit "unsupported hosted tool: " ++ toolUse.name)
      else
        match resolveFrom (index + 1) rest with
        | .error err => .error err
        | .ok results => .ok (webSearchToolResult print search index toolUse :: results)

def resolveWebSearchToolResults (toolUses : List KiroToolUse) :
    Except GoString (List KiroToolResult) :=
  resolveFrom letters print search 0 toolUses

theorem canonical_searches (toolUse : KiroToolUse) (named : toolUse.name = webSearchToolName) :
    isWebSearchToolUse letters toolUse = true := by
  have plain := ascii_bytes (trimSpace webSearchToolName) (by decide)
  unfold isWebSearchToolUse
  rw [named, letters.lower_ascii _ plain]
  decide

/-- Calls under the search's own name are all answered. -/
theorem canonical_resolves (toolUses : List KiroToolUse)
    (named : ∀ toolUse ∈ toolUses, toolUse.name = webSearchToolName) :
    resolveWebSearchToolResults letters print search toolUses =
      .ok (toolUses.mapIdx (webSearchToolResult print search)) := by
  have resolves : ∀ index, resolveFrom letters print search index toolUses =
      .ok (toolUses.mapIdx fun offset => webSearchToolResult print search (offset + index)) := by
    induction toolUses with
    | nil => exact fun _ => rfl
    | cons toolUse rest ih =>
        intro index
        have known := canonical_searches letters toolUse (named toolUse List.mem_cons_self)
        rw [resolveFrom, known, Bool.not_true, if_neg Bool.false_ne_true,
          ih fun other member => named other (List.mem_cons_of_mem _ member)]
        simp only [List.mapIdx_cons, Nat.zero_add, Nat.add_assoc, Nat.add_comm 1 index]
  exact resolves 0

end Searches

end KiroProxy.WebSearch
