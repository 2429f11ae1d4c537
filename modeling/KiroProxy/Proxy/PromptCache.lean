import KiroProxy.Pool.AccountPool
import KiroProxy.Proxy.PayloadText
import KiroProxy.Proxy.TokenEstimator

/-!
# The prompt cache

A transcription of `proxy/cache_tracker.go`: the profiles of a request, whose breakpoints name
the prefixes that a later request may share, and the tracker that remembers them for a time.
The hash and what the standard library reads of a TTL are parameters.
-/

namespace KiroProxy.PromptCache

open Foundation.Binary64 GoStrings JsonText KiroTypes PayloadText
open Pool (Time hour minute second)
open TokenEstimator
open ToolNames (ClaudeTool)

set_option autoImplicit false

section Profiles

def defaultPromptCacheTTL : Int := 5 * minute

def defaultMinCacheableTokens : Int := 1024

def opusMinCacheableTokens : Int := 4096

structure PromptCacheBreakpoint (Fingerprint : Type) where
  fingerprint : Fingerprint
  cumulativeTokens : Int
  ttl : Int

structure PromptCacheProfile (Fingerprint : Type) where
  breakpoints : List (PromptCacheBreakpoint Fingerprint)
  totalInputTokens : Int
  model : GoString

def minCacheableTokensForModel (letters : Letters) (model : GoString) : Int :=
  if contains (letters.toLower model) (lit "opus") then opusMinCacheableTokens
  else defaultMinCacheableTokens

/-- What the builders read with the standard library: the hash of all bytes written, durations,
integers, and whether a JSON number is above zero, with its whole seconds. -/
structure CacheReader (Fingerprint : Type) where
  letters : Letters
  weigh : RuneClasses → Int
  sum : GoString → Fingerprint
  parseDuration : GoString → Option Int
  atoi : GoString → Option Int
  aboveZero : GoString → Bool
  wholeSeconds : GoString → Int

def writeHashChunk (written chunk : GoString) : GoString :=
  written ++ lit (toString chunk.length) ++ [0x00] ++ chunk ++ [0x00]

mutual

/-- The value without its cache markers. -/
def withoutCacheControl : Json → Json
  | .arr items => .arr (itemsWithoutCacheControl items)
  | .obj fields => .obj (fieldsWithoutCacheControl fields)
  | value => value

def itemsWithoutCacheControl : List Json → List Json
  | [] => []
  | item :: items => withoutCacheControl item :: itemsWithoutCacheControl items

def fieldsWithoutCacheControl : List (GoString × Json) → List (GoString × Json)
  | [] => []
  | (key, value) :: fields =>
      if key = lit "cache_control" then fieldsWithoutCacheControl fields
      else (key, withoutCacheControl value) :: fieldsWithoutCacheControl fields

end

def canonicalizeCacheValue (value : Json) : GoString :=
  JsonText.marshal (withoutCacheControl value)

end Profiles

section TTLs

variable {Fingerprint : Type} (reader : CacheReader Fingerprint)

/-- `time.Duration` of a number of seconds, which wraps. -/
def ofSeconds (seconds : Int) : Int := (seconds * second).bmod (2 ^ 64)

def parsePromptCacheTTLValue : Option Json → Option Int
  | some (.str text) =>
      let trimmed := trimSpace (reader.letters.toLower text)
      if trimmed = [] then none
      else
        match reader.parseDuration trimmed with
        | some duration => some duration
        | none => (reader.atoi trimmed).map ofSeconds
  | some (.num text) =>
      if reader.aboveZero text then some (ofSeconds (reader.wholeSeconds text)) else none
  | _ => none

def extractPromptCacheTTL (value : Json) : Int :=
  match value with
  | .obj block =>
      match JsonFields.get block (lit "cache_control") with
      | some (.obj cacheControl) =>
          let cacheType :=
            match JsonFields.get cacheControl (lit "type") with
            | some (.str text) => text
            | _ => []
          if !reader.letters.equalFold cacheType (lit "ephemeral") then 0
          else
            (parsePromptCacheTTLValue reader (JsonFields.get cacheControl (lit "ttl"))).getD
              defaultPromptCacheTTL
      | _ => 0
  | _ => 0

def normalizePromptCacheTTL (ttl : Int) : Int :=
  if ttl ≤ 0 then 0
  else if hour < ttl then hour
  else if defaultPromptCacheTTL < ttl then hour
  else defaultPromptCacheTTL

end TTLs

section Blocks

structure CacheablePromptBlock where
  value : Json
  tokens : Int
  ttl : Int
  isMessageEnd : Bool

structure ClaudeMessage where
  role : GoString
  content : Json

structure ClaudeRequest where
  model : GoString
  messages : List ClaudeMessage
  system : Json
  tools : List ClaudeTool
  toolChoice : Json

variable {Fingerprint : Type} (reader : CacheReader Fingerprint)

def estimateBlock (value : Json) : Int :=
  estimateApproxTokens reader.weigh (canonicalizeCacheValue value)

def buildCachePreludeBlock (req : ClaudeRequest) : CacheablePromptBlock :=
  let prelude := Json.obj [(lit "kind", .str (lit "request_prelude")),
    (lit "model", .str req.model), (lit "tool_choice", req.toolChoice)]
  ⟨prelude, estimateBlock reader prelude, 0, false⟩

/-- The JSON of a tool. -/
def toolJSON (tool : ClaudeTool) : Json :=
  .obj ((if tool.type = [] then [] else [(lit "type", Json.str tool.type)]) ++
    [(lit "name", .str tool.name), (lit "description", .str tool.description),
      (lit "input_schema", tool.inputSchema)] ++
    if tool.maxUses = 0 then [] else [(lit "max_uses", .num (lit (toString tool.maxUses)))])

/-- The position of a tool is no part of its fingerprint. -/
def toolBlock (tool : ClaudeTool) : CacheablePromptBlock :=
  let value := Json.obj [(lit "description", .str tool.description),
    (lit "input_schema", tool.inputSchema), (lit "kind", .str (lit "tool")),
    (lit "name", .str tool.name)]
  ⟨value, estimateBlock reader value,
    normalizePromptCacheTTL (extractPromptCacheTTL reader (toolJSON tool)), false⟩

def isAnthropicBillingHeaderBlock (value : Json) : Bool :=
  match value with
  | .obj block =>
      let typed :=
        match JsonFields.get block (lit "type") with
        | some (.str type) => decide (type ≠ [] ∧ type ≠ lit "text")
        | _ => false
      match typed, JsonFields.get block (lit "text") with
      | false, some (.str text) =>
          (lit "x-anthropic-billing-header:").isPrefixOf
            (reader.letters.toLower (trimLeft [0x20, 0x09, 0x0D, 0x0A] text))
      | _, _ => false
  | _ => false

/-- Billing headers drift from request to request and are left out. -/
def promptBlock (wrapper : JsonFields) (block : Json) (isMessageEnd : Bool) :
    List CacheablePromptBlock :=
  if isAnthropicBillingHeaderBlock reader block then []
  else
    let value := Json.obj ((lit "block", block) :: wrapper)
    [⟨value, estimateBlock reader value,
      normalizePromptCacheTTL (extractPromptCacheTTL reader block), isMessageEnd⟩]

def textBlock (text : GoString) : Json :=
  .obj [(lit "text", .str text), (lit "type", .str (lit "text"))]

def systemCacheBlocks (system : Json) : List CacheablePromptBlock :=
  let wrapper := [(lit "kind", Json.str (lit "system"))]
  match system with
  | .str text => promptBlock reader wrapper (textBlock text) false
  | .arr blocks => blocks.flatMap fun block => promptBlock reader wrapper block false
  | _ => []

def messageCacheBlocks (msg : ClaudeMessage) : List CacheablePromptBlock :=
  let wrapper := [(lit "kind", Json.str (lit "message")), (lit "role", .str msg.role)]
  match msg.content with
  | .str text => promptBlock reader wrapper (textBlock text) true
  | .arr blocks =>
      (blocks.mapIdx fun index block =>
        promptBlock reader wrapper block (index + 1 == blocks.length)).flatten
  | .null => []
  | content => promptBlock reader wrapper content true

def flattenClaudeCacheBlocks (req : ClaudeRequest) : List CacheablePromptBlock :=
  buildCachePreludeBlock reader req :: req.tools.map (toolBlock reader) ++
    systemCacheBlocks reader req.system ++ req.messages.flatMap (messageCacheBlocks reader)

end Blocks

section Builders

variable {Fingerprint : Type} (reader : CacheReader Fingerprint)

/-- What the builders carry from block to block. -/
structure ProfileState (Fingerprint : Type) where
  written : GoString
  cumulativeTokens : Int
  activeTTL : Int
  breakpoints : List (PromptCacheBreakpoint Fingerprint)

def startProfile : ProfileState Fingerprint := ⟨[], 0, 0, []⟩

/-- After an explicit cache marker, message ends become reusable prefix boundaries. -/
def addClaudeBlock (state : ProfileState Fingerprint) (block : CacheablePromptBlock) :
    ProfileState Fingerprint :=
  let written := writeHashChunk state.written (canonicalizeCacheValue block.value)
  let cumulativeTokens := state.cumulativeTokens + block.tokens
  let breakpointTTL :=
    if 0 < block.ttl then block.ttl
    else if block.isMessageEnd && decide (0 < state.activeTTL) then state.activeTTL
    else 0
  { written := written
    cumulativeTokens := cumulativeTokens
    activeTTL := if 0 < block.ttl then block.ttl else state.activeTTL
    breakpoints :=
      if breakpointTTL ≤ 0 then state.breakpoints
      else state.breakpoints ++ [⟨reader.sum written, cumulativeTokens, breakpointTTL⟩] }

def buildClaudeProfile (req : ClaudeRequest) (totalInputTokens : Int) :
    Option (PromptCacheProfile Fingerprint) :=
  let built := (flattenClaudeCacheBlocks reader req).foldl (addClaudeBlock reader) startProfile
  if built.breakpoints = [] then none
  else some ⟨built.breakpoints, max totalInputTokens built.cumulativeTokens, req.model⟩

/-- A block of the stable material of an OpenAI payload, and the breakpoint behind it. -/
def addStableBlock (model : GoString) (totalInputTokens : Int)
    (state : ProfileState Fingerprint) (canonical : GoString) : ProfileState Fingerprint :=
  let written := writeHashChunk state.written canonical
  let cumulativeTokens := state.cumulativeTokens + estimateApproxTokens reader.weigh canonical
  { state with
    written := written
    cumulativeTokens := cumulativeTokens
    breakpoints :=
      if cumulativeTokens < minCacheableTokensForModel reader.letters model then
        state.breakpoints
      else
        state.breakpoints ++
          [⟨reader.sum written, min cumulativeTokens totalInputTokens, defaultPromptCacheTTL⟩] }

/-- The model, the tools and the inference configuration of a payload. -/
def stableBlock (payload : SentPayload) : GoString :=
  marshalObject
    ([marshalMember (lit "inference_config")
        (match payload.inferenceConfig with
        | some config => marshalInference payload config
        | none => lit "null"),
      marshalMember (lit "model") (marshalString payload.current.modelID)] ++
      match payload.current.userInputMessageContext with
      | some context =>
          [marshalMember (lit "tools")
            (if context.tools.isEmpty then lit "null"
            else marshalArray (context.tools.map marshalTool))]
      | none => [])

/-- The current message is no part of what a later request may share. -/
def buildOpenAIProfile (payload : SentPayload) (totalInputTokens : Int) :
    Option (PromptCacheProfile Fingerprint) :=
  if totalInputTokens ≤ 0 then none
  else
    let built := (stableBlock payload :: payload.history.map marshalMessage).foldl
      (addStableBlock reader payload.current.modelID totalInputTokens) startProfile
    if built.breakpoints = [] then none
    else some ⟨built.breakpoints, totalInputTokens, payload.current.modelID⟩

end Builders

section Tracker

structure PromptCacheEntry where
  expiresAt : Time
  ttl : Int

abbrev Entries (Fingerprint : Type) := List (Fingerprint × PromptCacheEntry)

/-- The entries of each account that has any. -/
structure PromptCacheTracker (Fingerprint : Type) where
  entriesByAccount : List (GoString × Entries Fingerprint)

def newPromptCacheTracker {Fingerprint : Type} : PromptCacheTracker Fingerprint := ⟨[]⟩

structure PromptCacheUsage where
  cacheCreationInputTokens : Int
  cacheReadInputTokens : Int
  cacheCreation5mInputTokens : Int
  cacheCreation1hInputTokens : Int
  deriving DecidableEq

def noUsage : PromptCacheUsage := ⟨0, 0, 0, 0⟩

variable {Fingerprint : Type} [DecidableEq Fingerprint]

def setEntry (entries : Entries Fingerprint) (fingerprint : Fingerprint)
    (entry : PromptCacheEntry) : Entries Fingerprint :=
  (fingerprint, entry) :: entries.filter fun other => decide (other.1 ≠ fingerprint)

def setAccount (tracker : PromptCacheTracker Fingerprint) (accountID : GoString)
    (entries : Entries Fingerprint) : PromptCacheTracker Fingerprint :=
  ⟨(accountID, entries) ::
    tracker.entriesByAccount.filter fun other => decide (other.1 ≠ accountID)⟩

def entriesOf (tracker : PromptCacheTracker Fingerprint) (accountID : GoString) :
    Entries Fingerprint :=
  (tracker.entriesByAccount.lookup accountID).getD []

/-- `pruneExpiredLocked`. -/
def pruneExpired (tracker : PromptCacheTracker Fingerprint) (now : Time) :
    PromptCacheTracker Fingerprint :=
  ⟨(tracker.entriesByAccount.map fun (accountID, entries) =>
    (accountID, entries.filter fun entry => decide (now < entry.2.expiresAt))).filter
      fun account => !account.2.isEmpty⟩

/-- One breakpoint of the breakdown: the tokens up to it, and the two sums. -/
def breakdownStep (totalInputTokens reach : Int) (state : Int × Int × Int)
    (breakpoint : PromptCacheBreakpoint Fingerprint) : Int × Int × Int :=
  let current := min breakpoint.cumulativeTokens (min totalInputTokens reach)
  if current ≤ state.1 then state
  else if hour ≤ breakpoint.ttl then
    (current, state.2.1, state.2.2 + (current - state.1))
  else (current, state.2.1 + (current - state.1), state.2.2)

/-- The tokens of a creation by their TTL, five minutes first. -/
def computePromptCacheTTLBreakdownLimited (profile : PromptCacheProfile Fingerprint)
    (matchedTokens creation : Int) : Int × Int :=
  (profile.breakpoints.foldl
    (breakdownStep profile.totalInputTokens (matchedTokens + creation)) (matchedTokens, 0, 0)).2

/-- `float64(0.85)` is this many units of 2^-53. -/
def freshShare : Nat := 7656119366529843

/-- `int(float64(total) * 0.85)`. -/
def maxCacheable (total : Int) : Int :=
  let scaled : Int :=
    (roundTo 53 (roundTo 53 total.natAbs * freshShare) / 2 ^ 53 : Nat)
  if total < 0 then -scaled else scaled

example : maxCacheable 1000 = 850 := by decide

def usageOf (profile : PromptCacheProfile Fingerprint) (matchedTokens creation : Int) :
    PromptCacheUsage :=
  let breakdown := computePromptCacheTTLBreakdownLimited profile matchedTokens creation
  ⟨creation, matchedTokens, breakdown.1, breakdown.2⟩

/-- The latest breakpoint that is cached. -/
def matchedBreakpoint (entries : Entries Fingerprint) (minTokens : Int) (now : Time)
    (breakpoints : List (PromptCacheBreakpoint Fingerprint)) :
    Option (PromptCacheBreakpoint Fingerprint × PromptCacheEntry) :=
  breakpoints.reverse.findSome? fun breakpoint =>
    if breakpoint.cumulativeTokens < minTokens then none
    else
      match entries.lookup breakpoint.fingerprint with
      | some entry => if entry.expiresAt < now then none else some (breakpoint, entry)
      | none => none

variable (letters : Letters)

/-- `Compute` on an account with live entries, one of which a match keeps alive. -/
def computeCached (tracker : PromptCacheTracker Fingerprint) (accountID : GoString)
    (profile : PromptCacheProfile Fingerprint) (lastTokens : Int) (now : Time) :
    PromptCacheUsage × PromptCacheTracker Fingerprint :=
  let entries := entriesOf tracker accountID
  let lastTokens := min lastTokens (maxCacheable profile.totalInputTokens)
  match matchedBreakpoint entries (minCacheableTokensForModel letters profile.model) now
    profile.breakpoints with
  | none => (usageOf profile 0 (max (lastTokens - 0) 0), tracker)
  | some (breakpoint, entry) =>
      let matchedTokens :=
        min (min breakpoint.cumulativeTokens profile.totalInputTokens) lastTokens
      (usageOf profile matchedTokens (max (lastTokens - matchedTokens) 0),
        setAccount tracker accountID (setEntry entries breakpoint.fingerprint
          { entry with expiresAt := now + entry.ttl }))

def compute (tracker : PromptCacheTracker Fingerprint) (accountID : GoString)
    (profile : Option (PromptCacheProfile Fingerprint)) (now : Time) :
    PromptCacheUsage × PromptCacheTracker Fingerprint :=
  match profile with
  | none => (noUsage, tracker)
  | some profile =>
      match profile.breakpoints.getLast? with
      | none => (noUsage, tracker)
      | some last =>
          if accountID = [] then (noUsage, tracker)
          else
            let lastTokens := min last.cumulativeTokens profile.totalInputTokens
            let tracker := pruneExpired tracker now
            if entriesOf tracker accountID = [] then
              (usageOf profile 0
                (if lastTokens < minCacheableTokensForModel letters profile.model then 0
                  else lastTokens), tracker)
            else computeCached letters tracker accountID profile lastTokens now

def update (tracker : PromptCacheTracker Fingerprint) (accountID : GoString)
    (profile : Option (PromptCacheProfile Fingerprint)) (now : Time) :
    PromptCacheTracker Fingerprint :=
  match profile with
  | none => tracker
  | some profile =>
      if profile.breakpoints = [] ∨ accountID = [] then tracker
      else
        let tracker := pruneExpired tracker now
        setAccount tracker accountID (profile.breakpoints.foldl (fun entries breakpoint =>
          if breakpoint.cumulativeTokens < minCacheableTokensForModel letters profile.model then
            entries
          else
            setEntry entries breakpoint.fingerprint
              ⟨now + breakpoint.ttl, breakpoint.ttl⟩) (entriesOf tracker accountID))

end Tracker

end KiroProxy.PromptCache
