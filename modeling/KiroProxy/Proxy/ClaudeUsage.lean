import KiroProxy.Proxy.EventStream
import KiroProxy.Proxy.PromptCacheBounds

/-!
# The usage of a Claude answer

How `handleClaudeStream` and `handleClaudeNonStream` in `proxy/handler.go` fill in the token
counts that are billed, and the usage fields they send. The cache counts are made before the
call and the input count after it, so the fields add up only where the first fit into the second.
-/

namespace KiroProxy.ClaudeUsage

open EventStream GoStrings
open Pool (Time)
open PromptCache

set_option autoImplicit false

section Counters

structure CacheTokenCounts where
  read : Int
  write : Int

/-- What the callbacks of a call report. -/
structure UsageCounters (Credit : Type) where
  inputTokens : Int
  outputTokens : Int
  credits : Credit
  upstreamCache : CacheTokenCounts
  realInputTokens : Int
  upstreamStopReason : GoString

def startCounters {Credit : Type} [Zero Credit] : UsageCounters Credit :=
  ⟨0, 0, 0, ⟨0, 0⟩, 0, []⟩

/-- The percentage of a context window in tokens is a parameter. -/
def onReport {Credit : Type} (contextTokens : Credit → Int) (counters : UsageCounters Credit) :
    CallbackRun Credit → UsageCounters Credit
  | .complete inTok outTok => { counters with inputTokens := inTok, outputTokens := outTok }
  | .credits credits => { counters with credits := credits }
  | .contextUsage percentage =>
      { counters with realInputTokens := contextTokens percentage }
  | .stopReason reason => { counters with upstreamStopReason := reason }
  | .cacheUsage read write => { counters with upstreamCache := ⟨read, write⟩ }
  | _ => counters

/-- What the context count leaves for the input; the request's own size is a floor. -/
def inputFromContextTokens (contextTokens outputTokens estimatedInputTokens : Int) : Int :=
  max (contextTokens - outputTokens) (min estimatedInputTokens contextTokens)

/-- The input and output tokens, with what Kiro did not report filled in. -/
def finalizeUsageTokens (inputTokens outputTokens estimatedInputTokens contextTokens
    estimatedOutputTokens : Int) : Int × Int :=
  let outputTokens := if outputTokens ≤ 0 then estimatedOutputTokens else outputTokens
  (if inputTokens ≤ 0 then
    if 0 < contextTokens then
      inputFromContextTokens contextTokens outputTokens estimatedInputTokens
    else estimatedInputTokens
  else inputTokens, outputTokens)

/-- The cache counts of the request log never exceed the input. -/
def resolveCacheTokens (upstream estimate : CacheTokenCounts) (inputTokens : Int) :
    CacheTokenCounts :=
  if inputTokens ≤ 0 then ⟨0, 0⟩
  else
    let cache := if 0 < upstream.read + upstream.write then upstream else estimate
    let read := min (max cache.read 0) inputTokens
    ⟨read, min (max cache.write 0) (inputTokens - read)⟩

def cacheTokensFromPromptCache (usage : PromptCacheUsage) : CacheTokenCounts :=
  ⟨usage.cacheReadInputTokens, usage.cacheCreationInputTokens⟩

end Counters

section Fields

def billedClaudeInputTokens (inputTokens : Int) (usage : PromptCacheUsage) : Int :=
  max (inputTokens - usage.cacheCreationInputTokens - usage.cacheReadInputTokens) 0

/-- The usage fields of an answer; a cache field may be absent. -/
structure UsageFields where
  inputTokens : Int
  outputTokens : Int
  cacheCreationInputTokens : Option Int
  cacheReadInputTokens : Option Int
  cacheCreation : Option (Int × Int)
  deriving DecidableEq

/-- The usage of the stream events. -/
def buildClaudeUsageMap (inputTokens outputTokens : Int) (usage : PromptCacheUsage)
    (includeCache : Bool) : UsageFields :=
  { inputTokens := billedClaudeInputTokens inputTokens usage
    outputTokens := outputTokens
    cacheCreationInputTokens :=
      if includeCache then some usage.cacheCreationInputTokens else none
    cacheReadInputTokens := if includeCache then some usage.cacheReadInputTokens else none
    cacheCreation :=
      if includeCache then
        some (usage.cacheCreation5mInputTokens, usage.cacheCreation1hInputTokens)
      else none }

/-- A count with `omitempty`. -/
def unlessZero (count : Int) : Option Int := if count = 0 then none else some count

/-- The usage of `handleClaudeNonStream`. -/
def responseUsage (inputTokens outputTokens : Int) (usage : PromptCacheUsage)
    (hasProfile : Bool) : UsageFields :=
  { inputTokens := billedClaudeInputTokens inputTokens usage
    outputTokens := outputTokens
    cacheCreationInputTokens := unlessZero usage.cacheCreationInputTokens
    cacheReadInputTokens := unlessZero usage.cacheReadInputTokens
    cacheCreation :=
      if hasProfile then
        some (usage.cacheCreation5mInputTokens, usage.cacheCreation1hInputTokens)
      else none }

/-- The usage of an answer, streamed or not. -/
def answerUsage (streams : Bool) (inputTokens outputTokens : Int) (usage : PromptCacheUsage)
    (hasProfile : Bool) : UsageFields :=
  if streams then buildClaudeUsageMap inputTokens outputTokens usage hasProfile
  else responseUsage inputTokens outputTokens usage hasProfile

end Fields

section Sums

/-- The input fields are counts and sum to what is billed. -/
structure AddsUp (usage : UsageFields) (billed : Int) : Prop where
  sum : usage.inputTokens + usage.cacheReadInputTokens.getD 0 +
    usage.cacheCreationInputTokens.getD 0 = billed
  input : 0 ≤ usage.inputTokens
  read : 0 ≤ usage.cacheReadInputTokens.getD 0
  creation : 0 ≤ usage.cacheCreationInputTokens.getD 0

theorem unless_zero_count (count : Int) : (unlessZero count).getD 0 = count := by
  unfold unlessZero
  split_ifs with zero
  · exact zero.symm
  · rfl

/-- What a field says of a cache count, where no profile means no count. -/
theorem answer_usage_counts (streams : Bool) (inputTokens outputTokens : Int)
    (usage : PromptCacheUsage) (hasProfile : Bool)
    (none : hasProfile = false → usage = noUsage) :
    let fields := answerUsage streams inputTokens outputTokens usage hasProfile
    fields.inputTokens = billedClaudeInputTokens inputTokens usage ∧
      fields.cacheReadInputTokens.getD 0 = usage.cacheReadInputTokens ∧
      fields.cacheCreationInputTokens.getD 0 = usage.cacheCreationInputTokens := by
  cases streams with
  | false => exact ⟨rfl, unless_zero_count _, unless_zero_count _⟩
  | true =>
      cases hasProfile with
      | false =>
          rw [none rfl]
          exact ⟨rfl, rfl, rfl⟩
      | true => exact ⟨rfl, rfl, rfl⟩

theorem adds_up_iff (streams : Bool) (inputTokens outputTokens tokens : Int)
    (usage : PromptCacheUsage) (covers : Covers usage tokens) (hasProfile : Bool)
    (none : hasProfile = false → usage = noUsage) :
    AddsUp (answerUsage streams inputTokens outputTokens usage hasProfile) inputTokens ↔
      tokens ≤ inputTokens := by
  obtain ⟨input, read, creation⟩ :=
    answer_usage_counts streams inputTokens outputTokens usage hasProfile none
  have sum := covers.sum
  have billed : billedClaudeInputTokens inputTokens usage = max (inputTokens - tokens) 0 := by
    unfold billedClaudeInputTokens
    congr 1
    omega
  constructor
  · intro adds
    have total := adds.sum
    rw [input, read, creation, billed] at total
    omega
  · intro fits
    refine ⟨?_, ?_, ?_, ?_⟩
    · rw [input, read, creation, billed]
      omega
    · rw [input, billed]
      exact Int.le_max_right _ _
    · rw [read]
      exact covers.read
    · rw [creation]
      exact covers.creation

variable {Fingerprint : Type} [DecidableEq Fingerprint]

/-- What a finished Claude request is answered with, and the input that is billed for it. -/
structure FinishedRequest (Fingerprint Credit : Type) where
  streams : Bool
  req : ClaudeRequest
  calls : List (TrackerCall Fingerprint)
  accountID : GoString
  now : Time
  estimatedInputTokens : Int
  estimatedOutputTokens : Int
  counters : UsageCounters Credit

namespace FinishedRequest

variable {Credit : Type} (reader : CacheReader Fingerprint)
  (request : FinishedRequest Fingerprint Credit)

def cacheProfile : Option (PromptCacheProfile Fingerprint) :=
  buildClaudeProfile reader request.req request.estimatedInputTokens

def finalized : Int × Int :=
  finalizeUsageTokens request.counters.inputTokens request.counters.outputTokens
    request.estimatedInputTokens request.counters.realInputTokens request.estimatedOutputTokens

/-- The cache counts are computed before the call. -/
def cacheUsage : PromptCacheUsage :=
  (compute reader.letters (afterCalls reader.letters request.calls) request.accountID
    (request.cacheProfile reader) request.now).1

def usage : UsageFields :=
  answerUsage request.streams request.finalized.1 request.finalized.2
    (request.cacheUsage reader) (request.cacheProfile reader).isSome

/-- The part of the request that the account's prompt cache covers. -/
def coveredTokens : Int :=
  covered reader.letters (afterCalls reader.letters request.calls) request.accountID
    (request.cacheProfile reader) request.now

/-- The fields add up exactly where the prompt cache covers no more than the billed input. -/
theorem usage_adds_up_iff :
    AddsUp (request.usage reader) request.finalized.1 ↔
      request.coveredTokens reader ≤ request.finalized.1 := by
  have covers : Covers (request.cacheUsage reader) (request.coveredTokens reader) := by
    apply compute_covers
    intro profile built
    exact claude_profile_counted reader request.req request.estimatedInputTokens profile built
  apply adds_up_iff request.streams _ _ _ _ covers
  intro none
  have missing := Option.not_isSome_iff_eq_none.mp (Bool.eq_false_iff.mp none)
  rw [cacheUsage, missing]
  rfl

end FinishedRequest

end Sums

section Excess

/-- The weighted sum of the rune classes, exactly. -/
def exactWeight (classes : TokenEstimator.RuneClasses) : Int :=
  (4 * classes.regularAscii + 9 * classes.digits + 12 * classes.symbols +
    12 * classes.nonASCII + 17 : Nat) / 18

def plainReader : CacheReader GoString where
  letters := asciiLetters
  weigh := exactWeight
  sum := id
  parseDuration := fun _ => none
  atoi := fun _ => none
  aboveZero := fun _ => false
  wholeSeconds := fun _ => 0

/-- A long system text that is marked for the cache. -/
def markedText : JsonFields :=
  [(lit "cache_control", .obj [(lit "type", .str (lit "ephemeral"))]),
    (lit "text", .str (List.replicate 1600 0x21)), (lit "type", .str (lit "text"))]

def cachedSystem : ClaudeRequest where
  model := lit "claude-sonnet-4.5"
  messages := [⟨lit "user", .str (lit "hello")⟩]
  system := .arr [.obj markedText]
  tools := []
  toolChoice := .null

/-- Upstream reports fewer input tokens than the cache is said to cover. -/
def shortReport (streams : Bool) : FinishedRequest GoString Int where
  streams := streams
  req := cachedSystem
  calls := []
  accountID := lit "account"
  now := 1
  estimatedInputTokens := 1070
  estimatedOutputTokens := 10
  counters := ⟨900, 10, 0, ⟨0, 0⟩, 0, lit "end_turn"⟩

theorem prelude_tokens :
    estimateBlock plainReader (buildCachePreludeBlock plainReader cachedSystem).value = 27 := by
  unfold estimateBlock canonicalizeCacheValue buildCachePreludeBlock
  rw [withoutCacheControl, JsonText.marshal_sorted _ (by decide +kernel)]
  decide +kernel

/-- The text of a wrapped block, which is itself an object. -/
theorem wrapped_marshal (block : JsonFields) (wrapper : JsonFields)
    (sorted : (JsonText.marshalFields (fieldsWithoutCacheControl block)).Pairwise
      fun left right => decide (left.1 ≤ right.1) = true)
    (plain : fieldsWithoutCacheControl wrapper = wrapper)
    (after : ((lit "block", []) :: JsonText.marshalFields wrapper).Pairwise
      fun left right => decide (left.1 ≤ right.1) = true) :
    canonicalizeCacheValue (.obj ((lit "block", .obj block) :: wrapper)) =
      JsonText.marshalObject (JsonText.marshalMember (lit "block")
        (JsonText.marshalObject ((JsonText.marshalFields (fieldsWithoutCacheControl block)).map
          fun field => JsonText.marshalMember field.1 field.2)) ::
        (JsonText.marshalFields wrapper).map fun field =>
          JsonText.marshalMember field.1 field.2) := by
  have kept : lit "block" ≠ lit "cache_control" := by decide
  have order := List.pairwise_cons.mp after
  rw [canonicalizeCacheValue, withoutCacheControl, fieldsWithoutCacheControl, if_neg kept,
    withoutCacheControl, plain, JsonText.marshal_sorted, JsonText.marshalFields,
    JsonText.marshal_sorted _ sorted, List.map_cons]
  rw [JsonText.marshalFields]
  exact List.pairwise_cons.mpr ⟨order.1, order.2⟩

theorem system_tokens :
    estimateBlock plainReader (.obj [(lit "block", .obj markedText),
      (lit "kind", .str (lit "system"))]) = 1089 := by
  rw [estimateBlock, wrapped_marshal _ _ (by decide +kernel) rfl (by decide +kernel)]
  decide +kernel

theorem message_tokens :
    estimateBlock plainReader (.obj [(lit "block", textBlock (lit "hello")),
      (lit "kind", .str (lit "message")), (lit "role", .str (lit "user"))]) = 30 := by
  rw [estimateBlock, textBlock, wrapped_marshal _ _ (by decide +kernel) rfl (by decide +kernel)]
  decide +kernel

/-- The blocks of the request are the prelude, the marked system text and the message. -/
theorem cached_blocks : ∃ prelude system message,
    flattenClaudeCacheBlocks plainReader cachedSystem =
      [⟨prelude, 27, 0, false⟩, ⟨system, 1089, defaultPromptCacheTTL, false⟩,
        ⟨message, 30, 0, true⟩] := by
  refine ⟨(buildCachePreludeBlock plainReader cachedSystem).value,
    .obj [(lit "block", .obj markedText), (lit "kind", .str (lit "system"))],
    .obj [(lit "block", textBlock (lit "hello")), (lit "kind", .str (lit "message")),
      (lit "role", .str (lit "user"))], ?_⟩
  rw [← prelude_tokens, ← system_tokens, ← message_tokens]
  rfl

theorem covered_tokens (streams : Bool) :
    (shortReport streams).coveredTokens plainReader = 1146 := by
  obtain ⟨prelude, system, message, blocks⟩ := cached_blocks
  unfold FinishedRequest.coveredTokens FinishedRequest.cacheProfile buildClaudeProfile
  have request : (shortReport streams).req = cachedSystem := rfl
  simp only [request, blocks]
  rfl

/-- The cache counts of this answer exceed the input that is billed. -/
theorem short_report_exceeds :
    ¬ AddsUp ((shortReport true).usage plainReader) (shortReport true).finalized.1 ∧
      ¬ AddsUp ((shortReport false).usage plainReader) (shortReport false).finalized.1 := by
  constructor
  · rw [FinishedRequest.usage_adds_up_iff, covered_tokens]
    decide
  · rw [FinishedRequest.usage_adds_up_iff, covered_tokens]
    decide

end Excess

end KiroProxy.ClaudeUsage
