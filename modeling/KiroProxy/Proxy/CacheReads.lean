import KiroProxy.Proxy.CanonicalValues
import KiroProxy.Proxy.SharedPrefixes

/-!
# What a prompt reads was sent before

The tracker of `proxy/cache_tracker.go` reports cache reads for a prompt only where an earlier
prompt on the same account began with the same blocks: up to the order of fields and the cache
markers for Claude requests, literally for translated payloads. A prompt of one kind reads
nothing of the other kind.
-/

namespace KiroProxy.CacheReads

open CanonicalValues Foundation.SelfDelimiting
open Foundation.Searching (first_separator_unique)
open GoStrings JsonText KiroTypes PayloadText
open Pool (Time hour)
open PromptCache TokenEstimator

set_option autoImplicit false

section Prompts

variable {Fingerprint : Type} (reader : CacheReader Fingerprint)

/-- A prompt with the input tokens that are counted for it. -/
inductive Prompt where
  | claude (req : ClaudeRequest) (totalInputTokens : Int)
  | openAI (payload : SentPayload) (totalInputTokens : Int)

def Prompt.profile : Prompt → Option (PromptCacheProfile Fingerprint)
  | .claude req totalInputTokens => buildClaudeProfile reader req totalInputTokens
  | .openAI payload totalInputTokens => buildOpenAIProfile reader payload totalInputTokens

/-- The canonical texts that are hashed, block by block. -/
def Prompt.chunks : Prompt → List GoString
  | .claude req _ =>
      (flattenClaudeCacheBlocks reader req).map fun block => canonicalizeCacheValue block.value
  | .openAI payload _ => promptBlocks payload

/-- The first blocks of two prompts are the same. -/
def SharesBlocks (count : Nat) : Prompt → Prompt → Prop
  | .claude first _, .claude second _ =>
      List.Forall₂ (fun block other => Alike block.value other.value)
        ((flattenClaudeCacheBlocks reader first).take count)
        ((flattenClaudeCacheBlocks reader second).take count)
  | .openAI first _, .openAI second _ =>
      (promptBlocks first).take count = (promptBlocks second).take count
  | _, _ => False

/-- What `encoding/json` decodes into a request. -/
structure DecodedRequest (req : ClaudeRequest) : Prop where
  model : validText req.model = true
  toolChoice : Decoded req.toolChoice
  tools : ∀ tool ∈ req.tools, validText tool.name = true ∧ validText tool.description = true ∧
    Decoded tool.inputSchema
  system : Decoded req.system
  messages : ∀ msg ∈ req.messages, validText msg.role = true ∧ Decoded msg.content

def Prompt.Decodes : Prompt → Prop
  | .claude req _ => DecodedRequest req
  | .openAI _ _ => True

/-- The tokens of the first blocks. -/
def sharedTokens (prompt : Prompt) (count : Nat) : Int :=
  blockTokens reader ((prompt.chunks reader).take count)

end Prompts

section Chunks

/-- A chunk with its length in front. -/
def chunkText (chunk : GoString) : GoString := writeHashChunk [] chunk

theorem chunk_shape (chunk rest : GoString) :
    chunkText chunk ++ rest = Decimals.decimal chunk.length ++ 0x00 :: (chunk ++ 0x00 :: rest) := by
  rw [chunkText, writeHashChunk, Decimals.decimal]
  simp only [List.nil_append, List.append_assoc, List.cons_append]

/-- The length in front of a chunk tells where the chunk ends. -/
theorem chunks_apart : Apart chunkText fun _ => True := by
  intro chunk _ other rest more _ _ _ same
  have digits : ∀ number : Nat, (0x00 : UInt8) ∉ Decimals.decimal number := by
    intro number member
    exact absurd (Decimals.decimal_digits number 0x00 member) (by decide)
  rw [chunk_shape, chunk_shape] at same
  obtain ⟨numbers, texts⟩ := first_separator_unique 0x00 (digits _) (digits _) same
  obtain ⟨equal, ends⟩ := List.append_inj texts (Decimals.decimal_injective _ _ numbers)
  exact ⟨equal, (List.cons.inj ends).2⟩

theorem chunk_nonempty (chunk : GoString) : chunkText chunk ≠ [] := by
  rw [chunkText, writeHashChunk]
  exact List.append_ne_nil_of_right_ne_nil _ (List.cons_ne_nil _ _)

theorem written_chunks (written : GoString) (chunks : List GoString) :
    writtenAfter written chunks = written ++ chunks.flatMap chunkText := by
  induction chunks generalizing written with
  | nil => exact (List.append_nil written).symm
  | cons chunk chunks ih =>
      change writtenAfter (writeHashChunk written chunk) chunks = _
      rw [ih, List.flatMap_cons, ← List.append_assoc, chunkText, writeHashChunk, writeHashChunk]
      simp only [List.nil_append, List.append_assoc]

/-- What is hashed tells which chunks were written. -/
theorem written_injective (chunks others : List GoString)
    (same : writtenAfter [] chunks = writtenAfter [] others) : chunks = others := by
  rw [written_chunks, written_chunks, List.nil_append, List.nil_append] at same
  exact sequence_unique chunks_apart chunk_nonempty chunks others (fun _ _ => trivial)
    (fun _ _ => trivial) same

end Chunks

section Breakpoints

variable {Fingerprint : Type} (reader : CacheReader Fingerprint)

/-- A breakpoint stands behind so many of the chunks and counts no more tokens than theirs. -/
structure StandsBehind (chunks : List GoString) (breakpoint : PromptCacheBreakpoint Fingerprint)
    (count : Nat) : Prop where
  some_ : 0 < count
  within : count ≤ chunks.length
  fingerprint : breakpoint.fingerprint = reader.sum (writtenAfter [] (chunks.take count))
  tokens : breakpoint.cumulativeTokens ≤ blockTokens reader (chunks.take count)
  ttl : breakpoint.ttl ≤ hour

/-- What the builders have after some chunks. -/
structure Marked (chunks : List GoString) (state : ProfileState Fingerprint) : Prop where
  written : state.written = writtenAfter [] chunks
  tokens : state.cumulativeTokens = blockTokens reader chunks
  breakpoints : ∀ breakpoint ∈ state.breakpoints,
    ∃ count, StandsBehind reader chunks breakpoint count

theorem start_marked : Marked reader [] (startProfile : ProfileState Fingerprint) :=
  ⟨rfl, rfl, fun _ member => absurd member List.not_mem_nil⟩

theorem StandsBehind.append {reader : CacheReader Fingerprint} {chunks : List GoString}
    {breakpoint : PromptCacheBreakpoint Fingerprint} {count : Nat}
    (behind : StandsBehind reader chunks breakpoint count) (more : List GoString) :
    StandsBehind reader (chunks ++ more) breakpoint count := by
  have taken : (chunks ++ more).take count = chunks.take count :=
    List.take_append_of_le_length behind.within
  refine ⟨behind.some_, ?_, ?_, ?_, behind.ttl⟩
  · rw [List.length_append]
    exact Nat.le_add_right_of_le behind.within
  · rw [taken, behind.fingerprint]
  · rw [taken]
    exact behind.tokens

theorem last_behind (chunks : List GoString) (chunk : GoString)
    (breakpoint : PromptCacheBreakpoint Fingerprint)
    (fingerprint : breakpoint.fingerprint = reader.sum (writtenAfter [] (chunks ++ [chunk])))
    (tokens : breakpoint.cumulativeTokens ≤ blockTokens reader (chunks ++ [chunk]))
    (ttl : breakpoint.ttl ≤ hour) :
    StandsBehind reader (chunks ++ [chunk]) breakpoint (chunks.length + 1) := by
  have whole : (chunks ++ [chunk]).length = chunks.length + 1 := by
    rw [List.length_append, List.length_singleton]
  have taken : (chunks ++ [chunk]).take (chunks.length + 1) = chunks ++ [chunk] :=
    List.take_of_length_le (Nat.le_of_eq whole)
  refine ⟨Nat.succ_pos _, Nat.le_of_eq whole.symm, ?_, ?_, ttl⟩
  · rw [taken, fingerprint]
  · rw [taken]
    exact tokens

theorem written_snoc (chunks : List GoString) (chunk : GoString) :
    writtenAfter [] (chunks ++ [chunk]) = writeHashChunk (writtenAfter [] chunks) chunk := by
  rw [writtenAfter, List.foldl_append]
  rfl

theorem tokens_snoc (chunks : List GoString) (chunk : GoString) :
    blockTokens reader (chunks ++ [chunk]) =
      blockTokens reader chunks + estimateApproxTokens reader.weigh chunk := by
  rw [block_tokens_append, blockTokens, blockTokens, Int.add_zero]

theorem claude_block_marked (chunks : List GoString) (state : ProfileState Fingerprint)
    (marked : Marked reader chunks state) (active : state.activeTTL ≤ hour)
    (block : CacheablePromptBlock) (tokens : block.tokens = estimateBlock reader block.value)
    (ttl : block.ttl ≤ hour) :
    Marked reader (chunks ++ [canonicalizeCacheValue block.value])
      (addClaudeBlock reader state block) ∧
      (addClaudeBlock reader state block).activeTTL ≤ hour := by
  have written := written_snoc chunks (canonicalizeCacheValue block.value)
  rw [← marked.written] at written
  have sums := tokens_snoc reader chunks (canonicalizeCacheValue block.value)
  rw [← marked.tokens] at sums
  rw [estimateBlock] at tokens
  constructor
  · refine ⟨written.symm, ?_, ?_⟩
    · rw [addClaudeBlock, sums, tokens]
    · intro breakpoint member
      rw [addClaudeBlock] at member
      dsimp only at member
      have new : ∀ term, term ≤ hour →
          ∃ count, StandsBehind reader (chunks ++ [canonicalizeCacheValue block.value])
            ⟨reader.sum (writeHashChunk state.written (canonicalizeCacheValue block.value)),
              state.cumulativeTokens + block.tokens, term⟩ count := by
        intro term bounded
        refine ⟨_, last_behind reader chunks _ _ (congrArg reader.sum written.symm) ?_ bounded⟩
        rw [sums, tokens]
      have old : breakpoint ∈ state.breakpoints → ∃ count,
          StandsBehind reader (chunks ++ [canonicalizeCacheValue block.value]) breakpoint count := by
        intro before
        obtain ⟨count, behind⟩ := marked.breakpoints breakpoint before
        exact ⟨count, behind.append _⟩
      split_ifs at member
      all_goals
        first
          | exact old member
          | rcases List.mem_append.mp member with before | last
            · exact old before
            · rw [List.mem_singleton.mp last]
              first
                | exact new _ ttl
                | exact new _ active
                | exact new 0 (by decide)
  · rw [addClaudeBlock]
    dsimp only
    split_ifs
    · exact ttl
    · exact active

theorem stable_block_marked (model : GoString) (totalInputTokens : Int) (chunks : List GoString)
    (state : ProfileState Fingerprint) (marked : Marked reader chunks state) (chunk : GoString) :
    Marked reader (chunks ++ [chunk])
      (addStableBlock reader model totalInputTokens state chunk) := by
  have written := written_snoc chunks chunk
  rw [← marked.written] at written
  have sums := tokens_snoc reader chunks chunk
  rw [← marked.tokens] at sums
  refine ⟨written.symm, sums.symm, ?_⟩
  intro breakpoint member
  rw [addStableBlock] at member
  dsimp only at member
  have old : breakpoint ∈ state.breakpoints → ∃ count,
      StandsBehind reader (chunks ++ [chunk]) breakpoint count := by
    intro before
    obtain ⟨count, behind⟩ := marked.breakpoints breakpoint before
    exact ⟨count, behind.append _⟩
  split_ifs at member
  · exact old member
  · rcases List.mem_append.mp member with before | last
    · exact old before
    · rw [List.mem_singleton.mp last]
      have short : defaultPromptCacheTTL ≤ hour := by decide
      refine ⟨_, last_behind reader chunks chunk _ (congrArg reader.sum written.symm) ?_ short⟩
      rw [sums]
      exact Int.min_le_left _ _

theorem text_decoded (text : GoString) (valid : validText text = true) : Decoded (.str text) :=
  valid

/-- What holds of the prelude, the tools and the blocks of a prompt holds of every block. -/
theorem every_block (req : ClaudeRequest) (P : CacheablePromptBlock → Prop)
    (prelude : P (buildCachePreludeBlock reader req))
    (tool : ∀ tool ∈ req.tools, P (toolBlock reader tool))
    (system : ∀ block isMessageEnd, (Decoded req.system → Decoded block) →
      ∀ made ∈ promptBlock reader [(lit "kind", Json.str (lit "system"))] block isMessageEnd,
        P made)
    (message : ∀ msg ∈ req.messages, ∀ block isMessageEnd, (Decoded msg.content → Decoded block) →
      ∀ made ∈ promptBlock reader [(lit "kind", Json.str (lit "message")),
        (lit "role", .str msg.role)] block isMessageEnd, P made) :
    ∀ block ∈ flattenClaudeCacheBlocks reader req, P block := by
  have text : ∀ text, Decoded (.str text) → Decoded (textBlock text) := by
    intro text valid
    have distinct : [lit "text", lit "type"].Nodup := by decide
    exact ⟨distinct, ⟨by decide, valid⟩, ⟨by decide, text_decoded _ (by decide)⟩, trivial⟩
  intro block member
  unfold flattenClaudeCacheBlocks at member
  simp only [List.cons_append, List.mem_cons, List.mem_append, List.mem_map, List.mem_flatMap]
    at member
  rcases member with rfl | (⟨found, inside, rfl⟩ | systems) | ⟨msg, sent, inside⟩
  · exact prelude
  · exact tool found inside
  · unfold systemCacheBlocks at systems
    split at systems
    · next whole => exact system _ _ (fun decoded => text _ (whole ▸ decoded)) block systems
    · next whole =>
        obtain ⟨value, listed, inside⟩ := List.mem_flatMap.mp systems
        refine system value false (fun decoded => ?_) block inside
        rw [whole] at decoded
        exact (decoded_items_iff _).mp decoded value listed
    · exact absurd systems List.not_mem_nil
  · unfold messageCacheBlocks at inside
    split at inside
    · next whole => exact message msg sent _ _ (fun decoded => text _ (whole ▸ decoded)) block inside
    · next whole =>
        obtain ⟨made, found, inside⟩ := List.mem_flatten.mp inside
        obtain ⟨index, bound, rfl⟩ := List.mem_mapIdx.mp found
        refine message msg sent _ _ (fun decoded => ?_) block inside
        rw [whole] at decoded
        exact (decoded_items_iff _).mp decoded _ (List.getElem_mem bound)
    · exact absurd inside List.not_mem_nil
    · exact message msg sent msg.content true id block inside

theorem normalized_hour (ttl : Int) : normalizePromptCacheTTL ttl ≤ hour := by
  rw [normalizePromptCacheTTL]
  split_ifs <;> decide

theorem prompt_block_made (wrapper : JsonFields) (block : Json) (isMessageEnd : Bool)
    (made : CacheablePromptBlock) (member : made ∈ promptBlock reader wrapper block isMessageEnd) :
    made.value = .obj ((lit "block", block) :: wrapper) ∧
      made.tokens = estimateBlock reader made.value ∧ made.ttl ≤ hour := by
  rw [promptBlock] at member
  split_ifs at member
  · exact absurd member List.not_mem_nil
  · rw [List.mem_singleton.mp member]
    exact ⟨rfl, rfl, normalized_hour _⟩

theorem block_counts (req : ClaudeRequest) : ∀ block ∈ flattenClaudeCacheBlocks reader req,
    block.tokens = estimateBlock reader block.value ∧ block.ttl ≤ hour := by
  have never : (0 : Int) ≤ hour := by decide
  apply every_block reader req
  · exact ⟨rfl, never⟩
  · exact fun tool _ => ⟨rfl, normalized_hour _⟩
  · exact fun block isMessageEnd _ made member =>
      (prompt_block_made reader _ block isMessageEnd made member).2
  · exact fun msg _ block isMessageEnd _ made member =>
      (prompt_block_made reader _ block isMessageEnd made member).2

theorem wrapped_decoded (block : Json) (wrapper : JsonFields) (decoded : Decoded block)
    (fields : DecodedFields wrapper)
    (distinct : ((lit "block") :: wrapper.map Prod.fst).Nodup) :
    Decoded (.obj ((lit "block", block) :: wrapper)) :=
  ⟨distinct, ⟨by decide, decoded⟩, fields⟩

theorem blocks_decoded (req : ClaudeRequest) (decoded : DecodedRequest req) :
    ∀ block ∈ flattenClaudeCacheBlocks reader req, Decoded block.value := by
  apply every_block reader req
  · have distinct : [lit "kind", lit "model", lit "tool_choice"].Nodup := by decide
    exact ⟨distinct, ⟨by decide, text_decoded _ (by decide)⟩, ⟨by decide, decoded.model⟩,
      ⟨by decide, decoded.toolChoice⟩, trivial⟩
  · intro tool member
    obtain ⟨name, description, schema⟩ := decoded.tools tool member
    have distinct : [lit "description", lit "input_schema", lit "kind", lit "name"].Nodup := by
      decide
    exact ⟨distinct, ⟨by decide, description⟩, ⟨by decide, schema⟩,
      ⟨by decide, text_decoded _ (by decide)⟩, ⟨by decide, name⟩, trivial⟩
  · intro block isMessageEnd reads made member
    rw [(prompt_block_made reader _ block isMessageEnd made member).1]
    have distinct : [lit "block", lit "kind"].Nodup := by decide
    exact wrapped_decoded block _ (reads decoded.system)
      ⟨⟨by decide, text_decoded _ (by decide)⟩, trivial⟩ distinct
  · intro msg sent block isMessageEnd reads made member
    obtain ⟨role, content⟩ := decoded.messages msg sent
    rw [(prompt_block_made reader _ block isMessageEnd made member).1]
    have distinct : [lit "block", lit "kind", lit "role"].Nodup := by decide
    exact wrapped_decoded block _ (reads content)
      ⟨⟨by decide, text_decoded _ (by decide)⟩, ⟨by decide, role⟩, trivial⟩ distinct

/-- Every breakpoint of a prompt stands behind some of its chunks. -/
theorem breakpoint_behind (prompt : Prompt) (profile : PromptCacheProfile Fingerprint)
    (built : prompt.profile reader = some profile) :
    ∀ breakpoint ∈ profile.breakpoints,
      ∃ count, StandsBehind reader (prompt.chunks reader) breakpoint count := by
  cases prompt with
  | claude req totalInputTokens =>
      have counts := block_counts reader req
      have marked : ∀ (blocks : List CacheablePromptBlock) (chunks : List GoString)
          (state : ProfileState Fingerprint), Marked reader chunks state →
          state.activeTTL ≤ hour →
          (∀ block ∈ blocks, block.tokens = estimateBlock reader block.value ∧
            block.ttl ≤ hour) →
          Marked reader (chunks ++ blocks.map fun block => canonicalizeCacheValue block.value)
            (blocks.foldl (addClaudeBlock reader) state) := by
        intro blocks
        induction blocks with
        | nil =>
            intro chunks state marked _ _
            rwa [List.map_nil, List.append_nil]
        | cons block blocks ih =>
            intro chunks state marked active each
            obtain ⟨here, later⟩ := List.forall_mem_cons.mp each
            obtain ⟨next, active'⟩ := claude_block_marked reader chunks state marked active block
              here.1 here.2
            have rest := ih _ _ next active' later
            rwa [List.append_assoc] at rest
      have never : (0 : Int) ≤ hour := by decide
      have whole := marked (flattenClaudeCacheBlocks reader req) [] startProfile
        (start_marked reader) never counts
      rw [List.nil_append] at whole
      simp only [Prompt.profile, buildClaudeProfile] at built
      split_ifs at built
      rw [← Option.some.inj built]
      exact whole.breakpoints
  | openAI payload totalInputTokens =>
      have marked : ∀ (blocks chunks : List GoString) (state : ProfileState Fingerprint),
          Marked reader chunks state →
          Marked reader (chunks ++ blocks) (blocks.foldl
            (addStableBlock reader payload.current.modelID totalInputTokens) state) := by
        intro blocks
        induction blocks with
        | nil =>
            intro chunks state marked
            rwa [List.append_nil]
        | cons block blocks ih =>
            intro chunks state marked
            have rest := ih _ _ (stable_block_marked reader payload.current.modelID
              totalInputTokens chunks state marked block)
            rwa [List.append_assoc] at rest
      have whole := marked (promptBlocks payload) [] startProfile (start_marked reader)
      rw [List.nil_append] at whole
      simp only [Prompt.profile, buildOpenAIProfile] at built
      split_ifs at built
      rw [← Option.some.inj built]
      exact whole.breakpoints

end Breakpoints

section Sharing

variable {Fingerprint : Type} (reader : CacheReader Fingerprint)

/-- The first byte of the first key tells the first block of one kind from that of the other. -/
theorem first_chunks_apart (req : ClaudeRequest) (payload : SentPayload) :
    canonicalizeCacheValue (buildCachePreludeBlock reader req).value ≠ stableBlock payload := by
  have sorted : (marshalFields [(lit "kind", Json.str (lit "request_prelude")),
      (lit "model", .str req.model),
      (lit "tool_choice", withoutCacheControl req.toolChoice)]).Pairwise
      fun left right => decide (left.1 ≤ right.1) = true := by
    simp only [marshalFields, List.pairwise_cons, List.mem_cons, List.not_mem_nil, or_false,
      forall_eq_or_imp, forall_eq, false_implies, implies_true, List.Pairwise.nil, and_true]
    have order : lit "kind" ≤ lit "model" ∧ lit "kind" ≤ lit "tool_choice" ∧
        lit "model" ≤ lit "tool_choice" := by decide
    exact ⟨⟨decide_eq_true order.1, decide_eq_true order.2.1⟩, decide_eq_true order.2.2⟩
  have plain : fieldsWithoutCacheControl [(lit "kind", Json.str (lit "request_prelude")),
      (lit "model", .str req.model), (lit "tool_choice", req.toolChoice)] =
      [(lit "kind", Json.str (lit "request_prelude")), (lit "model", .str req.model),
        (lit "tool_choice", withoutCacheControl req.toolChoice)] := by
    have kept : lit "kind" ≠ lit "cache_control" ∧ lit "model" ≠ lit "cache_control" ∧
        lit "tool_choice" ≠ lit "cache_control" := by decide
    simp only [fieldsWithoutCacheControl, withoutCacheControl, if_neg kept.1, if_neg kept.2.1,
      if_neg kept.2.2]
  have start : ∀ (key : GoString) (value : GoString) (more : List GoString),
      ∃ rest, marshalObject (marshalMember key value :: more) =
        lit "\x7b" ++ (marshalString key ++ rest) := by
    intro key value more
    have comma : lit "," = [0x2C] := by decide
    refine ⟨lit ":" ++ value ++ (more.flatMap fun text => 0x2C :: text) ++ lit "\x7d", ?_⟩
    rw [marshalObject, comma, intercalate_cons, marshalMember]
    simp only [List.append_assoc]
  intro same
  simp only [canonicalizeCacheValue, buildCachePreludeBlock, withoutCacheControl] at same
  rw [plain, marshal_sorted _ sorted] at same
  simp only [marshalFields, List.map_cons, List.map_nil, stableBlock, List.cons_append] at same
  obtain ⟨rest, one⟩ := start (lit "kind") (marshal (.str (lit "request_prelude")))
    [marshalMember (lit "model") (marshal (.str req.model)),
      marshalMember (lit "tool_choice") (marshal (withoutCacheControl req.toolChoice))]
  rw [one] at same
  obtain ⟨more, two⟩ := start (lit "inference_config") _ _
  rw [two] at same
  have keys := (string_unique (lit "kind") (lit "inference_config") rest more (by decide)
    (by decide) (List.append_cancel_left same)).1
  exact absurd keys (by decide)

/-- Prompts whose first chunks are equal share the blocks. -/
theorem chunks_shared (first second : Prompt) (decodes : first.Decodes) (decodes' : second.Decodes)
    (count : Nat) (some_ : 0 < count)
    (same : (first.chunks reader).take count = (second.chunks reader).take count) :
    SharesBlocks reader count first second := by
  have mixed : ∀ (req : ClaudeRequest) (payload : SentPayload),
      ((flattenClaudeCacheBlocks reader req).map fun block =>
        canonicalizeCacheValue block.value).take count ≠ (promptBlocks payload).take count := by
    intro req payload equal
    obtain ⟨rest, rfl⟩ := Nat.exists_eq_succ_of_ne_zero (Nat.pos_iff_ne_zero.mp some_)
    rw [flattenClaudeCacheBlocks, promptBlocks] at equal
    simp only [List.cons_append, List.map_cons, List.take_succ_cons] at equal
    exact first_chunks_apart reader req payload (List.cons.inj equal).1
  cases first with
  | claude req total =>
      cases second with
      | claude req' total' =>
          simp only [Prompt.chunks, ← List.map_take] at same
          have read : ∀ (blocks others : List CacheablePromptBlock),
              (∀ block ∈ blocks, Decoded block.value) → (∀ block ∈ others, Decoded block.value) →
              (blocks.map fun block => canonicalizeCacheValue block.value) =
                (others.map fun block => canonicalizeCacheValue block.value) →
              List.Forall₂ (fun block other => Alike block.value other.value) blocks others := by
            intro blocks
            induction blocks with
            | nil =>
                intro others _ _ equal
                rw [List.map_eq_nil_iff.mp equal.symm]
                exact .nil
            | cons block blocks ih =>
                intro others here there equal
                cases others with
                | nil => exact absurd equal (List.cons_ne_nil _ _)
                | cons other others =>
                    obtain ⟨one, rest⟩ := List.forall_mem_cons.mp here
                    obtain ⟨two, tail⟩ := List.forall_mem_cons.mp there
                    rw [List.map_cons, List.map_cons] at equal
                    exact .cons (texts_alike _ _ one two (List.cons.inj equal).1)
                      (ih others rest tail (List.cons.inj equal).2)
          exact read _ _
            (fun block member => blocks_decoded reader req decodes block
              (List.mem_of_mem_take member))
            (fun block member => blocks_decoded reader req' decodes' block
              (List.mem_of_mem_take member)) same
      | openAI payload total' => exact absurd same (mixed req payload)
  | openAI payload total =>
      cases second with
      | claude req total' => exact absurd same.symm (mixed req payload)
      | openAI payload' total' => exact same

end Sharing

section Runs

variable {Fingerprint : Type} (reader : CacheReader Fingerprint)

/-- A call of the tracker for a prompt. -/
structure PromptCall where
  updates : Bool
  accountID : GoString
  prompt : Prompt
  now : Time

def PromptCall.made (call : PromptCall) : TrackerCall Fingerprint :=
  ⟨call.updates, call.accountID, call.prompt.profile reader, call.now⟩

/-- The prompt has a breakpoint of the fingerprint. -/
def Marks (prompt : Prompt) (fingerprint : Fingerprint) : Prop :=
  ∃ profile, prompt.profile reader = some profile ∧
    ∃ breakpoint ∈ profile.breakpoints, breakpoint.fingerprint = fingerprint

/-- Some call of the account stored the entry, and some call touched it no longer than an hour
before it expires. -/
structure Justified (calls : List PromptCall) (accountID : GoString)
    (entry : Fingerprint × PromptCacheEntry) : Prop where
  stored : ∃ call ∈ calls, call.updates = true ∧ call.accountID = accountID ∧
    Marks reader call.prompt entry.1
  touched : ∃ call ∈ calls, call.accountID = accountID ∧ Marks reader call.prompt entry.1 ∧
    entry.2.expiresAt ≤ call.now + hour
  ttl : entry.2.ttl ≤ hour

def JustifiedTracker (calls : List PromptCall) (tracker : PromptCacheTracker Fingerprint) : Prop :=
  ∀ account ∈ tracker.entriesByAccount, ∀ entry ∈ account.2,
    Justified reader calls account.1 entry

variable {reader} {calls : List PromptCall} {tracker : PromptCacheTracker Fingerprint}

theorem Justified.more {accountID : GoString} {entry : Fingerprint × PromptCacheEntry}
    (justified : Justified reader calls accountID entry) (call : PromptCall) :
    Justified reader (calls ++ [call]) accountID entry := by
  obtain ⟨stored, member, updates, account, marks⟩ := justified.stored
  obtain ⟨touched, member', account', marks', late⟩ := justified.touched
  exact ⟨⟨stored, List.mem_append_left _ member, updates, account, marks⟩,
    ⟨touched, List.mem_append_left _ member', account', marks', late⟩, justified.ttl⟩

theorem JustifiedTracker.more (justified : JustifiedTracker reader calls tracker)
    (call : PromptCall) : JustifiedTracker reader (calls ++ [call]) tracker :=
  fun account member entry inside => (justified account member entry inside).more call

theorem prune_justified (justified : JustifiedTracker reader calls tracker) (now : Time) :
    JustifiedTracker reader calls (pruneExpired tracker now) := by
  intro account member entry inside
  obtain ⟨whole, old, rfl⟩ := List.mem_map.mp (List.mem_of_mem_filter member)
  exact justified whole old entry (List.mem_of_mem_filter inside)

theorem entries_justified (justified : JustifiedTracker reader calls tracker)
    (accountID : GoString) :
    ∀ entry ∈ entriesOf tracker accountID, Justified reader calls accountID entry := by
  rw [entriesOf]
  cases found : tracker.entriesByAccount.lookup accountID with
  | none => exact fun entry member => absurd member List.not_mem_nil
  | some entries =>
      obtain ⟨before, after, split, _⟩ := List.lookup_eq_some_iff.mp found
      have member : (accountID, entries) ∈ tracker.entriesByAccount := by
        rw [split]
        exact List.mem_append_right _ List.mem_cons_self
      exact fun entry inside => justified _ member entry inside

/-- Pruning leaves live entries only. -/
theorem pruned_live (now : Time) (accountID : GoString) :
    ∀ entry ∈ entriesOf (pruneExpired tracker now) accountID, now < entry.2.expiresAt := by
  rw [entriesOf]
  cases found : (pruneExpired tracker now).entriesByAccount.lookup accountID with
  | none => exact fun entry member => absurd member List.not_mem_nil
  | some entries =>
      obtain ⟨before, after, split, _⟩ := List.lookup_eq_some_iff.mp found
      have member : (accountID, entries) ∈ (pruneExpired tracker now).entriesByAccount := by
        rw [split]
        exact List.mem_append_right _ List.mem_cons_self
      obtain ⟨whole, _, same⟩ := List.mem_map.mp (List.mem_of_mem_filter member)
      intro entry inside
      rw [Option.getD_some, ← (Prod.mk.inj same).2] at inside
      exact of_decide_eq_true (List.mem_filter.mp inside).2

theorem set_account_justified (justified : JustifiedTracker reader calls tracker)
    (accountID : GoString) (entries : Entries Fingerprint)
    (each : ∀ entry ∈ entries, Justified reader calls accountID entry) :
    JustifiedTracker reader calls (setAccount tracker accountID entries) := by
  intro account member entry inside
  rcases List.mem_cons.mp member with rfl | other
  · exact each entry inside
  · exact justified account (List.mem_of_mem_filter other) entry inside

variable [DecidableEq Fingerprint]

theorem set_entry_justified (accountID : GoString) (entries : Entries Fingerprint)
    (each : ∀ entry ∈ entries, Justified reader calls accountID entry)
    (fingerprint : Fingerprint) (entry : PromptCacheEntry)
    (new : Justified reader calls accountID (fingerprint, entry)) :
    ∀ other ∈ setEntry entries fingerprint entry, Justified reader calls accountID other := by
  intro other member
  rcases List.mem_cons.mp member with rfl | old
  · exact new
  · exact each other (List.mem_of_mem_filter old)

theorem update_justified (letters : Letters) (justified : JustifiedTracker reader calls tracker)
    (call : PromptCall) (updates : call.updates = true) :
    JustifiedTracker reader (calls ++ [call])
      (update letters tracker call.accountID (call.prompt.profile reader) call.now) := by
  have last : call ∈ calls ++ [call] := List.mem_append_right _ (List.mem_singleton.mpr rfl)
  have older := justified.more call
  cases built : call.prompt.profile reader with
  | none => exact older
  | some profile =>
      rw [update]
      split_ifs
      · exact older
      · have pruned := prune_justified older call.now
        apply set_account_justified pruned
        have new : ∀ breakpoint ∈ profile.breakpoints,
            Justified reader (calls ++ [call]) call.accountID
              (breakpoint.fingerprint, ⟨call.now + breakpoint.ttl, breakpoint.ttl⟩) := by
          intro breakpoint member
          have marks : Marks reader call.prompt breakpoint.fingerprint :=
            ⟨profile, built, breakpoint, member, rfl⟩
          obtain ⟨_, behind⟩ := breakpoint_behind reader call.prompt profile built breakpoint member
          exact ⟨⟨call, last, updates, rfl, marks⟩,
            ⟨call, last, rfl, marks, Int.add_le_add_left behind.ttl call.now⟩, behind.ttl⟩
        refine List.foldlRecOn (motive := fun entries => ∀ entry ∈ entries,
          Justified reader (calls ++ [call]) call.accountID entry) profile.breakpoints _
          (entries_justified pruned call.accountID) ?_
        intro entries each breakpoint member
        split_ifs
        · exact each
        · exact set_entry_justified _ entries each _ _ (new breakpoint member)

/-- A match is of a stored entry behind one of the breakpoints. -/
theorem match_stored (entries : Entries Fingerprint) (minTokens : Int) (now : Time)
    (breakpoints : List (PromptCacheBreakpoint Fingerprint))
    (breakpoint : PromptCacheBreakpoint Fingerprint) (entry : PromptCacheEntry)
    (matched : matchedBreakpoint entries minTokens now breakpoints = some (breakpoint, entry)) :
    breakpoint ∈ breakpoints ∧ (breakpoint.fingerprint, entry) ∈ entries := by
  obtain ⟨member, found⟩ := matched_found now _ _ _ breakpoint entry matched
  obtain ⟨before, after, split, _⟩ := List.lookup_eq_some_iff.mp found
  refine ⟨member, ?_⟩
  rw [split]
  exact List.mem_append_right _ List.mem_cons_self

theorem compute_justified (letters : Letters) (justified : JustifiedTracker reader calls tracker)
    (call : PromptCall) :
    JustifiedTracker reader (calls ++ [call])
      (compute letters tracker call.accountID (call.prompt.profile reader) call.now).2 := by
  have last : call ∈ calls ++ [call] := List.mem_append_right _ (List.mem_singleton.mpr rfl)
  have older := justified.more call
  have pruned := prune_justified older call.now
  cases built : call.prompt.profile reader with
  | none => exact older
  | some profile =>
      rw [compute]
      dsimp only
      split
      · exact older
      · split_ifs
        · exact older
        · exact pruned
        · exact pruned
        · rw [computeCached]
          dsimp only
          split
          · exact pruned
          · next breakpoint entry matched =>
              obtain ⟨member, stored⟩ := match_stored _ _ _ _ breakpoint entry matched
              have kept := entries_justified pruned call.accountID _ stored
              apply set_account_justified pruned
              apply set_entry_justified _ _ (entries_justified pruned call.accountID)
              exact ⟨kept.stored, ⟨call, last, rfl, ⟨profile, built, breakpoint, member, rfl⟩,
                Int.add_le_add_left kept.ttl call.now⟩, kept.ttl⟩

/-- Whatever calls were made, every entry goes back to one that stored it. -/
theorem calls_justified (letters : Letters) (made : List PromptCall) :
    JustifiedTracker reader made (afterCalls letters (made.map (PromptCall.made reader))) := by
  induction made using List.reverseRecOn with
  | nil => exact fun account member => absurd member List.not_mem_nil
  | append_singleton made call ih =>
      rw [afterCalls] at ih ⊢
      rw [List.map_append, List.foldl_append, List.map_singleton, List.foldl_cons, List.foldl_nil,
        TrackerCall.run]
      split_ifs with updates
      · exact update_justified letters ih call updates
      · exact compute_justified letters ih call

/-- A read is of a live entry behind one of the breakpoints, and of no more than its tokens. -/
theorem read_found (letters : Letters) (accountID : GoString)
    (profile : PromptCacheProfile Fingerprint) (now : Time)
    (reads : 0 < (compute letters tracker accountID (some profile) now).1.cacheReadInputTokens) :
    ∃ breakpoint ∈ profile.breakpoints, ∃ entry,
      (breakpoint.fingerprint, entry) ∈ entriesOf (pruneExpired tracker now) accountID ∧
      (compute letters tracker accountID (some profile) now).1.cacheReadInputTokens ≤
        breakpoint.cumulativeTokens := by
  rw [compute] at reads ⊢
  dsimp only at reads ⊢
  cases final : profile.breakpoints.getLast? with
  | none =>
      rw [final] at reads
      exact absurd reads (Int.lt_irrefl 0)
  | some last =>
      rw [final] at reads
      dsimp only at reads ⊢
      split_ifs at reads ⊢
      · exact absurd reads (Int.lt_irrefl 0)
      · exact absurd reads (Int.lt_irrefl 0)
      · exact absurd reads (Int.lt_irrefl 0)
      · rw [computeCached] at reads ⊢
        dsimp only at reads ⊢
        cases matched : matchedBreakpoint (entriesOf (pruneExpired tracker now) accountID)
            (minCacheableTokensForModel letters profile.model) now profile.breakpoints with
        | none =>
            rw [matched] at reads
            exact absurd reads (Int.lt_irrefl 0)
        | some pair =>
            obtain ⟨breakpoint, entry⟩ := pair
            obtain ⟨member, stored⟩ := match_stored _ _ _ _ breakpoint entry matched
            exact ⟨breakpoint, member, entry, stored,
              (Int.min_le_left _ _).trans (Int.min_le_left _ _)⟩

/-- What is hashed behind the first blocks. -/
def writtenBehind (reader : CacheReader Fingerprint) (prompt : Prompt) (count : Nat) : GoString :=
  writtenAfter [] ((prompt.chunks reader).take count)

/-- No two of the texts that the prompts write have one hash. -/
def Collisionless (reader : CacheReader Fingerprint) (prompts : List Prompt) : Prop :=
  ∀ first ∈ prompts, ∀ second ∈ prompts, ∀ count other,
    reader.sum (writtenBehind reader first count) = reader.sum (writtenBehind reader second other) →
      writtenBehind reader first count = writtenBehind reader second other

omit [DecidableEq Fingerprint] in
/-- A prompt with the fingerprint of a breakpoint has the blocks in front of it. -/
theorem marks_shared (prompts : List Prompt) (hashes : Collisionless reader prompts)
    (decoded : ∀ prompt ∈ prompts, prompt.Decodes) (first second : Prompt)
    (member : first ∈ prompts) (member' : second ∈ prompts)
    (breakpoint : PromptCacheBreakpoint Fingerprint) (count : Nat)
    (behind : StandsBehind reader (second.chunks reader) breakpoint count)
    (marks : Marks reader first breakpoint.fingerprint) :
    SharesBlocks reader count first second := by
  obtain ⟨profile, built, other, inside, same⟩ := marks
  obtain ⟨length, stands⟩ := breakpoint_behind reader first profile built other inside
  have sums := stands.fingerprint.symm.trans (same.trans behind.fingerprint)
  have chunks := written_injective _ _ (hashes first member second member' length count sums)
  have lengths := congrArg List.length chunks
  rw [List.length_take, List.length_take, Nat.min_eq_left stands.within,
    Nat.min_eq_left behind.within] at lengths
  rw [lengths] at chunks
  exact chunks_shared reader first second (decoded first member) (decoded second member') count
    behind.some_ chunks

/-- What a prompt reads after some calls. -/
def tokensRead (reader : CacheReader Fingerprint) (made : List PromptCall) (accountID : GoString)
    (prompt : Prompt) (now : Time) : Int :=
  (compute reader.letters (afterCalls reader.letters (made.map (PromptCall.made reader)))
    accountID (prompt.profile reader) now).1.cacheReadInputTokens

/-- A prompt reads no more than the blocks it shares with a prompt that was stored on the account,
some prompt of the account with these blocks having come within the hour. -/
theorem cache_reads_sent (reader : CacheReader Fingerprint) (made : List PromptCall)
    (accountID : GoString) (prompt : Prompt) (now : Time)
    (hashes : Collisionless reader (prompt :: made.map PromptCall.prompt))
    (decoded : ∀ sent ∈ prompt :: made.map PromptCall.prompt, sent.Decodes)
    (reads : 0 < tokensRead reader made accountID prompt now) :
    ∃ count, tokensRead reader made accountID prompt now ≤ sharedTokens reader prompt count ∧
      (∃ call ∈ made, call.updates = true ∧ call.accountID = accountID ∧
        SharesBlocks reader count call.prompt prompt) ∧
      ∃ call ∈ made, call.accountID = accountID ∧ now < call.now + hour ∧
        SharesBlocks reader count call.prompt prompt := by
  rw [tokensRead] at reads ⊢
  cases built : prompt.profile reader with
  | none =>
      rw [built] at reads
      exact absurd reads (Int.lt_irrefl 0)
  | some profile =>
      rw [built] at reads
      obtain ⟨breakpoint, member, entry, stored, tokens⟩ :=
        read_found reader.letters accountID profile now reads
      obtain ⟨count, behind⟩ := breakpoint_behind reader prompt profile built breakpoint member
      have live := pruned_live now accountID _ stored
      have justified := entries_justified
        (prune_justified (calls_justified reader.letters made) now) accountID _ stored
      have shares : ∀ call ∈ made, Marks reader call.prompt breakpoint.fingerprint →
          SharesBlocks reader count call.prompt prompt := by
        intro call sent marks
        exact marks_shared _ hashes decoded call.prompt prompt
          (List.mem_cons_of_mem _ (List.mem_map_of_mem sent)) List.mem_cons_self breakpoint count
          behind marks
      obtain ⟨first, sent, updates, account, marks⟩ := justified.stored
      obtain ⟨last, sent', account', marks', late⟩ := justified.touched
      refine ⟨count, tokens.trans behind.tokens, ⟨first, sent, updates, account,
        shares first sent marks⟩, last, sent', account', lt_of_lt_of_le live late,
        shares last sent' marks'⟩

end Runs

section Reading

open ClaudeUsage (cachedSystem cached_blocks plainReader)

/-- The question after `cachedSystem`. -/
def secondMessage : ClaudeMessage := ⟨lit "user", .str (lit "again")⟩

def markedQuestion : ClaudeRequest :=
  { cachedSystem with messages := cachedSystem.messages ++ [secondMessage] }

/-- Two prompts of an account, one of each kind. -/
def firstStored : List PromptCall :=
  [⟨true, lit "account", .openAI longQuestion 1500, 0⟩,
    ⟨true, lit "account", .claude cachedSystem 1146, 0⟩]

theorem marked_question_blocks : ∃ value tokens, 0 ≤ tokens ∧
    flattenClaudeCacheBlocks plainReader markedQuestion =
      flattenClaudeCacheBlocks plainReader cachedSystem ++ [⟨value, tokens, 0, true⟩] := by
  let value := Json.obj [(lit "block", textBlock (lit "again")),
    (lit "kind", .str (lit "message")), (lit "role", .str (lit "user"))]
  exact ⟨value, estimateBlock plainReader value, approx_tokens_nonneg plainReader.weigh _, rfl⟩

/-- Both requests have a breakpoint behind the message they share. -/
theorem marked_profiles : ∃ marked whole next : PromptCacheBreakpoint GoString,
    whole.cumulativeTokens = 1146 ∧ whole.cumulativeTokens ≤ next.cumulativeTokens ∧
      LongTerms [marked, whole] ∧
      buildClaudeProfile plainReader cachedSystem 1146 =
        some ⟨[marked, whole], 1146, cachedSystem.model⟩ ∧
      buildClaudeProfile plainReader markedQuestion 1146 =
        some ⟨[marked, whole, next], max 1146 next.cumulativeTokens, cachedSystem.model⟩ := by
  obtain ⟨start, system, message, blocks⟩ := cached_blocks
  obtain ⟨value, tokens, counted, more⟩ := marked_question_blocks
  let writes (written : GoString) (value : Json) : GoString :=
    writeHashChunk written (canonicalizeCacheValue value)
  let behind := writes (writes [] start) system
  refine ⟨⟨behind, 1116, defaultPromptCacheTTL⟩, ⟨writes behind message, 1146,
    defaultPromptCacheTTL⟩, ⟨writes (writes behind message) value, 1146 + tokens,
    defaultPromptCacheTTL⟩, rfl, Int.le_add_of_nonneg_right counted, ?_, ?_, ?_⟩
  · simp [LongTerms]
  · rw [buildClaudeProfile, blocks]
    rfl
  · rw [buildClaudeProfile, more, blocks]
    rfl

theorem second_question_reads_first :
    0 < tokensRead plainReader firstStored (lit "account") (.claude markedQuestion 1146) 60 := by
  obtain ⟨marked, whole, next, tokens, grows, terms, built, later⟩ := marked_profiles
  have named : lit "account" ≠ [] := by decide
  have floor : minCacheableTokensForModel plainReader.letters cachedSystem.model = 1024 := by
    decide
  have reaches : (1024 : Int) ≤ whole.cumulativeTokens := by omega
  have early : (60 : Time) < 0 + defaultPromptCacheTTL := by decide
  have lives : Lives (afterCalls plainReader.letters
      (firstStored.map (PromptCall.made plainReader))) (lit "account") whole.fingerprint
      (0 + defaultPromptCacheTTL) := by
    change Lives (update plainReader.letters _ (lit "account")
      (buildClaudeProfile plainReader cachedSystem 1146) 0) _ _ _
    rw [built, Lives, update_account plainReader.letters (lit "account") 0 _ _
      (List.cons_ne_nil _ _) named, entries_set_same]
    exact stored_lives 0 _ [marked] [] whole _ (by rw [floor]; exact reaches) terms
  have reads := compute_reads plainReader _ (lit "account") named 60 _ early
    ⟨[marked, whole, next], max 1146 next.cumulativeTokens, cachedSystem.model⟩ [marked] [next]
    whole rfl lives (by rw [floor]; exact reaches) (by simpa using grows)
    (grows.trans (le_max_right _ _))
  have cap := max_cacheable_positive (max 1146 next.cumulativeTokens) (by omega)
  rw [tokensRead, Prompt.profile, later]
  refine lt_of_lt_of_le ?_ reads
  rw [readCap]
  dsimp only [List.getLast?]
  simp only [List.getLast, lt_min_iff]
  omega

theorem second_question_reads_sent :
    ∃ count, tokensRead plainReader firstStored (lit "account") (.claude markedQuestion 1146) 60 ≤
        sharedTokens plainReader (.claude markedQuestion 1146) count ∧
      (∃ call ∈ firstStored, call.updates = true ∧ call.accountID = lit "account" ∧
        SharesBlocks plainReader count call.prompt (.claude markedQuestion 1146)) ∧
      ∃ call ∈ firstStored, call.accountID = lit "account" ∧ (60 : Time) < call.now + hour ∧
        SharesBlocks plainReader count call.prompt (.claude markedQuestion 1146) := by
  have system : Decoded cachedSystem.system := by
    simp only [cachedSystem, ClaudeUsage.markedText, Decoded, DecodedItems, DecodedFields]
    decide +kernel
  have first : DecodedRequest cachedSystem :=
    ⟨by decide +kernel, trivial, fun _ member => absurd member List.not_mem_nil, system, by
      simp only [cachedSystem, List.forall_mem_singleton, Decoded]
      decide +kernel⟩
  have second : DecodedRequest markedQuestion :=
    ⟨first.model, trivial, fun _ member => absurd member List.not_mem_nil, system, by
      rw [markedQuestion, List.forall_mem_append, List.forall_mem_singleton]
      simp only [secondMessage, Decoded]
      exact ⟨first.messages, by decide +kernel, by decide +kernel⟩⟩
  exact cache_reads_sent plainReader firstStored (lit "account") (.claude markedQuestion 1146) 60
    (fun _ _ _ _ _ _ same => same)
    (by simpa [firstStored, Prompt.Decodes] using ⟨second, first⟩) second_question_reads_first

end Reading

end KiroProxy.CacheReads
