import KiroProxy.Decimals
import KiroProxy.Proxy.PromptCacheBounds

/-!
# The breakpoints of an OpenAI prompt

Where the input count covers the whole prompt, the breakpoints that `BuildOpenAIProfile` of
`proxy/cache_tracker.go` makes are those of the blocks alone: a prompt that another one begins
with has its breakpoints, and two prompts with different first blocks have none in common.
-/

namespace KiroProxy.PromptCache

open Decimals
open Foundation.Searching (first_separator_unique)
open GoStrings PayloadText TokenEstimator

set_option autoImplicit false

variable {Fingerprint : Type} (reader : CacheReader Fingerprint)

section Blocks

/-- The text that is hashed after some blocks. -/
def writtenAfter (written : GoString) (blocks : List GoString) : GoString :=
  blocks.foldl writeHashChunk written

def blockTokens : List GoString → Int
  | [] => 0
  | block :: blocks => estimateApproxTokens reader.weigh block + blockTokens blocks

/-- The breakpoints behind the blocks that follow a prompt of so many tokens. -/
def breakpointsFrom (floor : Int) (written : GoString) (tokens : Int) :
    List GoString → List (PromptCacheBreakpoint Fingerprint)
  | [] => []
  | block :: blocks =>
      (if tokens + estimateApproxTokens reader.weigh block < floor then []
        else [⟨reader.sum (writeHashChunk written block),
          tokens + estimateApproxTokens reader.weigh block, defaultPromptCacheTTL⟩]) ++
        breakpointsFrom floor (writeHashChunk written block)
          (tokens + estimateApproxTokens reader.weigh block) blocks

theorem block_tokens_nonneg_all (blocks : List GoString) : 0 ≤ blockTokens reader blocks := by
  induction blocks with
  | nil => exact Int.le_refl 0
  | cons block blocks ih => exact Int.add_nonneg (approx_tokens_nonneg reader.weigh block) ih

theorem block_tokens_append (first second : List GoString) :
    blockTokens reader (first ++ second) =
      blockTokens reader first + blockTokens reader second := by
  induction first with
  | nil => exact (Int.zero_add _).symm
  | cons block first ih => rw [List.cons_append, blockTokens, ih, blockTokens, Int.add_assoc]

theorem breakpoints_append (floor : Int) (first second : List GoString) (written : GoString)
    (tokens : Int) :
    breakpointsFrom reader floor written tokens (first ++ second) =
      breakpointsFrom reader floor written tokens first ++
        breakpointsFrom reader floor (writtenAfter written first)
          (tokens + blockTokens reader first) second := by
  induction first generalizing written tokens with
  | nil => rw [List.nil_append, breakpointsFrom, List.nil_append, blockTokens, Int.add_zero]; rfl
  | cons block first ih =>
      rw [List.cons_append, breakpointsFrom, ih, breakpointsFrom, List.append_assoc, blockTokens,
        Int.add_assoc]
      rfl

/-- A breakpoint counts no fewer tokens than there were, and none of a later block. -/
theorem breakpoints_between (floor : Int) (blocks : List GoString) (written : GoString)
    (tokens : Int) (breakpoint : PromptCacheBreakpoint Fingerprint)
    (member : breakpoint ∈ breakpointsFrom reader floor written tokens blocks) :
    tokens ≤ breakpoint.cumulativeTokens ∧
      breakpoint.cumulativeTokens ≤ tokens + blockTokens reader blocks ∧
      floor ≤ breakpoint.cumulativeTokens ∧ breakpoint.ttl = defaultPromptCacheTTL := by
  induction blocks generalizing written tokens with
  | nil => exact absurd member List.not_mem_nil
  | cons block blocks ih =>
      have grows := approx_tokens_nonneg reader.weigh block
      have rest := block_tokens_nonneg_all reader blocks
      rw [breakpointsFrom, List.mem_append] at member
      rw [blockTokens]
      rcases member with here | later
      · split_ifs at here with short
        · exact absurd here List.not_mem_nil
        · rw [List.mem_singleton.mp here]
          dsimp only
          exact ⟨by omega, by omega, Int.not_lt.mp short, rfl⟩
      · obtain ⟨low, high, reaches, ttl⟩ := ih _ _ later
        exact ⟨by omega, by omega, reaches, ttl⟩

/-- The last block has a breakpoint behind it where any block has. -/
theorem breakpoints_last (floor : Int) (blocks : List GoString) (block : GoString)
    (written : GoString) (tokens : Int) :
    (breakpointsFrom reader floor written tokens (blocks ++ [block])).getLast? =
      if tokens + blockTokens reader (blocks ++ [block]) < floor then none
      else some ⟨reader.sum (writtenAfter written (blocks ++ [block])),
        tokens + blockTokens reader (blocks ++ [block]), defaultPromptCacheTTL⟩ := by
  have whole : tokens + blockTokens reader (blocks ++ [block]) =
      tokens + blockTokens reader blocks + estimateApproxTokens reader.weigh block := by
    rw [block_tokens_append, blockTokens, blockTokens, Int.add_zero, Int.add_assoc]
  have text : writtenAfter written (blocks ++ [block]) =
      writeHashChunk (writtenAfter written blocks) block := List.foldl_concat ..
  rw [breakpoints_append, breakpointsFrom, breakpointsFrom, List.append_nil, whole, text]
  split_ifs with short
  · rw [List.append_nil, List.getLast?_eq_none_iff, List.eq_nil_iff_forall_not_mem]
    intro breakpoint member
    have grows := approx_tokens_nonneg reader.weigh block
    obtain ⟨_, low, high, _⟩ := breakpoints_between reader floor blocks written tokens _ member
    omega
  · exact List.getLast?_concat

end Blocks

section Written

/-- What is hashed behind each of the blocks. -/
def writtenTexts (written : GoString) : List GoString → List GoString
  | [] => []
  | block :: blocks => writeHashChunk written block ::
      writtenTexts (writeHashChunk written block) blocks

theorem breakpoint_written (floor : Int) (blocks : List GoString) (written : GoString)
    (tokens : Int) (breakpoint : PromptCacheBreakpoint Fingerprint)
    (member : breakpoint ∈ breakpointsFrom reader floor written tokens blocks) :
    ∃ text ∈ writtenTexts written blocks, breakpoint.fingerprint = reader.sum text := by
  induction blocks generalizing written tokens with
  | nil => exact absurd member List.not_mem_nil
  | cons block blocks ih =>
      rw [breakpointsFrom, List.mem_append] at member
      rcases member with here | later
      · split_ifs at here
        · exact absurd here List.not_mem_nil
        · exact ⟨_, List.mem_cons_self, congrArg _ (List.mem_singleton.mp here)⟩
      · obtain ⟨text, inside, same⟩ := ih _ _ later
        exact ⟨text, List.mem_cons_of_mem _ inside, same⟩

theorem chunk_begins (written chunk : GoString) :
    ∃ rest, writeHashChunk written chunk = written ++ rest := by
  refine ⟨lit (toString chunk.length) ++ [0x00] ++ chunk ++ [0x00], ?_⟩
  rw [writeHashChunk]
  simp only [List.append_assoc]

theorem written_begins (blocks : List GoString) (written text : GoString)
    (member : text ∈ writtenTexts written blocks) : ∃ rest, text = written ++ rest := by
  induction blocks generalizing written with
  | nil => exact absurd member List.not_mem_nil
  | cons block blocks ih =>
      obtain ⟨chunk, same⟩ := chunk_begins written block
      rcases List.mem_cons.mp member with rfl | later
      · exact ⟨chunk, same⟩
      · obtain ⟨rest, more⟩ := ih _ later
        rw [more, same]
        exact ⟨chunk ++ rest, List.append_assoc _ _ _⟩

/-- The length before a chunk tells where it ends. -/
theorem first_chunk_unique (first second rest more : GoString)
    (same : writeHashChunk [] first ++ rest = writeHashChunk [] second ++ more) :
    first = second := by
  have digits : ∀ number : Nat, (0x00 : UInt8) ∉ decimal number := by
    intro number member
    exact absurd (decimal_digits number 0x00 member) (by decide)
  have shape : ∀ chunk tail : GoString, writeHashChunk [] chunk ++ tail =
      decimal chunk.length ++ 0x00 :: (chunk ++ 0x00 :: tail) := by
    intro chunk tail
    rw [writeHashChunk, decimal]
    simp only [List.nil_append, List.append_assoc, List.cons_append]
  rw [shape, shape] at same
  obtain ⟨numbers, chunks⟩ := first_separator_unique 0x00 (digits _) (digits _) same
  exact (List.append_inj chunks (decimal_injective _ _ numbers)).1

theorem written_apart (first second : GoString) (apart : first ≠ second)
    (blocks more : List GoString) (text other : GoString)
    (member : text ∈ writtenTexts [] (first :: blocks))
    (otherMember : other ∈ writtenTexts [] (second :: more)) : text ≠ other := by
  have begins : ∀ (block : GoString) (blocks : List GoString) (text : GoString),
      text ∈ writtenTexts [] (block :: blocks) →
        ∃ rest, text = writeHashChunk [] block ++ rest := by
    intro block blocks text member
    rcases List.mem_cons.mp member with rfl | later
    · exact ⟨[], (List.append_nil _).symm⟩
    · exact written_begins blocks _ text later
  obtain ⟨rest, one⟩ := begins first blocks text member
  obtain ⟨tail, two⟩ := begins second more other otherMember
  intro same
  rw [one, two] at same
  exact apart (first_chunk_unique first second rest tail same)

end Written

section Profiles

variable (payload : SentPayload)

def promptBlocks : List GoString := stableBlock payload :: payload.history.map marshalMessage

def promptTokens : Int := blockTokens reader (promptBlocks payload)

def tokenFloor : Int := minCacheableTokensForModel reader.letters payload.current.modelID

def promptBreakpoints : List (PromptCacheBreakpoint Fingerprint) :=
  breakpointsFrom reader (tokenFloor reader payload) [] 0 (promptBlocks payload)

theorem floor_positive : 0 < tokenFloor reader payload := by
  rw [tokenFloor, minCacheableTokensForModel]
  split_ifs <;> decide

theorem stable_blocks_fold (model : GoString) (totalInputTokens : Int) (blocks : List GoString)
    (state : ProfileState Fingerprint)
    (covers : state.cumulativeTokens + blockTokens reader blocks ≤ totalInputTokens) :
    (blocks.foldl (addStableBlock reader model totalInputTokens) state).breakpoints =
      state.breakpoints ++ breakpointsFrom reader
        (minCacheableTokensForModel reader.letters model) state.written state.cumulativeTokens
        blocks := by
  induction blocks generalizing state with
  | nil => exact (List.append_nil _).symm
  | cons block blocks ih =>
      have rest := block_tokens_nonneg_all reader blocks
      rw [blockTokens, ← Int.add_assoc] at covers
      rw [List.foldl_cons, ih _ covers, breakpointsFrom, addStableBlock]
      dsimp only
      rw [Int.min_eq_left (by omega)]
      split_ifs
      · rw [List.nil_append]
      · rw [List.append_assoc]

theorem last_breakpoint :
    (promptBreakpoints reader payload).getLast? =
      if promptTokens reader payload < tokenFloor reader payload then none
      else some ⟨reader.sum (writtenAfter [] (promptBlocks payload)),
        promptTokens reader payload, defaultPromptCacheTTL⟩ := by
  obtain ⟨blocks, block, whole⟩ := (List.eq_nil_or_concat (promptBlocks payload)).resolve_left
    (List.cons_ne_nil _ _)
  rw [List.concat_eq_append] at whole
  have last := breakpoints_last reader (tokenFloor reader payload) blocks block [] 0
  rwa [Int.zero_add, ← whole] at last

/-- A count that covers the prompt leaves its breakpoints as they are. -/
theorem openai_profile (totalInputTokens : Int)
    (covers : promptTokens reader payload ≤ totalInputTokens) :
    buildOpenAIProfile reader payload totalInputTokens =
      if promptTokens reader payload < tokenFloor reader payload then none
      else some ⟨promptBreakpoints reader payload, totalInputTokens, payload.current.modelID⟩ := by
  have built := stable_blocks_fold reader payload.current.modelID totalInputTokens
    (promptBlocks payload) startProfile (by rwa [startProfile, Int.zero_add])
  have floor := floor_positive reader payload
  have last := last_breakpoint reader payload
  rw [startProfile, List.nil_append] at built
  rw [buildOpenAIProfile]
  dsimp only
  have folded : ((stableBlock payload :: payload.history.map marshalMessage).foldl
      (addStableBlock reader payload.current.modelID totalInputTokens)
      startProfile).breakpoints = promptBreakpoints reader payload := built
  rw [folded]
  by_cases short : promptTokens reader payload < tokenFloor reader payload
  · rw [if_pos short] at last
    rw [if_pos short, List.getLast?_eq_none_iff.mp last, if_pos rfl, ite_self]
  · rw [if_neg short] at last
    have some_ : promptBreakpoints reader payload ≠ [] := by
      intro empty
      rw [empty] at last
      exact absurd last.symm (Option.some_ne_none _)
    rw [if_neg short, if_neg some_, if_neg (by omega)]

end Profiles

end KiroProxy.PromptCache
