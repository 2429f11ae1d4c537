import KiroProxy.Proxy.PromptCache

/-!
# The counts of the prompt cache

Whatever the tracker holds, what it reports of a profile fits into the profile: the tokens read
and created together are the part of the prefix up to the last breakpoint that is covered.
-/

namespace KiroProxy.PromptCache

open Foundation.Binary64 GoStrings PayloadText
open Pool (Time hour)
open TokenEstimator

set_option autoImplicit false

variable {Fingerprint : Type}

section Share

/-- A share of 0.85 in floating point is never more than the whole. -/
theorem fresh_share_le (total : Nat) :
    roundTo 53 (roundTo 53 total * freshShare) / 2 ^ 53 ≤ total := by
  have whole := round_error 53 total
  have product := round_error 53 (roundTo 53 total * freshShare)
  apply Nat.div_le_of_le_mul
  have share : freshShare * ((2 ^ 53 + 1) * (2 ^ 53 + 1)) ≤ 2 ^ 53 * (2 ^ 53 * 2 ^ 53) := by
    decide
  have scaled : roundTo 53 (roundTo 53 total * freshShare) * (2 ^ 53 * 2 ^ 53) ≤
      2 ^ 53 * total * (2 ^ 53 * 2 ^ 53) := by
    calc
      roundTo 53 (roundTo 53 total * freshShare) * (2 ^ 53 * 2 ^ 53)
        = roundTo 53 (roundTo 53 total * freshShare) * 2 ^ 53 * 2 ^ 53 := by ring
      _ ≤ roundTo 53 total * freshShare * (2 ^ 53 + 1) * 2 ^ 53 :=
          Nat.mul_le_mul_right _ product
      _ = roundTo 53 total * 2 ^ 53 * (freshShare * (2 ^ 53 + 1)) := by ring
      _ ≤ total * (2 ^ 53 + 1) * (freshShare * (2 ^ 53 + 1)) := Nat.mul_le_mul_right _ whole
      _ = total * (freshShare * ((2 ^ 53 + 1) * (2 ^ 53 + 1))) := by ring
      _ ≤ total * (2 ^ 53 * (2 ^ 53 * 2 ^ 53)) := Nat.mul_le_mul_left _ share
      _ = 2 ^ 53 * total * (2 ^ 53 * 2 ^ 53) := by ring
  exact Nat.le_of_mul_le_mul_right scaled (by decide)

theorem max_cacheable_bounds (total : Int) (nonneg : 0 ≤ total) :
    0 ≤ maxCacheable total ∧ maxCacheable total ≤ total := by
  have share := fresh_share_le total.natAbs
  unfold maxCacheable
  simp only
  rw [if_neg (Int.not_lt.mpr nonneg)]
  constructor
  · exact Int.natCast_nonneg _
  · have same : (total.natAbs : Int) = total := Int.natAbs_of_nonneg nonneg
    rw [← same, Int.natAbs_natCast]
    exact Int.ofNat_le.mpr share

/-- The share of an input that is large enough to be cached is not nothing. -/
theorem max_cacheable_positive (total : Int) (large : 1024 ≤ total) : 0 < maxCacheable total := by
  have whole := half_le_round 53 total.natAbs (by decide)
  have share := half_le_round 53 (roundTo 53 total.natAbs * freshShare) (by decide)
  have half : 512 ≤ roundTo 53 total.natAbs := by omega
  have scaled := Nat.mul_le_mul_right freshShare half
  have enough : 2 * 2 ^ 53 ≤ 512 * freshShare := by decide
  have units : 1 ≤ roundTo 53 (roundTo 53 total.natAbs * freshShare) / 2 ^ 53 :=
    (Nat.le_div_iff_mul_le (by decide)).mpr (by omega)
  unfold maxCacheable
  rw [if_neg (by omega)]
  exact Int.natCast_pos.mpr units

end Share

section Breakdown

variable (totalInputTokens reach : Int)

/-- What a step advances is added to one of the parts. -/
def Advances (before after : Int × Int × Int) : Prop :=
  after.2.1 + after.2.2 - after.1 = before.2.1 + before.2.2 - before.1 ∧
    before.1 ≤ after.1 ∧ before.2.1 ≤ after.2.1 ∧ before.2.2 ≤ after.2.2

theorem breakdown_step_advances (state : Int × Int × Int)
    (breakpoint : PromptCacheBreakpoint Fingerprint) :
    Advances state (breakdownStep totalInputTokens reach state breakpoint) ∧
      (breakdownStep totalInputTokens reach state breakpoint).1 ≤
        max state.1 (min totalInputTokens reach) := by
  unfold breakdownStep Advances
  simp only
  split_ifs
  · simp
  · simp only
    omega
  · simp only
    omega

theorem breakdown_advances (breakpoints : List (PromptCacheBreakpoint Fingerprint))
    (state : Int × Int × Int) :
    Advances state (breakpoints.foldl (breakdownStep totalInputTokens reach) state) ∧
      (breakpoints.foldl (breakdownStep totalInputTokens reach) state).1 ≤
        max state.1 (min totalInputTokens reach) := by
  induction breakpoints generalizing state with
  | nil => exact ⟨⟨rfl, Int.le_refl _, Int.le_refl _, Int.le_refl _⟩, Int.le_max_left _ _⟩
  | cons breakpoint breakpoints ih =>
      obtain ⟨⟨sum, up, first, second⟩, below⟩ :=
        ih (breakdownStep totalInputTokens reach state breakpoint)
      obtain ⟨⟨sumStep, upStep, firstStep, secondStep⟩, belowStep⟩ :=
        breakdown_step_advances totalInputTokens reach state breakpoint
      rw [List.foldl_cons]
      refine ⟨⟨sum.trans sumStep, Int.le_trans upStep up, Int.le_trans firstStep first,
        Int.le_trans secondStep second⟩, Int.le_trans below ?_⟩
      exact max_le belowStep (Int.le_max_right _ _)

/-- It advances to the last breakpoint at least. -/
theorem breakdown_reaches (breakpoints : List (PromptCacheBreakpoint Fingerprint))
    (last : PromptCacheBreakpoint Fingerprint) (found : breakpoints.getLast? = some last)
    (state : Int × Int × Int) :
    min last.cumulativeTokens (min totalInputTokens reach) ≤
      (breakpoints.foldl (breakdownStep totalInputTokens reach) state).1 := by
  obtain ⟨before, rfl⟩ := List.getLast?_eq_some_iff.mp found
  rw [List.foldl_append, List.foldl_cons, List.foldl_nil]
  generalize before.foldl (breakdownStep totalInputTokens reach) state = middle
  unfold breakdownStep
  simp only
  split_ifs with behind
  · exact behind
  · exact Int.le_refl _
  · exact Int.le_refl _

/-- The parts of a creation that the last breakpoint covers sum to it. -/
theorem breakdown_sums (profile : PromptCacheProfile Fingerprint)
    (last : PromptCacheBreakpoint Fingerprint)
    (found : profile.breakpoints.getLast? = some last) (matchedTokens creation : Int)
    (nonneg : 0 ≤ creation)
    (covered : matchedTokens + creation ≤ min last.cumulativeTokens profile.totalInputTokens ∨
      creation = 0) :
    let parts := computePromptCacheTTLBreakdownLimited profile matchedTokens creation
    parts.1 + parts.2 = creation ∧ 0 ≤ parts.1 ∧ 0 ≤ parts.2 := by
  have advances := breakdown_advances profile.totalInputTokens (matchedTokens + creation)
    profile.breakpoints (matchedTokens, 0, 0)
  have reaches := breakdown_reaches profile.totalInputTokens (matchedTokens + creation)
    profile.breakpoints last found (matchedTokens, 0, 0)
  unfold computePromptCacheTTLBreakdownLimited
  unfold Advances at advances
  simp only at advances ⊢
  omega

end Breakdown

section Profiles

variable (reader : CacheReader Fingerprint)

/-- A profile whose counts are counts. -/
structure Counted (profile : PromptCacheProfile Fingerprint) : Prop where
  total : 0 ≤ profile.totalInputTokens
  breakpoints : ∀ breakpoint ∈ profile.breakpoints, 0 ≤ breakpoint.cumulativeTokens

def CountedState (state : ProfileState Fingerprint) : Prop :=
  0 ≤ state.cumulativeTokens ∧
    ∀ breakpoint ∈ state.breakpoints, 0 ≤ breakpoint.cumulativeTokens

theorem start_counted : CountedState (startProfile : ProfileState Fingerprint) :=
  ⟨Int.le_refl 0, by simp [startProfile]⟩

theorem estimate_block_nonneg (value : Json) : 0 ≤ estimateBlock reader value :=
  approx_tokens_nonneg reader.weigh (canonicalizeCacheValue value)

theorem block_tokens_nonneg (req : ClaudeRequest) (block : CacheablePromptBlock)
    (member : block ∈ flattenClaudeCacheBlocks reader req) : 0 ≤ block.tokens := by
  have prompt (wrapper : JsonFields) (value : Json) (isMessageEnd : Bool)
      (inside : block ∈ promptBlock reader wrapper value isMessageEnd) : 0 ≤ block.tokens := by
    unfold promptBlock at inside
    split_ifs at inside
    · simp at inside
    · rw [List.mem_singleton.mp inside]
      exact estimate_block_nonneg reader (.obj ((lit "block", value) :: wrapper))
  unfold flattenClaudeCacheBlocks at member
  simp only [List.cons_append, List.mem_cons, List.mem_append, List.mem_map, List.mem_flatMap]
    at member
  rcases member with prelude | (⟨tool, _, rfl⟩ | system) | ⟨msg, _, inside⟩
  · rw [prelude, buildCachePreludeBlock]
    exact estimate_block_nonneg reader (.obj _)
  · rw [toolBlock]
    exact estimate_block_nonneg reader (.obj _)
  · unfold systemCacheBlocks at system
    split at system
    · exact prompt _ _ _ system
    · obtain ⟨value, _, inside⟩ := List.mem_flatMap.mp system
      exact prompt _ _ _ inside
    · simp at system
  · unfold messageCacheBlocks at inside
    split at inside
    · exact prompt _ _ _ inside
    · obtain ⟨blocks, found, inside⟩ := List.mem_flatten.mp inside
      obtain ⟨index, _, rfl⟩ := List.mem_mapIdx.mp found
      exact prompt _ _ _ inside
    · simp at inside
    · exact prompt _ _ _ inside

theorem claude_block_counted (state : ProfileState Fingerprint) (counted : CountedState state)
    (block : CacheablePromptBlock) (nonneg : 0 ≤ block.tokens) :
    CountedState (addClaudeBlock reader state block) := by
  have sum := Int.add_nonneg counted.1 nonneg
  refine ⟨sum, ?_⟩
  unfold addClaudeBlock
  simp only
  intro breakpoint member
  split_ifs at member
  all_goals
    first
      | exact counted.2 breakpoint member
      | rcases List.mem_append.mp member with before | new
        · exact counted.2 breakpoint before
        · rw [List.mem_singleton.mp new]
          exact sum

theorem claude_profile_counted (req : ClaudeRequest) (totalInputTokens : Int)
    (profile : PromptCacheProfile Fingerprint)
    (built : buildClaudeProfile reader req totalInputTokens = some profile) :
    Counted profile := by
  have counted : CountedState
      ((flattenClaudeCacheBlocks reader req).foldl (addClaudeBlock reader) startProfile) :=
    List.foldlRecOn _ (addClaudeBlock reader) start_counted (fun state counted block member =>
      claude_block_counted reader state counted block (block_tokens_nonneg reader req block member))
  unfold buildClaudeProfile at built
  simp only at built
  split_ifs at built
  cases built
  exact ⟨Int.le_trans counted.1 (Int.le_max_right _ _), counted.2⟩

theorem stable_block_counted (model : GoString) (totalInputTokens : Int)
    (positive : 0 < totalInputTokens) (state : ProfileState Fingerprint)
    (counted : CountedState state) (canonical : GoString) :
    CountedState (addStableBlock reader model totalInputTokens state canonical) := by
  have sum := Int.add_nonneg counted.1 (approx_tokens_nonneg reader.weigh canonical)
  refine ⟨sum, ?_⟩
  unfold addStableBlock
  simp only
  intro breakpoint member
  split_ifs at member
  · exact counted.2 breakpoint member
  · rcases List.mem_append.mp member with before | new
    · exact counted.2 breakpoint before
    · rw [List.mem_singleton.mp new]
      exact Int.le_min.mpr ⟨sum, Int.le_of_lt positive⟩

theorem openai_profile_counted (payload : SentPayload) (totalInputTokens : Int)
    (profile : PromptCacheProfile Fingerprint)
    (built : buildOpenAIProfile reader payload totalInputTokens = some profile) :
    Counted profile := by
  unfold buildOpenAIProfile at built
  simp only at built
  split_ifs at built with nonpos
  cases built
  have positive := Int.not_le.mp nonpos
  have counted : CountedState ((stableBlock payload :: payload.history.map marshalMessage).foldl
      (addStableBlock reader payload.current.modelID totalInputTokens) startProfile) :=
    List.foldlRecOn _ (addStableBlock reader payload.current.modelID totalInputTokens)
      start_counted (fun state counted canonical _ =>
        stable_block_counted reader _ totalInputTokens positive state counted canonical)
  exact ⟨Int.le_of_lt positive, counted.2⟩

end Profiles

section Usage

variable [DecidableEq Fingerprint] (letters : Letters)

/-- The part of a profile that an account's cache covers: up to the last breakpoint, not all of
the input where the account has live entries, and nothing below the floor where it has none. -/
def covered (tracker : PromptCacheTracker Fingerprint) (accountID : GoString)
    (profile : Option (PromptCacheProfile Fingerprint)) (now : Time) : Int :=
  match profile with
  | none => 0
  | some profile =>
      match profile.breakpoints.getLast? with
      | none => 0
      | some last =>
          let lastTokens := min last.cumulativeTokens profile.totalInputTokens
          if accountID = [] then 0
          else if entriesOf (pruneExpired tracker now) accountID = [] then
            if lastTokens < minCacheableTokensForModel letters profile.model then 0
            else lastTokens
          else min lastTokens (maxCacheable profile.totalInputTokens)

/-- Counts that cover a number of tokens. -/
structure Covers (usage : PromptCacheUsage) (tokens : Int) : Prop where
  creation : 0 ≤ usage.cacheCreationInputTokens
  read : 0 ≤ usage.cacheReadInputTokens
  sum : usage.cacheReadInputTokens + usage.cacheCreationInputTokens = tokens
  parts : usage.cacheCreation5mInputTokens + usage.cacheCreation1hInputTokens =
    usage.cacheCreationInputTokens
  fiveMinutes : 0 ≤ usage.cacheCreation5mInputTokens
  oneHour : 0 ≤ usage.cacheCreation1hInputTokens

theorem no_usage_covers : Covers noUsage 0 := by
  constructor <;> decide

omit [DecidableEq Fingerprint] in
/-- A match and a creation that reach to a number of tokens the last breakpoint covers. -/
theorem usage_covers (profile : PromptCacheProfile Fingerprint)
    (last : PromptCacheBreakpoint Fingerprint)
    (found : profile.breakpoints.getLast? = some last) (matchedTokens tokens : Int)
    (nonneg : 0 ≤ matchedTokens) (within : matchedTokens ≤ tokens)
    (fits : tokens ≤ min last.cumulativeTokens profile.totalInputTokens ∨ tokens = 0) :
    Covers (usageOf profile matchedTokens (tokens - matchedTokens)) tokens := by
  have remaining := Int.sub_nonneg_of_le within
  have parts := breakdown_sums profile last found matchedTokens (tokens - matchedTokens) remaining
    (by omega)
  have sum : matchedTokens + (tokens - matchedTokens) = tokens := by omega
  exact ⟨remaining, nonneg, sum, parts.1, parts.2.1, parts.2.2⟩

omit [DecidableEq Fingerprint] in
theorem min_cacheable_nonneg (model : GoString) :
    0 ≤ minCacheableTokensForModel letters model := by
  unfold minCacheableTokensForModel
  split_ifs <;> decide

theorem matched_counted (entries : Entries Fingerprint) (minTokens : Int) (now : Time)
    (breakpoints : List (PromptCacheBreakpoint Fingerprint))
    (found : PromptCacheBreakpoint Fingerprint × PromptCacheEntry)
    (matched : matchedBreakpoint entries minTokens now breakpoints = some found) :
    minTokens ≤ found.1.cumulativeTokens := by
  obtain ⟨breakpoint, _, read⟩ := List.exists_of_findSome?_eq_some matched
  split_ifs at read with floor
  split at read
  · split_ifs at read
    rw [← Option.some.inj read]
    exact Int.not_lt.mp floor
  · cases read

theorem compute_cached_covers (tracker : PromptCacheTracker Fingerprint) (accountID : GoString)
    (profile : PromptCacheProfile Fingerprint) (counted : Counted profile)
    (last : PromptCacheBreakpoint Fingerprint)
    (found : profile.breakpoints.getLast? = some last) (now : Time) :
    Covers (computeCached letters tracker accountID profile
      (min last.cumulativeTokens profile.totalInputTokens) now).1
      (min (min last.cumulativeTokens profile.totalInputTokens)
        (maxCacheable profile.totalInputTokens)) := by
  have share := max_cacheable_bounds profile.totalInputTokens counted.total
  have lastCount := counted.breakpoints last (List.mem_of_getLast? found)
  have total := counted.total
  have floor := min_cacheable_nonneg letters profile.model
  have reached : 0 ≤ min (min last.cumulativeTokens profile.totalInputTokens)
      (maxCacheable profile.totalInputTokens) := by omega
  have fits := Int.min_le_left (min last.cumulativeTokens profile.totalInputTokens)
    (maxCacheable profile.totalInputTokens)
  unfold computeCached
  simp only
  generalize min (min last.cumulativeTokens profile.totalInputTokens)
    (maxCacheable profile.totalInputTokens) = tokens at reached fits ⊢
  cases matched : matchedBreakpoint (entriesOf tracker accountID)
      (minCacheableTokensForModel letters profile.model) now profile.breakpoints with
  | none =>
      simp only
      rw [Int.sub_zero, max_eq_left reached]
      have covers := usage_covers profile last found 0 tokens (Int.le_refl 0) reached (Or.inl fits)
      rwa [Int.sub_zero] at covers
  | some hit =>
      have hitCount := matched_counted _ _ now _ hit matched
      have within := Int.min_le_right (min hit.1.cumulativeTokens profile.totalInputTokens) tokens
      simp only
      rw [max_eq_left (Int.sub_nonneg_of_le within)]
      exact usage_covers profile last found _ tokens (by omega) within (Or.inl fits)

theorem compute_covers (tracker : PromptCacheTracker Fingerprint) (accountID : GoString)
    (profile : Option (PromptCacheProfile Fingerprint))
    (counted : ∀ found ∈ profile, Counted found) (now : Time) :
    Covers (compute letters tracker accountID profile now).1
      (covered letters tracker accountID profile now) := by
  unfold compute covered
  cases profile with
  | none => exact no_usage_covers
  | some profile =>
      have counts := counted profile rfl
      simp only
      cases found : profile.breakpoints.getLast? with
      | none => exact no_usage_covers
      | some last =>
          have lastCount := counts.breakpoints last (List.mem_of_getLast? found)
          have total := counts.total
          simp only
          by_cases nameless : accountID = []
          · rw [if_pos nameless, if_pos nameless]
            exact no_usage_covers
          · rw [if_neg nameless, if_neg nameless]
            by_cases empty : entriesOf (pruneExpired tracker now) accountID = []
            · rw [if_pos empty, if_pos empty]
              split_ifs
              · exact usage_covers profile last found 0 0 (Int.le_refl 0) (Int.le_refl 0)
                  (Or.inr rfl)
              · have covers := usage_covers profile last found 0
                  (min last.cumulativeTokens profile.totalInputTokens) (Int.le_refl 0)
                  (by omega) (Or.inl (Int.le_refl _))
                rwa [Int.sub_zero] at covers
            · rw [if_neg empty, if_neg empty]
              exact compute_cached_covers letters _ accountID profile counts last found now

omit [DecidableEq Fingerprint] in
theorem covered_le_total (tracker : PromptCacheTracker Fingerprint) (accountID : GoString)
    (profile : PromptCacheProfile Fingerprint) (counted : Counted profile) (now : Time) :
    covered letters tracker accountID (some profile) now ≤ profile.totalInputTokens := by
  have total := counted.total
  unfold covered
  simp only
  split
  · exact total
  · split_ifs <;> omega

end Usage

section Runs

variable [DecidableEq Fingerprint] (letters : Letters)

/-- A call on the tracker by some request. -/
structure TrackerCall (Fingerprint : Type) where
  updates : Bool
  accountID : GoString
  profile : Option (PromptCacheProfile Fingerprint)
  now : Time

def TrackerCall.run (tracker : PromptCacheTracker Fingerprint)
    (call : TrackerCall Fingerprint) : PromptCacheTracker Fingerprint :=
  if call.updates then update letters tracker call.accountID call.profile call.now
  else (compute letters tracker call.accountID call.profile call.now).2

def afterCalls (calls : List (TrackerCall Fingerprint)) : PromptCacheTracker Fingerprint :=
  calls.foldl (TrackerCall.run letters) newPromptCacheTracker

/-- Counts that fit into a profile. -/
def Fits (usage : PromptCacheUsage) (totalInputTokens : Int) : Prop :=
  0 ≤ usage.cacheReadInputTokens ∧ 0 ≤ usage.cacheCreationInputTokens ∧
    usage.cacheReadInputTokens + usage.cacheCreationInputTokens ≤ totalInputTokens ∧
    usage.cacheCreation5mInputTokens + usage.cacheCreation1hInputTokens =
      usage.cacheCreationInputTokens

theorem compute_fits (tracker : PromptCacheTracker Fingerprint) (accountID : GoString)
    (profile : PromptCacheProfile Fingerprint) (counted : Counted profile) (now : Time) :
    Fits (compute letters tracker accountID (some profile) now).1 profile.totalInputTokens := by
  have covers := compute_covers letters tracker accountID (some profile)
    (fun found member => Option.some.inj member ▸ counted) now
  refine ⟨covers.read, covers.creation, ?_, covers.parts⟩
  rw [covers.sum]
  exact covered_le_total letters tracker accountID profile counted now

/-- Whatever calls the tracker has seen, its counts fit into every profile that is built. -/
theorem built_profiles_fit (reader : CacheReader Fingerprint)
    (calls : List (TrackerCall Fingerprint)) (accountID : GoString) (now : Time) :
    (∀ req totalInputTokens, ∀ profile ∈ buildClaudeProfile reader req totalInputTokens,
      Fits (compute reader.letters (afterCalls reader.letters calls) accountID (some profile)
        now).1 profile.totalInputTokens) ∧
    ∀ payload totalInputTokens, ∀ profile ∈ buildOpenAIProfile reader payload totalInputTokens,
      Fits (compute reader.letters (afterCalls reader.letters calls) accountID (some profile)
        now).1 profile.totalInputTokens := by
  constructor
  · intro req totalInputTokens profile built
    exact compute_fits reader.letters _ accountID profile
      (claude_profile_counted reader req totalInputTokens profile built) now
  · intro payload totalInputTokens profile built
    exact compute_fits reader.letters _ accountID profile
      (openai_profile_counted reader payload totalInputTokens profile built) now

end Runs

end KiroProxy.PromptCache
