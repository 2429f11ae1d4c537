import KiroProxy.Foundation.Keyed
import KiroProxy.Proxy.CacheBreakpoints
import KiroProxy.Proxy.ClaudeUsage

/-!
# Shared prefixes of OpenAI prompts

A request whose prompt begins with that of an earlier one on the same account reads what the
earlier one stored, whatever other calls the tracker of `proxy/cache_tracker.go` sees meanwhile.
The first block of a prompt tells whether the current message has a context at all, so that the
prompts also have to agree on that.
-/

namespace KiroProxy.PromptCache

open FollowupPayloads GoStrings KiroTypes PayloadText
open Pool (Time minute)

set_option autoImplicit false

section Entries

variable {Fingerprint : Type}

theorem lookup_filter_kept {Key Value : Type} [BEq Key] [LawfulBEq Key] (keep : Key × Value → Bool)
    (items : List (Key × Value)) (key : Key) (value : Value)
    (found : items.lookup key = some value) (kept : keep (key, value) = true) :
    (items.filter keep).lookup key = some value := by
  obtain ⟨before, after, split, absent⟩ := List.lookup_eq_some_iff.mp found
  rw [List.lookup_eq_some_iff]
  refine ⟨before.filter keep, after.filter keep, ?_, ?_⟩
  · rw [split, List.filter_append, List.filter_cons_of_pos kept]
  · exact fun other member => absent other (List.mem_of_mem_filter member)

theorem lookup_filter_other {Key Value : Type} [DecidableEq Key] [BEq Key] [LawfulBEq Key]
    (items : List (Key × Value)) (key other : Key) (apart : other ≠ key) :
    (items.filter fun item => decide (item.1 ≠ key)).lookup other = items.lookup other := by
  induction items with
  | nil => rfl
  | cons item items ih =>
      obtain ⟨name, value⟩ := item
      by_cases same : name = key
      · have differ : (other == name) = false := beq_false_of_ne (same ▸ apart)
        rw [List.filter_cons_of_neg (by simpa using same), ih, List.lookup_cons, differ]
      · rw [List.filter_cons_of_pos (by simpa using same), List.lookup_cons, List.lookup_cons, ih]

theorem entries_set_same (tracker : PromptCacheTracker Fingerprint) (accountID : GoString)
    (entries : Entries Fingerprint) :
    entriesOf (setAccount tracker accountID entries) accountID = entries := by
  rw [entriesOf, setAccount, List.lookup_cons, beq_self_eq_true, Option.getD_some]

theorem entries_set_other (tracker : PromptCacheTracker Fingerprint) (accountID other : GoString)
    (entries : Entries Fingerprint) (apart : other ≠ accountID) :
    entriesOf (setAccount tracker accountID entries) other = entriesOf tracker other := by
  rw [entriesOf, setAccount, List.lookup_cons, beq_false_of_ne apart, entriesOf]
  dsimp only
  rw [lookup_filter_other tracker.entriesByAccount accountID other apart]

variable [DecidableEq Fingerprint]

/-- An entry that stays until some time, and for a full term once it is touched. -/
def EntryLives (entries : Entries Fingerprint) (fingerprint : Fingerprint) (until_ : Time) : Prop :=
  ∃ entry, entries.lookup fingerprint = some entry ∧ until_ ≤ entry.expiresAt ∧
    defaultPromptCacheTTL ≤ entry.ttl

def Lives (tracker : PromptCacheTracker Fingerprint) (accountID : GoString)
    (fingerprint : Fingerprint) (until_ : Time) : Prop :=
  EntryLives (entriesOf tracker accountID) fingerprint until_

theorem lookup_set_same (entries : Entries Fingerprint) (fingerprint : Fingerprint)
    (entry : PromptCacheEntry) :
    (setEntry entries fingerprint entry).lookup fingerprint = some entry := by
  rw [setEntry, List.lookup_cons, beq_self_eq_true]

theorem lookup_set_other (entries : Entries Fingerprint) (fingerprint other : Fingerprint)
    (entry : PromptCacheEntry) (apart : other ≠ fingerprint) :
    (setEntry entries fingerprint entry).lookup other = entries.lookup other := by
  rw [setEntry, List.lookup_cons, beq_false_of_ne apart]
  exact lookup_filter_other entries fingerprint other apart

theorem set_lives (entries : Entries Fingerprint) (fingerprint other : Fingerprint)
    (entry : PromptCacheEntry) (until_ : Time) (lives : EntryLives entries fingerprint until_)
    (lasts : other = fingerprint → until_ ≤ entry.expiresAt ∧ defaultPromptCacheTTL ≤ entry.ttl) :
    EntryLives (setEntry entries other entry) fingerprint until_ := by
  by_cases same : other = fingerprint
  · refine ⟨entry, ?_, lasts same⟩
    rw [same, lookup_set_same]
  · obtain ⟨found, here, stays⟩ := lives
    exact ⟨found, (lookup_set_other entries other fingerprint entry (Ne.symm same)).trans here,
      stays⟩

end Entries

section Calls

variable {Fingerprint : Type} [DecidableEq Fingerprint] (letters : Letters)
  (accountID : GoString) (fingerprint : Fingerprint) (until_ now : Time)

theorem prune_lives (tracker : PromptCacheTracker Fingerprint)
    (lives : Lives tracker accountID fingerprint until_) (early : now < until_) :
    Lives (pruneExpired tracker now) accountID fingerprint until_ := by
  obtain ⟨entry, found, stays, term⟩ := lives
  refine ⟨entry, ?_, stays, term⟩
  rw [entriesOf] at found
  obtain ⟨entries, account⟩ : ∃ entries,
      tracker.entriesByAccount.lookup accountID = some entries := by
    cases here : tracker.entriesByAccount.lookup accountID with
    | none =>
        rw [here] at found
        exact absurd found.symm (Option.some_ne_none entry)
    | some entries => exact ⟨entries, rfl⟩
  rw [account, Option.getD_some] at found
  have kept := lookup_filter_kept (fun entry => decide (now < entry.2.expiresAt)) entries
    fingerprint entry found (decide_eq_true (lt_of_lt_of_le early stays))
  have values := Foundation.Keyed.get_map_values
    (fun entries => entries.filter fun entry => decide (now < entry.2.expiresAt))
    tracker.entriesByAccount accountID
  rw [Foundation.Keyed.get, Foundation.Keyed.get, account] at values
  obtain ⟨listed, pruned, mapped⟩ : ∃ listed : List (GoString × Entries Fingerprint),
      pruneExpired tracker now = ⟨listed.filter fun account => !account.2.isEmpty⟩ ∧
        listed.lookup accountID =
          some (entries.filter fun entry => decide (now < entry.2.expiresAt)) :=
    ⟨_, rfl, values⟩
  have some_ : (!(entries.filter fun entry =>
      decide (now < entry.2.expiresAt)).isEmpty) = true := by
    cases whole : entries.filter fun entry => decide (now < entry.2.expiresAt) with
    | nil =>
        rw [whole] at kept
        exact absurd kept.symm (Option.some_ne_none entry)
    | cons _ _ => rfl
  rw [entriesOf, pruned,
    lookup_filter_kept (fun account => !account.2.isEmpty) _ accountID _ mapped some_,
    Option.getD_some]
  exact kept

/-- One breakpoint that `Update` stores. -/
def storeBreakpoint (floor : Int) (now : Time) (entries : Entries Fingerprint)
    (breakpoint : PromptCacheBreakpoint Fingerprint) : Entries Fingerprint :=
  if breakpoint.cumulativeTokens < floor then entries
  else setEntry entries breakpoint.fingerprint ⟨now + breakpoint.ttl, breakpoint.ttl⟩

def LongTerms (breakpoints : List (PromptCacheBreakpoint Fingerprint)) : Prop :=
  ∀ breakpoint ∈ breakpoints, defaultPromptCacheTTL ≤ breakpoint.ttl

theorem store_lives (floor : Int) (breakpoint : PromptCacheBreakpoint Fingerprint)
    (entries : Entries Fingerprint) (lives : EntryLives entries fingerprint until_)
    (term : defaultPromptCacheTTL ≤ breakpoint.ttl)
    (late : until_ ≤ now + defaultPromptCacheTTL) :
    EntryLives (storeBreakpoint floor now entries breakpoint) fingerprint until_ := by
  rw [storeBreakpoint]
  split_ifs
  · exact lives
  · apply set_lives entries fingerprint _ _ until_ lives
    intro _
    exact ⟨late.trans (Int.add_le_add_left term now), term⟩

theorem store_all_lives (floor : Int) (breakpoints : List (PromptCacheBreakpoint Fingerprint))
    (entries : Entries Fingerprint) (lives : EntryLives entries fingerprint until_)
    (terms : LongTerms breakpoints) (late : until_ ≤ now + defaultPromptCacheTTL) :
    EntryLives (breakpoints.foldl (storeBreakpoint floor now) entries) fingerprint until_ := by
  induction breakpoints generalizing entries with
  | nil => exact lives
  | cons breakpoint breakpoints ih =>
      obtain ⟨term, rest⟩ := List.forall_mem_cons.mp terms
      exact ih _ (store_lives fingerprint until_ now floor breakpoint entries lives term late) rest

/-- What is stored lives for a term from then on. -/
theorem stored_lives (floor : Int) (before after : List (PromptCacheBreakpoint Fingerprint))
    (breakpoint : PromptCacheBreakpoint Fingerprint) (entries : Entries Fingerprint)
    (reaches : floor ≤ breakpoint.cumulativeTokens)
    (terms : LongTerms (before ++ breakpoint :: after)) :
    EntryLives ((before ++ breakpoint :: after).foldl (storeBreakpoint floor now) entries)
      breakpoint.fingerprint (now + defaultPromptCacheTTL) := by
  obtain ⟨_, rest⟩ := List.forall_mem_append.mp terms
  obtain ⟨term, rest⟩ := List.forall_mem_cons.mp rest
  rw [List.foldl_append, List.foldl_cons]
  apply store_all_lives _ _ _ floor after _ _ rest (Int.le_refl _)
  rw [storeBreakpoint, if_neg (Int.not_lt.mpr reaches)]
  exact ⟨_, lookup_set_same _ _ _, Int.add_le_add_left term now, term⟩

theorem update_account (tracker : PromptCacheTracker Fingerprint)
    (profile : PromptCacheProfile Fingerprint) (some_ : profile.breakpoints ≠ [])
    (named : accountID ≠ []) :
    update letters tracker accountID (some profile) now =
      setAccount (pruneExpired tracker now) accountID (profile.breakpoints.foldl
        (storeBreakpoint (minCacheableTokensForModel letters profile.model) now)
        (entriesOf (pruneExpired tracker now) accountID)) := by
  rw [update, if_neg (not_or.mpr ⟨some_, named⟩)]
  rfl

theorem update_lives (tracker : PromptCacheTracker Fingerprint) (caller : GoString)
    (profile : Option (PromptCacheProfile Fingerprint))
    (lives : Lives tracker accountID fingerprint until_) (early : now < until_)
    (late : until_ ≤ now + defaultPromptCacheTTL)
    (terms : ∀ found ∈ profile, LongTerms found.breakpoints) :
    Lives (update letters tracker caller profile now) accountID fingerprint until_ := by
  cases profile with
  | none => exact lives
  | some profile =>
      by_cases skipped : profile.breakpoints = [] ∨ caller = []
      · rw [update, if_pos skipped]
        exact lives
      · rw [not_or] at skipped
        have pruned := prune_lives accountID fingerprint until_ now tracker lives early
        rw [update_account letters caller now tracker profile skipped.1 skipped.2, Lives]
        by_cases same : accountID = caller
        · rw [same, entries_set_same]
          apply store_all_lives _ _ _ _ _ _ _ (terms profile rfl) late
          exact same ▸ pruned
        · rw [entries_set_other _ _ _ _ same]
          exact pruned

theorem matched_found (entries : Entries Fingerprint) (minTokens : Int)
    (breakpoints : List (PromptCacheBreakpoint Fingerprint))
    (breakpoint : PromptCacheBreakpoint Fingerprint) (entry : PromptCacheEntry)
    (matched : matchedBreakpoint entries minTokens now breakpoints = some (breakpoint, entry)) :
    breakpoint ∈ breakpoints ∧ entries.lookup breakpoint.fingerprint = some entry := by
  obtain ⟨found, member, same⟩ := List.exists_of_findSome?_eq_some matched
  split_ifs at same
  cases here : entries.lookup found.fingerprint with
  | none =>
      rw [here] at same
      exact absurd same.symm (Option.some_ne_none _)
  | some stored =>
      rw [here] at same
      dsimp only at same
      split_ifs at same
      obtain ⟨rfl, rfl⟩ := Prod.mk.inj (Option.some.inj same)
      exact ⟨List.mem_reverse.mp member, here⟩

theorem compute_cached_lives (tracker : PromptCacheTracker Fingerprint) (caller : GoString)
    (profile : PromptCacheProfile Fingerprint) (lastTokens : Int)
    (lives : Lives tracker accountID fingerprint until_)
    (late : until_ ≤ now + defaultPromptCacheTTL) :
    Lives (computeCached letters tracker caller profile lastTokens now).2 accountID fingerprint
      until_ := by
  rw [computeCached]
  dsimp only
  cases matched : matchedBreakpoint (entriesOf tracker caller)
      (minCacheableTokensForModel letters profile.model) now profile.breakpoints with
  | none => exact lives
  | some pair =>
      obtain ⟨breakpoint, entry⟩ := pair
      have found := (matched_found now _ _ _ breakpoint entry matched).2
      dsimp only
      rw [Lives]
      by_cases same : accountID = caller
      · rw [same, entries_set_same]
        rw [Lives, same] at lives
        apply set_lives _ _ _ _ _ lives
        intro here
        obtain ⟨stored, there, _, term⟩ := lives
        rw [here, there] at found
        rw [← Option.some.inj found]
        exact ⟨late.trans (Int.add_le_add_left term now), term⟩
      · rw [entries_set_other _ _ _ _ same]
        exact lives

theorem compute_lives (tracker : PromptCacheTracker Fingerprint) (caller : GoString)
    (profile : Option (PromptCacheProfile Fingerprint))
    (lives : Lives tracker accountID fingerprint until_) (early : now < until_)
    (late : until_ ≤ now + defaultPromptCacheTTL) :
    Lives (compute letters tracker caller profile now).2 accountID fingerprint until_ := by
  have pruned := prune_lives accountID fingerprint until_ now tracker lives early
  cases profile with
  | none => exact lives
  | some profile =>
      rw [compute]
      dsimp only
      cases profile.breakpoints.getLast? with
      | none => exact lives
      | some last =>
          dsimp only
          split_ifs
          · exact lives
          · exact pruned
          · exact pruned
          · exact compute_cached_lives letters accountID fingerprint until_ now _ caller profile _
              pruned late

end Calls

section Built

variable {Fingerprint : Type} (reader : CacheReader Fingerprint)

theorem normalized_term (ttl : Int) (some_ : 0 < normalizePromptCacheTTL ttl) :
    defaultPromptCacheTTL ≤ normalizePromptCacheTTL ttl := by
  rw [normalizePromptCacheTTL] at some_ ⊢
  split_ifs at some_ ⊢
  · exact absurd some_ (Int.lt_irrefl 0)
  · decide
  · decide
  · decide

theorem claude_block_term (req : ClaudeRequest) (block : CacheablePromptBlock)
    (member : block ∈ flattenClaudeCacheBlocks reader req) (marked : 0 < block.ttl) :
    defaultPromptCacheTTL ≤ block.ttl := by
  have prompt (wrapper : JsonFields) (value : Json) (isMessageEnd : Bool)
      (inside : block ∈ promptBlock reader wrapper value isMessageEnd) :
      defaultPromptCacheTTL ≤ block.ttl := by
    unfold promptBlock at inside
    split_ifs at inside
    · exact absurd inside List.not_mem_nil
    · rw [List.mem_singleton.mp inside] at marked ⊢
      exact normalized_term _ marked
  unfold flattenClaudeCacheBlocks at member
  simp only [List.cons_append, List.mem_cons, List.mem_append, List.mem_map, List.mem_flatMap]
    at member
  rcases member with prelude | (⟨tool, _, rfl⟩ | system) | ⟨msg, _, inside⟩
  · rw [prelude] at marked
    exact absurd marked (Int.lt_irrefl 0)
  · exact normalized_term _ marked
  · unfold systemCacheBlocks at system
    split at system
    · exact prompt _ _ _ system
    · obtain ⟨value, _, inside⟩ := List.mem_flatMap.mp system
      exact prompt _ _ _ inside
    · exact absurd system List.not_mem_nil
  · unfold messageCacheBlocks at inside
    split at inside
    · exact prompt _ _ _ inside
    · obtain ⟨blocks, found, inside⟩ := List.mem_flatten.mp inside
      obtain ⟨index, _, rfl⟩ := List.mem_mapIdx.mp found
      exact prompt _ _ _ inside
    · exact absurd inside List.not_mem_nil
    · exact prompt _ _ _ inside

theorem long_terms_concat (breakpoints : List (PromptCacheBreakpoint Fingerprint))
    (breakpoint : PromptCacheBreakpoint Fingerprint) (long : LongTerms breakpoints)
    (term : defaultPromptCacheTTL ≤ breakpoint.ttl) : LongTerms (breakpoints ++ [breakpoint]) := by
  intro found member
  rcases List.mem_append.mp member with before | last
  · exact long found before
  · rw [List.mem_singleton.mp last]
    exact term

def LongState (state : ProfileState Fingerprint) : Prop :=
  (0 < state.activeTTL → defaultPromptCacheTTL ≤ state.activeTTL) ∧ LongTerms state.breakpoints

theorem claude_block_long (state : ProfileState Fingerprint) (long : LongState state)
    (block : CacheablePromptBlock)
    (term : 0 < block.ttl → defaultPromptCacheTTL ≤ block.ttl) :
    LongState (addClaudeBlock reader state block) := by
  constructor
  · rw [addClaudeBlock]
    dsimp only
    split_ifs with marked
    · exact term
    · exact long.1
  · rw [addClaudeBlock]
    dsimp only
    by_cases marked : 0 < block.ttl
    · rw [if_pos marked, if_neg (Int.not_le.mpr marked)]
      exact long_terms_concat _ _ long.2 (term marked)
    · rw [if_neg marked]
      by_cases ends : (block.isMessageEnd && decide (0 < state.activeTTL)) = true
      · have active := of_decide_eq_true (Bool.and_eq_true_iff.mp ends).2
        rw [if_pos ends, if_neg (Int.not_le.mpr active)]
        exact long_terms_concat _ _ long.2 (long.1 active)
      · rw [if_neg ends, if_pos (Int.le_refl 0)]
        exact long.2

/-- A profile that one of the builders makes. -/
def Built (profile : PromptCacheProfile Fingerprint) : Prop :=
  (∃ req totalInputTokens, buildClaudeProfile reader req totalInputTokens = some profile) ∨
    ∃ payload totalInputTokens, buildOpenAIProfile reader payload totalInputTokens = some profile

theorem built_terms (profile : PromptCacheProfile Fingerprint) (built : Built reader profile) :
    LongTerms profile.breakpoints := by
  have start : LongState (startProfile : ProfileState Fingerprint) :=
    ⟨fun marked => absurd marked (Int.lt_irrefl 0), fun _ member => absurd member List.not_mem_nil⟩
  rcases built with ⟨req, totalInputTokens, made⟩ | ⟨payload, totalInputTokens, made⟩
  · have long := List.foldlRecOn (flattenClaudeCacheBlocks reader req) (addClaudeBlock reader)
      start fun state long block member =>
        claude_block_long reader state long block (claude_block_term reader req block member)
    rw [buildClaudeProfile] at made
    split_ifs at made
    rw [← Option.some.inj made]
    exact long.2
  · have long := List.foldlRecOn (promptBlocks payload)
      (addStableBlock reader payload.current.modelID totalInputTokens) start
      fun state long block _ => by
        refine ⟨long.1, ?_⟩
        rw [addStableBlock]
        dsimp only
        split_ifs
        · exact long.2
        · exact long_terms_concat _ _ long.2 (Int.le_refl _)
    rw [buildOpenAIProfile] at made
    dsimp only at made
    split_ifs at made
    rw [← Option.some.inj made]
    exact long.2

end Built

section Reading

variable {Fingerprint : Type} [DecidableEq Fingerprint] (reader : CacheReader Fingerprint)

/-- What `Compute` reports as read is at most this. -/
def readCap (profile : PromptCacheProfile Fingerprint) : Int :=
  match profile.breakpoints.getLast? with
  | none => 0
  | some last =>
      min (min last.cumulativeTokens profile.totalInputTokens)
        (maxCacheable profile.totalInputTokens)

/-- A breakpoint that lives is matched, or a later one is. -/
theorem matched_later (entries : Entries Fingerprint) (minTokens : Int) (now until_ : Time)
    (before after : List (PromptCacheBreakpoint Fingerprint))
    (breakpoint : PromptCacheBreakpoint Fingerprint)
    (lives : EntryLives entries breakpoint.fingerprint until_) (early : now < until_)
    (reaches : minTokens ≤ breakpoint.cumulativeTokens)
    (later : ∀ other ∈ after, breakpoint.cumulativeTokens ≤ other.cumulativeTokens) :
    ∃ found entry, matchedBreakpoint entries minTokens now (before ++ breakpoint :: after) =
      some (found, entry) ∧ breakpoint.cumulativeTokens ≤ found.cumulativeTokens := by
  obtain ⟨entry, stored, stays, _⟩ := lives
  rw [matchedBreakpoint, List.reverse_append, List.reverse_cons, List.append_assoc,
    List.findSome?_append]
  cases behind : matchedBreakpoint entries minTokens now after with
  | some pair =>
      obtain ⟨found, other⟩ := pair
      have member := (matched_found now entries minTokens after found other behind).1
      rw [matchedBreakpoint] at behind
      rw [behind]
      exact ⟨found, other, rfl, later found member⟩
  | none =>
      rw [matchedBreakpoint] at behind
      rw [behind, Option.none_or, List.singleton_append, List.findSome?_cons]
      rw [if_neg (Int.not_lt.mpr reaches), stored]
      dsimp only
      rw [if_neg (not_lt_of_ge (le_of_lt (lt_of_lt_of_le early stays)))]
      exact ⟨breakpoint, entry, rfl, Int.le_refl _⟩

theorem compute_reads (tracker : PromptCacheTracker Fingerprint) (accountID : GoString)
    (named : accountID ≠ []) (now until_ : Time) (early : now < until_)
    (profile : PromptCacheProfile Fingerprint)
    (before after : List (PromptCacheBreakpoint Fingerprint))
    (breakpoint : PromptCacheBreakpoint Fingerprint)
    (split : profile.breakpoints = before ++ breakpoint :: after)
    (lives : Lives tracker accountID breakpoint.fingerprint until_)
    (reaches : minCacheableTokensForModel reader.letters profile.model ≤
      breakpoint.cumulativeTokens)
    (later : ∀ other ∈ after, breakpoint.cumulativeTokens ≤ other.cumulativeTokens)
    (covers : breakpoint.cumulativeTokens ≤ profile.totalInputTokens) :
    min breakpoint.cumulativeTokens (readCap profile) ≤
      (compute reader.letters tracker accountID (some profile) now).1.cacheReadInputTokens := by
  have pruned := prune_lives accountID breakpoint.fingerprint until_ now tracker lives early
  obtain ⟨found, entry, matched, high⟩ := matched_later
    (entriesOf (pruneExpired tracker now) accountID)
    (minCacheableTokensForModel reader.letters profile.model) now until_ before after breakpoint
    pruned early reaches later
  have some_ : entriesOf (pruneExpired tracker now) accountID ≠ [] := by
    intro empty
    obtain ⟨_, stored, _⟩ := pruned
    rw [empty] at stored
    exact absurd stored.symm (Option.some_ne_none _)
  rw [← split] at matched
  rw [readCap, compute]
  dsimp only
  cases last : profile.breakpoints.getLast? with
  | none =>
      rw [List.getLast?_eq_none_iff, split] at last
      exact absurd last (List.append_ne_nil_of_right_ne_nil _ (List.cons_ne_nil _ _))
  | some last =>
      dsimp only
      rw [if_neg named, if_neg some_, computeCached]
      dsimp only
      rw [matched]
      dsimp only [usageOf]
      omega

/-- The calls between two requests: in time, and with profiles that are built. -/
structure Interlude (stored now : Time) (calls : List (TrackerCall Fingerprint)) : Prop where
  timely : ∀ call ∈ calls, stored ≤ call.now ∧ call.now ≤ now
  built : ∀ call ∈ calls, ∀ profile ∈ call.profile, Built reader profile

theorem interlude_lives (stored now : Time) (soon : now < stored + defaultPromptCacheTTL)
    (accountID : GoString) (fingerprint : Fingerprint) (calls : List (TrackerCall Fingerprint))
    (interlude : Interlude reader stored now calls) (tracker : PromptCacheTracker Fingerprint)
    (lives : Lives tracker accountID fingerprint (stored + defaultPromptCacheTTL)) :
    Lives (calls.foldl (TrackerCall.run reader.letters) tracker) accountID fingerprint
      (stored + defaultPromptCacheTTL) := by
  obtain ⟨timely, built⟩ := interlude
  induction calls generalizing tracker with
  | nil => exact lives
  | cons call calls ih =>
      obtain ⟨⟨since, before⟩, times⟩ := List.forall_mem_cons.mp timely
      obtain ⟨made, builds⟩ := List.forall_mem_cons.mp built
      have early := lt_of_le_of_lt before soon
      have late := Int.add_le_add_right since defaultPromptCacheTTL
      refine ih _ ?_ times builds
      rw [TrackerCall.run]
      split_ifs
      · exact update_lives reader.letters accountID fingerprint _ call.now tracker _ _ lives early
          late fun profile member => built_terms reader profile (made profile member)
      · exact compute_lives reader.letters accountID fingerprint _ call.now tracker _ _ lives
          early late

end Reading

section Prompts

variable {Fingerprint : Type} (reader : CacheReader Fingerprint) (earlier later : SentPayload)

def hasContext (payload : SentPayload) : Bool := payload.current.userInputMessageContext.isSome

/-- A prompt of the same kind that goes on where an earlier one stopped. -/
structure Extends : Prop where
  model : later.current.modelID = earlier.current.modelID
  config : later.inferenceConfig = earlier.inferenceConfig ∧
    later.temperature = earlier.temperature ∧ later.topP = earlier.topP
  tools : currentTools later.toKiroPayload = currentTools earlier.toKiroPayload
  history : earlier.history <+: later.history

variable (earlierTotal laterTotal : Int)

theorem inference_text (config : InferenceConfig)
    (same : later.temperature = earlier.temperature ∧ later.topP = earlier.topP) :
    marshalInference later config = marshalInference earlier config := by
  rw [marshalInference, marshalInference, same.1, same.2]

/-- The stable material as it is written: the same for both, up to the tools. -/
theorem stable_members (same : Extends earlier later) :
    ∃ first second, ∀ payload, payload = earlier ∨ payload = later →
      stableBlock payload = JsonText.marshalObject ([first, second] ++
        if hasContext payload then [JsonText.marshalMember (lit "tools")
          (if (currentTools earlier.toKiroPayload).isEmpty then lit "null"
          else JsonText.marshalArray ((currentTools earlier.toKiroPayload).map marshalTool))]
        else []) := by
  refine ⟨JsonText.marshalMember (lit "inference_config")
      (earlier.inferenceConfig.elim (lit "null") (marshalInference earlier)),
    JsonText.marshalMember (lit "model") (JsonText.marshalString earlier.current.modelID), ?_⟩
  intro payload side
  have tools : currentTools payload.toKiroPayload = currentTools earlier.toKiroPayload := by
    rcases side with rfl | rfl
    · rfl
    · exact same.tools
  have model : payload.current.modelID = earlier.current.modelID := by
    rcases side with rfl | rfl
    · rfl
    · exact same.model
  have config : payload.inferenceConfig = earlier.inferenceConfig := by
    rcases side with rfl | rfl
    · rfl
    · exact same.config.1
  have text : ∀ config, marshalInference payload config = marshalInference earlier config := by
    rcases side with rfl | rfl
    · exact fun _ => rfl
    · exact fun config => inference_text earlier payload config same.config.2
  rw [stableBlock, config, model, ← tools, hasContext, currentTools]
  simp only [text]
  cases payload.current.userInputMessageContext with
  | none => cases earlier.inferenceConfig <;> rfl
  | some context => cases earlier.inferenceConfig <;> rfl

theorem stable_same (same : Extends earlier later)
    (context : hasContext later = hasContext earlier) :
    stableBlock later = stableBlock earlier := by
  obtain ⟨first, second, text⟩ := stable_members earlier later same
  rw [text later (.inr rfl), text earlier (.inl rfl), context]

theorem stable_apart (same : Extends earlier later)
    (context : hasContext later ≠ hasContext earlier) :
    stableBlock earlier ≠ stableBlock later := by
  obtain ⟨first, second, text⟩ := stable_members earlier later same
  rw [text later (.inr rfl), text earlier (.inl rfl)]
  intro texts
  have lengths := congrArg List.length texts
  have longer := fun added =>
    JsonText.object_length_append [first, second] added (List.cons_ne_nil _ _)
  rw [longer, longer] at lengths
  cases one : hasContext earlier <;> cases two : hasContext later
  · exact context (two.trans one.symm)
  · simp [one, two] at lengths
  · simp [one, two] at lengths
  · exact context (two.trans one.symm)

theorem extended_blocks (same : Extends earlier later)
    (context : hasContext later = hasContext earlier) :
    ∃ added, promptBlocks later = promptBlocks earlier ++ added := by
  obtain ⟨added, history⟩ := same.history
  refine ⟨added.map marshalMessage, ?_⟩
  rw [promptBlocks, stable_same earlier later same context, ← history, List.map_append]
  rfl

/-- A prompt that goes on has the breakpoints of the one it goes on from, then others. -/
theorem extended_breakpoints (same : Extends earlier later)
    (context : hasContext later = hasContext earlier) :
    promptTokens reader earlier ≤ promptTokens reader later ∧
      ∃ more, promptBreakpoints reader later = promptBreakpoints reader earlier ++ more ∧
        ∀ breakpoint ∈ more, promptTokens reader earlier ≤ breakpoint.cumulativeTokens := by
  obtain ⟨added, blocks⟩ := extended_blocks earlier later same context
  have floor : tokenFloor reader later = tokenFloor reader earlier := by
    rw [tokenFloor, tokenFloor, same.model]
  constructor
  · have grows := block_tokens_nonneg_all reader added
    rw [promptTokens, promptTokens, blocks, block_tokens_append]
    omega
  · rw [promptBreakpoints, blocks, floor, breakpoints_append]
    refine ⟨_, rfl, fun breakpoint member => ?_⟩
    have between := breakpoints_between reader _ _ _ _ breakpoint member
    rw [Int.zero_add] at between
    exact between.1

theorem last_split (long : tokenFloor reader earlier ≤ promptTokens reader earlier) :
    ∃ before, promptBreakpoints reader earlier = before ++
      [⟨reader.sum (writtenAfter [] (promptBlocks earlier)), promptTokens reader earlier,
        defaultPromptCacheTTL⟩] := by
  have last := last_breakpoint reader earlier
  rw [if_neg (Int.not_lt.mpr long)] at last
  exact List.getLast?_eq_some_iff.mp last

variable [DecidableEq Fingerprint]

theorem update_stores (long : tokenFloor reader earlier ≤ promptTokens reader earlier)
    (tracker : PromptCacheTracker Fingerprint) (accountID : GoString) (named : accountID ≠ [])
    (stored : Time) :
    Lives (update reader.letters tracker accountID
      (some ⟨promptBreakpoints reader earlier, earlierTotal, earlier.current.modelID⟩) stored)
      accountID (reader.sum (writtenAfter [] (promptBlocks earlier)))
      (stored + defaultPromptCacheTTL) := by
  obtain ⟨before, split⟩ := last_split reader earlier long
  have nonempty : promptBreakpoints reader earlier ≠ [] := by
    rw [split]
    exact List.append_ne_nil_of_right_ne_nil _ (List.cons_ne_nil _ _)
  have terms : LongTerms (promptBreakpoints reader earlier) := fun breakpoint member =>
    Int.le_of_eq (breakpoints_between reader _ _ _ _ breakpoint member).2.2.2.symm
  rw [Lives, update_account reader.letters accountID stored tracker _ nonempty named,
    entries_set_same]
  dsimp only
  rw [split] at terms ⊢
  exact stored_lives stored _ before [] _ _ long terms

/-- The later request reads what the earlier one stored, as far as it may. -/
def ReadsPrefix : Prop :=
  ∀ (tracker : PromptCacheTracker Fingerprint) (accountID : GoString) (stored now : Time)
    (calls : List (TrackerCall Fingerprint)), accountID ≠ [] → stored ≤ now →
    now < stored + defaultPromptCacheTTL → Interlude reader stored now calls →
    ∀ profile, buildOpenAIProfile reader earlier earlierTotal = some profile →
      ∀ last, profile.breakpoints.getLast? = some last →
      ∀ next, buildOpenAIProfile reader later laterTotal = some next →
        min last.cumulativeTokens (readCap next) ≤
          (compute reader.letters (calls.foldl (TrackerCall.run reader.letters)
            (update reader.letters tracker accountID (some profile) stored)) accountID
            (some next) now).1.cacheReadInputTokens

theorem reads_extended (same : Extends earlier later)
    (earlierCovers : promptTokens reader earlier ≤ earlierTotal)
    (laterCovers : promptTokens reader later ≤ laterTotal)
    (context : hasContext later = hasContext earlier) :
    ReadsPrefix reader earlier later earlierTotal laterTotal := by
  intro tracker accountID stored now calls named _ soon interlude profile built last ends next made
  rw [openai_profile reader earlier earlierTotal earlierCovers] at built
  rw [openai_profile reader later laterTotal laterCovers] at made
  split_ifs at built made with short brief
  have long := Int.not_lt.mp short
  obtain ⟨before, split⟩ := last_split reader earlier long
  obtain ⟨longer, more, whole, grows⟩ := extended_breakpoints reader earlier later same context
  have stores := update_stores reader earlier earlierTotal long tracker accountID named stored
  have lives := interlude_lives reader stored now soon accountID _ calls interlude _ stores
  rw [Option.some.inj built] at lives
  have tokens : last.cumulativeTokens = promptTokens reader earlier := by
    rw [← Option.some.inj built, split, List.getLast?_concat] at ends
    rw [← Option.some.inj ends]
  have parts : next.breakpoints = before ++
      ⟨reader.sum (writtenAfter [] (promptBlocks earlier)), promptTokens reader earlier,
        defaultPromptCacheTTL⟩ :: more := by
    rw [← Option.some.inj made, whole, split, List.append_assoc]
    rfl
  have floor : minCacheableTokensForModel reader.letters next.model ≤
      promptTokens reader earlier := by
    rw [← Option.some.inj made, same.model]
    exact long
  have covers : promptTokens reader earlier ≤ next.totalInputTokens := by
    rw [← Option.some.inj made]
    exact longer.trans laterCovers
  rw [tokens]
  have reads := compute_reads reader (calls.foldl (TrackerCall.run reader.letters)
    (update reader.letters tracker accountID (some profile) stored)) accountID named now
    (stored + defaultPromptCacheTTL) soon next before more
    ⟨reader.sum (writtenAfter [] (promptBlocks earlier)), promptTokens reader earlier,
        defaultPromptCacheTTL⟩ parts
  exact reads lives floor grows covers

/-- No account has an entry for the fingerprint. -/
def Unheard (tracker : PromptCacheTracker Fingerprint) (fingerprint : Fingerprint) : Prop :=
  ∀ account ∈ tracker.entriesByAccount, ∀ entry ∈ account.2, entry.1 ≠ fingerprint

theorem unheard_lookup (tracker : PromptCacheTracker Fingerprint) (fingerprint : Fingerprint)
    (unheard : Unheard tracker fingerprint) (accountID : GoString) :
    (entriesOf tracker accountID).lookup fingerprint = none := by
  rw [entriesOf]
  cases found : tracker.entriesByAccount.lookup accountID with
  | none => rfl
  | some entries =>
      obtain ⟨before, after, split, _⟩ := List.lookup_eq_some_iff.mp found
      have member : (accountID, entries) ∈ tracker.entriesByAccount := by
        rw [split]
        exact List.mem_append_right _ List.mem_cons_self
      rw [Option.getD_some, List.lookup_eq_none_iff]
      intro entry inside
      exact bne_iff_ne.mpr (Ne.symm (unheard _ member entry inside))

omit [DecidableEq Fingerprint] in
theorem prune_unheard (tracker : PromptCacheTracker Fingerprint) (fingerprint : Fingerprint)
    (unheard : Unheard tracker fingerprint) (now : Time) :
    Unheard (pruneExpired tracker now) fingerprint := by
  intro account member entry inside
  obtain ⟨whole, old, rfl⟩ := List.mem_map.mp (List.mem_of_mem_filter member)
  exact unheard whole old entry (List.mem_of_mem_filter inside)

theorem store_unheard (floor : Int) (now : Time) (fingerprint : Fingerprint)
    (breakpoints : List (PromptCacheBreakpoint Fingerprint))
    (apart : ∀ breakpoint ∈ breakpoints, breakpoint.fingerprint ≠ fingerprint)
    (entries : Entries Fingerprint) (unheard : ∀ entry ∈ entries, entry.1 ≠ fingerprint) :
    ∀ entry ∈ breakpoints.foldl (storeBreakpoint floor now) entries, entry.1 ≠ fingerprint := by
  induction breakpoints generalizing entries with
  | nil => exact unheard
  | cons breakpoint breakpoints ih =>
      obtain ⟨here, rest⟩ := List.forall_mem_cons.mp apart
      apply ih rest
      rw [storeBreakpoint]
      split_ifs
      · exact unheard
      · intro entry member
        rw [setEntry] at member
        rcases List.mem_cons.mp member with rfl | old
        · exact here
        · exact unheard entry (List.mem_of_mem_filter old)

/-- With none of its fingerprints stored, a profile reads nothing. -/
theorem unheard_reads (tracker : PromptCacheTracker Fingerprint) (accountID : GoString)
    (profile : PromptCacheProfile Fingerprint) (now : Time)
    (unheard : ∀ breakpoint ∈ profile.breakpoints, Unheard tracker breakpoint.fingerprint) :
    (compute reader.letters tracker accountID (some profile) now).1.cacheReadInputTokens = 0 := by
  have missed : matchedBreakpoint (entriesOf (pruneExpired tracker now) accountID)
      (minCacheableTokensForModel reader.letters profile.model) now profile.breakpoints = none := by
    rw [matchedBreakpoint, List.findSome?_eq_none_iff]
    intro breakpoint member
    have absent := unheard_lookup _ _ (prune_unheard tracker breakpoint.fingerprint
      (unheard breakpoint (List.mem_reverse.mp member)) now) accountID
    rw [absent, ite_self]
  rw [compute]
  dsimp only
  cases profile.breakpoints.getLast? with
  | none => rfl
  | some last =>
      dsimp only
      split_ifs
      · rfl
      · rfl
      · rfl
      · rw [computeCached]
        dsimp only
        rw [missed]
        rfl

/-- No two of the texts that the requests write have one hash. -/
def HashesApart : Prop :=
  ∀ first ∈ writtenTexts [] (promptBlocks earlier),
    ∀ second ∈ writtenTexts [] (promptBlocks later),
      reader.sum first = reader.sum second → first = second

omit [DecidableEq Fingerprint] in
theorem cap_positive (covers : promptTokens reader later ≤ laterTotal)
    (long : tokenFloor reader later ≤ promptTokens reader later) :
    0 < readCap (⟨promptBreakpoints reader later, laterTotal, later.current.modelID⟩ :
      PromptCacheProfile Fingerprint) := by
  have large : 1024 ≤ tokenFloor reader later := by
    rw [tokenFloor, minCacheableTokensForModel]
    split_ifs <;> decide
  have cap := max_cacheable_positive laterTotal (by omega)
  have last := last_breakpoint reader later
  rw [if_neg (Int.not_lt.mpr long)] at last
  rw [readCap]
  dsimp only
  rw [last]
  dsimp only
  omega

/-- Without a common first block, a fresh tracker has nothing for the later request. -/
theorem apart_reads_nothing (same : Extends earlier later)
    (earlierCovers : promptTokens reader earlier ≤ earlierTotal)
    (laterCovers : promptTokens reader later ≤ laterTotal)
    (hashes : HashesApart reader earlier later)
    (context : hasContext later ≠ hasContext earlier)
    (earlierLong : tokenFloor reader earlier ≤ promptTokens reader earlier)
    (laterLong : tokenFloor reader later ≤ promptTokens reader later) :
    ¬ ReadsPrefix reader earlier later earlierTotal laterTotal := by
  intro reads
  have built := openai_profile reader earlier earlierTotal earlierCovers
  have made := openai_profile reader later laterTotal laterCovers
  have last := last_breakpoint reader earlier
  rw [if_neg (Int.not_lt.mpr earlierLong)] at built last
  rw [if_neg (Int.not_lt.mpr laterLong)] at made
  have named : lit "account" ≠ [] := by decide
  have read := reads newPromptCacheTracker (lit "account") 0 0 [] named (Int.le_refl 0)
    (by decide) ⟨fun _ member => absurd member List.not_mem_nil,
      fun _ member => absurd member List.not_mem_nil⟩ _ built _ last _ made
  have unheard : ∀ breakpoint ∈ promptBreakpoints reader later,
      Unheard (update reader.letters newPromptCacheTracker (lit "account")
        (some ⟨promptBreakpoints reader earlier, earlierTotal, earlier.current.modelID⟩) 0)
        breakpoint.fingerprint := by
    intro breakpoint member account inside entry found
    have nonempty : promptBreakpoints reader earlier ≠ [] := by
      intro empty
      rw [empty] at last
      exact absurd last.symm (Option.some_ne_none _)
    rw [update_account reader.letters (lit "account") 0 newPromptCacheTracker _ nonempty named]
      at inside
    rcases List.mem_cons.mp inside with rfl | other
    · obtain ⟨text, written, sum⟩ := breakpoint_written reader _ _ _ _ breakpoint member
      refine store_unheard _ _ breakpoint.fingerprint _ ?_ _ ?_ entry found
      · intro stored there hash
        obtain ⟨old, wrote, oldSum⟩ := breakpoint_written reader _ _ _ _ stored there
        have texts := hashes old wrote text written (oldSum.symm.trans (hash.trans sum))
        exact written_apart _ _ (stable_apart earlier later same context) _ _ old text wrote
          written texts
      · exact fun _ none_ => absurd none_ List.not_mem_nil
    · exact absurd (List.mem_of_mem_filter other) List.not_mem_nil
  have nothing := unheard_reads reader _ (lit "account")
    ⟨promptBreakpoints reader later, laterTotal, later.current.modelID⟩ 0 unheard
  have cap := cap_positive reader later laterTotal laterCovers laterLong
  have floor := floor_positive reader earlier
  rw [List.foldl_nil, nothing] at read
  dsimp only at read
  omega

/-- A later prompt reads what it shares exactly where both of the current messages have a context
or neither has, or where one of the prompts is too short to be cached. -/
theorem reads_prefix_iff (same : Extends earlier later)
    (earlierCovers : promptTokens reader earlier ≤ earlierTotal)
    (laterCovers : promptTokens reader later ≤ laterTotal)
    (hashes : HashesApart reader earlier later) :
    ReadsPrefix reader earlier later earlierTotal laterTotal ↔
      hasContext later = hasContext earlier ∨
        promptTokens reader earlier < tokenFloor reader earlier ∨
        promptTokens reader later < tokenFloor reader later := by
  constructor
  · intro reads
    by_contra others
    rw [not_or, not_or] at others
    exact apart_reads_nothing reader earlier later earlierTotal laterTotal same earlierCovers
      laterCovers hashes others.1 (Int.not_lt.mp others.2.1) (Int.not_lt.mp others.2.2) reads
  · rintro (context | short | brief)
    · exact reads_extended reader earlier later earlierTotal laterTotal same earlierCovers
        laterCovers context
    · intro _ _ _ _ _ _ _ _ _ profile built
      rw [openai_profile reader earlier earlierTotal earlierCovers, if_pos short] at built
      exact absurd built.symm (Option.some_ne_none _)
    · intro _ _ _ _ _ _ _ _ _ _ _ _ _ next made
      rw [openai_profile reader later laterTotal laterCovers, if_pos brief] at made
      exact absurd made.symm (Option.some_ne_none _)

end Prompts

section Narrowing

def userText (content : GoString) : KiroUserInputMessage where
  content := content
  modelID := lit "claude-sonnet-4.5"
  origin := lit "AI_EDITOR"
  images := []
  documents := []
  userInputMessageContext := none

/-- A question on a long history, by a client without tools. -/
def longQuestion : SentPayload where
  current := userText (lit "next")
  history := [⟨some (userText (List.replicate 1600 0x21)), none⟩,
    ⟨none, some ⟨lit "ok", []⟩⟩]
  inferenceConfig := none
  toolNameMap := []
  agentContinuationId := []
  agentTaskType := []
  chatTriggerType := lit "MANUAL"
  conversationID := []
  profileArn := []
  temperature := none
  topP := none
  additionalModelRequestFields := []

/-- The history goes on with a call of the model, and the current message answers it. -/
def answeredCall : SentPayload :=
  { longQuestion with
    current := { userText (lit "Tool results:") with
      userInputMessageContext := some ⟨[], [⟨lit "call_1", [⟨lit "42"⟩], lit "success"⟩]⟩ }
    history := longQuestion.history ++ [⟨some (userText (lit "next")), none⟩,
      ⟨none, some ⟨lit ".", [⟨lit "call_1", lit "lookup", []⟩]⟩⟩] }

/-- And further: an answer, and the next question. -/
def secondQuestion : SentPayload :=
  { longQuestion with
    history := longQuestion.history ++ [⟨some (userText (lit "next")), none⟩,
      ⟨none, some ⟨lit "done", []⟩⟩] }

theorem plain_hashes_apart (earlier later : SentPayload) :
    HashesApart ClaudeUsage.plainReader earlier later := fun _ _ _ _ same => same

theorem long_question_tokens :
    promptTokens ClaudeUsage.plainReader longQuestion = 1134 := by decide +kernel

theorem answered_call_tokens :
    promptTokens ClaudeUsage.plainReader answeredCall = 1214 := by decide +kernel

theorem second_question_tokens :
    promptTokens ClaudeUsage.plainReader secondQuestion = 1183 := by decide +kernel

theorem second_question_reads :
    ReadsPrefix ClaudeUsage.plainReader longQuestion secondQuestion 1500 1500 ↔
      hasContext secondQuestion = hasContext longQuestion ∨
        promptTokens ClaudeUsage.plainReader longQuestion <
          tokenFloor ClaudeUsage.plainReader longQuestion ∨
        promptTokens ClaudeUsage.plainReader secondQuestion <
          tokenFloor ClaudeUsage.plainReader secondQuestion :=
  reads_prefix_iff ClaudeUsage.plainReader longQuestion secondQuestion 1500 1500
    ⟨rfl, ⟨rfl, rfl, rfl⟩, rfl, List.prefix_append _ _⟩ (by rw [long_question_tokens]; decide)
    (by rw [second_question_tokens]; decide) (plain_hashes_apart _ _)

theorem answered_call_reads_nothing :
    Extends longQuestion answeredCall ∧
      promptTokens ClaudeUsage.plainReader longQuestion ≤ 1500 ∧
      promptTokens ClaudeUsage.plainReader answeredCall ≤ 1500 ∧
      ¬ ReadsPrefix ClaudeUsage.plainReader longQuestion answeredCall 1500 1500 := by
  have same : Extends longQuestion answeredCall :=
    ⟨rfl, ⟨rfl, rfl, rfl⟩, rfl, List.prefix_append _ _⟩
  have earlier : promptTokens ClaudeUsage.plainReader longQuestion ≤ 1500 := by
    rw [long_question_tokens]
    decide
  have later : promptTokens ClaudeUsage.plainReader answeredCall ≤ 1500 := by
    rw [answered_call_tokens]
    decide
  refine ⟨same, earlier, later, ?_⟩
  exact apart_reads_nothing ClaudeUsage.plainReader longQuestion answeredCall 1500 1500 same
    earlier later (plain_hashes_apart _ _) (by decide) (by rw [long_question_tokens]; decide)
    (by rw [answered_call_tokens]; decide)

end Narrowing

end KiroProxy.PromptCache
