import KiroProxy.Proxy.ClaudeWebSearch

/-!
# The usage of a web search loop

What `webSearchLoopUsage` holds after the rounds of a loop, and that `recordWebSearchLoop`
logs the totals once and splits them over the accounts.
-/

namespace KiroProxy.ClaudeWebSearch

open ApiKeys (CreditAmount)
open ClaudeUsage EventStream Foundation.Tables GoStrings KiroTypes
open Pool (Usage)
open RequestHandling TokenEstimator
open UsageAccounting (ApiKeyUsageReservation)

set_option autoImplicit false

section Rounds

variable {Credit : Type}

theorem output_estimate_nonneg (weigh : RuneClasses → Int) (content thinking : GoString)
    (toolUses : List KiroToolUse) :
    0 ≤ estimateClaudeOutputTokens weigh content thinking toolUses := by
  unfold estimateClaudeOutputTokens
  have texts := Int.add_nonneg (approx_tokens_nonneg weigh content)
    (approx_tokens_nonneg weigh thinking)
  generalize estimateApproxTokens weigh content + estimateApproxTokens weigh thinking = total at *
  induction toolUses generalizing total with
  | nil => exact texts
  | cons toolUse toolUses ih =>
      rw [List.foldl_cons]
      apply ih
      exact Int.add_nonneg (Int.add_nonneg texts (approx_tokens_nonneg weigh _))
        (approx_tokens_nonneg weigh _)

theorem finalized_nonneg (inputTokens outputTokens contextTokens estimatedOutputTokens : Int)
    (estimatedInputTokens : Nat) (estimate : 0 ≤ estimatedOutputTokens) :
    let tokens := finalizeUsageTokens inputTokens outputTokens estimatedInputTokens contextTokens
      estimatedOutputTokens
    0 ≤ tokens.1 ∧ 0 ≤ tokens.2 := by
  intro tokens
  constructor
  · have any : ∀ output : Int, 0 ≤ if inputTokens ≤ 0 then
        if 0 < contextTokens then
          inputFromContextTokens contextTokens output estimatedInputTokens
        else (estimatedInputTokens : Int)
      else inputTokens := by
      intro output
      split_ifs with missing counted
      · unfold inputFromContextTokens
        exact Int.le_trans (Int.le_min.mpr ⟨Int.natCast_nonneg _, Int.le_of_lt counted⟩)
          (Int.le_max_right _ _)
      · exact Int.natCast_nonneg _
      · omega
    exact any _
  · change 0 ≤ if outputTokens ≤ 0 then _ else _
    split_ifs with missing
    · exact estimate
    · omega

variable [CreditAmount Credit] (options : HandlerOptions Credit)

/-- A round is billed no negative amount. -/
theorem round_nonneg (estimatedInputTokens : Nat) (upstream : UpstreamRuns Credit) :
    let round := claudeRound options estimatedInputTokens upstream.runs
    0 ≤ round.inputTokens ∧ 0 ≤ round.outputTokens ∧ (0 : Credit) ≤ round.credits := by
  intro round
  obtain ⟨input, output⟩ := finalized_nonneg
    (upstream.runs.foldl (fun raw run => RawAnswer.onCallback
      { options with estimatedInputTokens := estimatedInputTokens } raw false run)
      startRaw).counters.inputTokens
    (upstream.runs.foldl (fun raw run => RawAnswer.onCallback
      { options with estimatedInputTokens := estimatedInputTokens } raw false run)
      startRaw).counters.outputTokens
    (upstream.runs.foldl (fun raw run => RawAnswer.onCallback
      { options with estimatedInputTokens := estimatedInputTokens } raw false run)
      startRaw).counters.realInputTokens _ estimatedInputTokens
    (output_estimate_nonneg options.weigh round.text round.thinking round.toolUses)
  refine ⟨input, output, ?_⟩
  have credited : ∀ (runs : List (CallbackRun Credit)) (raw : RawAnswer Credit),
      (∀ credits, .credits credits ∈ runs → 0 ≤ credits) → (0 : Credit) ≤ raw.counters.credits →
      (0 : Credit) ≤ (runs.foldl (fun raw run => RawAnswer.onCallback
        { options with estimatedInputTokens := estimatedInputTokens } raw false run)
        raw).counters.credits := by
    intro runs
    induction runs with
    | nil => exact fun _ _ start => start
    | cons run runs ih =>
        intro raw nonneg start
        rw [List.foldl_cons]
        apply ih _ fun credits member => nonneg credits (List.mem_cons_of_mem _ member)
        cases run with
        | text text isThinking => cases isThinking <;> exact start
        | toolUse toolUse => exact start
        | stopReason reason => exact start
        | credits credits => exact nonneg credits List.mem_cons_self
        | contextUsage percentage => exact start
        | cacheUsage read write => exact start
        | complete inputTokens outputTokens => exact start
  exact credited upstream.runs startRaw upstream.nonneg CreditAmount.zero_nonneg

end Rounds

section Totals

variable {Credit : Type} [CreditAmount Credit]

/-- The finished rounds: the account that answered, and what it answered. -/
abbrev Finished (Credit : Type) := List (GoString × ClaudeWebSearchRound Credit)

omit [CreditAmount Credit] in
def inputOf (finished : Finished Credit) : Int :=
  (finished.map fun round => round.2.inputTokens).sum

omit [CreditAmount Credit] in
def outputOf (finished : Finished Credit) : Int :=
  (finished.map fun round => round.2.outputTokens).sum

/-- The credits of the rounds, added in their order. -/
def creditsOf (finished : Finished Credit) : Credit :=
  finished.foldl (fun total round => total + round.2.credits) 0

omit [CreditAmount Credit] in
/-- The rounds that an account answered. -/
def ownRounds (accountID : GoString) (finished : Finished Credit) : Finished Credit :=
  finished.filter fun round => round.1 == accountID

def addRound (usage : WebSearchLoopUsage Credit)
    (round : GoString × ClaudeWebSearchRound Credit) : WebSearchLoopUsage Credit :=
  usage.add round.1 round.2.inputTokens round.2.outputTokens round.2.credits

/-- The usage after the rounds. -/
def usageOf (finished : Finished Credit) : WebSearchLoopUsage Credit :=
  finished.foldl addRound .start

/-- Rounds are billed no negative amount. -/
def Billed (finished : Finished Credit) : Prop :=
  ∀ round ∈ finished, 0 ≤ round.2.inputTokens ∧ 0 ≤ round.2.outputTokens ∧
    (0 : Credit) ≤ round.2.credits

omit [CreditAmount Credit] in
theorem input_concat (finished : Finished Credit)
    (round : GoString × ClaudeWebSearchRound Credit) :
    inputOf (finished ++ [round]) = inputOf finished + round.2.inputTokens := by
  simp [inputOf]

omit [CreditAmount Credit] in
theorem output_concat (finished : Finished Credit)
    (round : GoString × ClaudeWebSearchRound Credit) :
    outputOf (finished ++ [round]) = outputOf finished + round.2.outputTokens := by
  simp [outputOf]

theorem credits_concat (finished : Finished Credit)
    (round : GoString × ClaudeWebSearchRound Credit) :
    creditsOf (finished ++ [round]) = creditsOf finished + round.2.credits :=
  List.foldl_concat ..

theorem usage_concat (finished : Finished Credit)
    (round : GoString × ClaudeWebSearchRound Credit) :
    usageOf (finished ++ [round]) = addRound (usageOf finished) round :=
  List.foldl_concat ..

theorem usage_totals (finished : Finished Credit) :
    (usageOf finished).inTokens = inputOf finished ∧
      (usageOf finished).outTokens = outputOf finished ∧
      (usageOf finished).credits = creditsOf finished := by
  induction finished using List.reverseRecOn with
  | nil => exact ⟨rfl, rfl, rfl⟩
  | append_singleton finished round ih =>
      rw [usage_concat, input_concat, output_concat, credits_concat, ← ih.1, ← ih.2.1, ← ih.2.2]
      exact ⟨rfl, rfl, rfl⟩

/-- An account's share is what its own rounds used, in their order. -/
theorem usage_share (finished : Finished Credit) (accountID : GoString) :
    ((usageOf finished).share accountID).tokens =
        inputOf (ownRounds accountID finished) + outputOf (ownRounds accountID finished) ∧
      ((usageOf finished).share accountID).credits = creditsOf (ownRounds accountID finished) := by
  induction finished using List.reverseRecOn with
  | nil => exact ⟨rfl, rfl⟩
  | append_singleton finished round ih =>
      rw [usage_concat, ownRounds, List.filter_append]
      change _ ∧ ((usageOf finished).share accountID).credits =
        creditsOf (finished.filter fun round => round.1 == accountID) at ih
      by_cases same : accountID = round.1
      · have own : [round].filter (fun round => round.1 == accountID) = [round] := by
          rw [List.filter_singleton, same, beq_self_eq_true]
          rfl
        have share : (addRound (usageOf finished) round).share accountID =
            ⟨((usageOf finished).share accountID).tokens +
                (round.2.inputTokens + round.2.outputTokens),
              ((usageOf finished).share accountID).credits + round.2.credits⟩ := by
          rw [same]
          unfold addRound WebSearchLoopUsage.add
          rw [WebSearchLoopUsage.share, get_put, if_pos rfl]
          rfl
        rw [own, share, input_concat, output_concat, credits_concat, ih.1, ih.2]
        refine ⟨?_, rfl⟩
        change inputOf (ownRounds accountID finished) + outputOf (ownRounds accountID finished) + _ =
          inputOf (ownRounds accountID finished) + _ +
            (outputOf (ownRounds accountID finished) + _)
        omega
      · have other : [round].filter (fun round => round.1 == accountID) = [] := by
          rw [List.filter_singleton, beq_false_of_ne fun again => same again.symm]
          rfl
        have share : (addRound (usageOf finished) round).share accountID =
            (usageOf finished).share accountID := by
          unfold addRound WebSearchLoopUsage.add
          rw [WebSearchLoopUsage.share, get_put, if_neg same]
          rfl
        rw [other, List.append_nil, share]
        exact ih

theorem own_nonneg (finished : Finished Credit) (billed : Billed finished) :
    0 ≤ inputOf finished ∧ 0 ≤ outputOf finished ∧ (0 : Credit) ≤ creditsOf finished := by
  induction finished using List.reverseRecOn with
  | nil => exact ⟨Int.le_refl 0, Int.le_refl 0, CreditAmount.zero_nonneg⟩
  | append_singleton finished round ih =>
      obtain ⟨input, output, credits⟩ := ih fun other member =>
        billed other (List.mem_append_left _ member)
      obtain ⟨roundInput, roundOutput, roundCredits⟩ :=
        billed round (List.mem_append_right _ (List.mem_singleton_self round))
      rw [input_concat, output_concat, credits_concat]
      exact ⟨Int.add_nonneg input roundInput, Int.add_nonneg output roundOutput,
        CreditAmount.add_nonneg _ _ credits roundCredits⟩

/-- The shares of all accounts sum to the totals where the amount adds up exactly. -/
theorem shares_sum {Amount : Type} [AddCommMonoid Amount]
    (amount : WebSearchAccountUsage Credit → Amount)
    (part : ClaudeWebSearchRound Credit → Amount) (zero : amount ⟨0, 0⟩ = 0)
    (grows : ∀ share (round : ClaudeWebSearchRound Credit),
      amount ⟨share.tokens + (round.inputTokens + round.outputTokens),
        share.credits + round.credits⟩ = amount share + part round)
    (finished : Finished Credit) :
    (usageOf finished).perAccount.sum amount = (finished.map fun round => part round.2).sum := by
  induction finished using List.reverseRecOn with
  | nil => rfl
  | append_singleton finished round ih =>
      rw [usage_concat, List.map_append, List.sum_append, ← ih]
      unfold addRound WebSearchLoopUsage.add
      rw [sum_put amount _ _ _ (part round.2), List.map_singleton, List.sum_singleton]
      rw [grows, WebSearchLoopUsage.share]
      cases (usageOf finished).perAccount.get round.1 with
      | none => rw [Option.getD_none, zero, Option.map_none, Option.getD_none]
      | some share => rfl

/-- The accounts with a share are those of the rounds. -/
theorem share_accounts (finished : Finished Credit) (accountID : GoString)
    (share : WebSearchAccountUsage Credit)
    (stored : (accountID, share) ∈ (usageOf finished).perAccount.entries) :
    ∃ round ∈ finished, round.1 = accountID := by
  rw [mem_iff_get] at stored
  induction finished using List.reverseRecOn generalizing share with
  | nil => cases stored
  | append_singleton finished round ih =>
      rw [usage_concat] at stored
      unfold addRound WebSearchLoopUsage.add at stored
      rw [get_put] at stored
      split_ifs at stored with same
      · exact ⟨round, List.mem_append_right _ (List.mem_singleton_self round), same.symm⟩
      · obtain ⟨earlier, member, named⟩ := ih share stored
        exact ⟨earlier, List.mem_append_left _ member, named⟩

theorem round_share (finished : Finished Credit) (round : GoString × ClaudeWebSearchRound Credit)
    (member : round ∈ finished) :
    (round.1, (usageOf finished).share round.1) ∈ (usageOf finished).perAccount.entries := by
  rw [mem_iff_get, WebSearchLoopUsage.share]
  induction finished using List.reverseRecOn with
  | nil => cases member
  | append_singleton finished last ih =>
      rw [usage_concat]
      unfold addRound WebSearchLoopUsage.add
      rw [get_put]
      split_ifs with same
      · rfl
      · cases List.mem_append.mp member with
        | inl inside => exact ih inside
        | inr final => exact absurd (congrArg Prod.fst (List.mem_singleton.mp final)) same

end Totals

section Records

variable {Credit : Type} [CreditAmount Credit]

omit [CreditAmount Credit] in
def requestOf : LoopBooking Credit → Option (RequestRecord Credit)
  | .booked (.request record) => some record
  | _ => none

omit [CreditAmount Credit] in
/-- What is added to an account. -/
def partOf : LoopBooking Credit → Option (GoString × WebSearchAccountUsage Credit)
  | .counted accountID (.outcome _ tokens credits) => some (accountID, ⟨tokens, credits⟩)
  | .counted accountID (.part tokens credits) => some (accountID, ⟨tokens, credits⟩)
  | _ => none

omit [CreditAmount Credit] in
/-- The account that counts the request. -/
def outcomeOf : LoopBooking Credit → Option GoString
  | .counted accountID (.outcome _ _ _) => some accountID
  | _ => none

omit [CreditAmount Credit] in
def idOf (last : Option PickedAccount) : GoString := (last.map fun account => account.id).getD []

/-- One request is logged with the totals of the rounds, every account of a round gets what its
own rounds used, and the last account counts the request. Credits are added in the order of the
rounds. -/
structure Accounted (finished : Finished Credit) (last : Option PickedAccount)
    (bookings : List (LoopBooking Credit)) : Prop where
  logged : ∃ record, bookings.filterMap requestOf = [record] ∧
    record.inputTokens = inputOf finished ∧ record.outputTokens = outputOf finished ∧
    record.credits = creditsOf finished ∧ record.accountID = idOf last
  shares : ∀ accountID share, (accountID, share) ∈ bookings.filterMap partOf →
    share.tokens = inputOf (ownRounds accountID finished) +
        outputOf (ownRounds accountID finished) ∧
      share.credits = creditsOf (ownRounds accountID finished) ∧
      0 ≤ share.tokens ∧ (0 : Credit) ≤ share.credits
  complete : ∀ round ∈ finished, round.1 ∈ (bookings.filterMap partOf).map Prod.fst
  once : ((bookings.filterMap partOf).map Prod.fst).Nodup
  tokens : ((bookings.filterMap partOf).map fun entry => entry.2.tokens).sum =
    inputOf finished + outputOf finished
  counts : bookings.filterMap outcomeOf = (last.map fun account => account.id).toList

variable (range : MapRange (GoString × WebSearchAccountUsage Credit)) (request : LoopRequest Credit)
  (last : Option PickedAccount) (success : Bool) (status : Nat) (message : GoString)

/-- The accounts but for the last one. -/
def otherShares (usage : WebSearchLoopUsage Credit) :
    List (GoString × WebSearchAccountUsage Credit) :=
  (range.visit usage.perAccount.entries).filter fun entry => entry.1 != idOf last

theorem recorded_parts (usage : WebSearchLoopUsage Credit) :
    (recordWebSearchLoop range request last usage success status message).filterMap partOf =
      otherShares range last usage ++
        if idOf last = [] then [] else [(idOf last, usage.share (idOf last))] := by
  unfold recordWebSearchLoop
  rw [List.filterMap_append, List.filterMap_append, List.filterMap_map]
  have others : (otherShares range last usage).filterMap
      (partOf ∘ fun entry => LoopBooking.counted entry.1 (.part entry.2.tokens entry.2.credits)) =
        otherShares range last usage := by
    have same : (partOf ∘ fun entry : GoString × WebSearchAccountUsage Credit =>
        LoopBooking.counted entry.1 (.part entry.2.tokens entry.2.credits)) = some := rfl
    rw [same, List.filterMap_some]
  change [] ++ (otherShares range last usage).filterMap _ ++ List.filterMap partOf
    (if idOf last = [] then [] else _) = _
  rw [others, List.nil_append]
  congr 1
  split_ifs
  · rfl
  · rfl

theorem recorded_counts (usage : WebSearchLoopUsage Credit) :
    (recordWebSearchLoop range request last usage success status message).filterMap outcomeOf =
      (last.map fun account => account.id).toList := by
  unfold recordWebSearchLoop
  rw [List.filterMap_append, List.filterMap_append, List.filterMap_map]
  have others : (otherShares range last usage).filterMap
      (outcomeOf ∘ fun entry => LoopBooking.counted entry.1 (.part entry.2.tokens entry.2.credits)) =
        [] := List.filterMap_eq_nil_iff.mpr fun _ _ => rfl
  change [] ++ (otherShares range last usage).filterMap _ ++ List.filterMap outcomeOf
    (if idOf last = [] then [] else _) = _
  rw [others]
  cases last with
  | none => rfl
  | some account =>
      have named : idOf (some account) ≠ [] := account.named
      rw [if_neg named]
      rfl

theorem recorded_requests (usage : WebSearchLoopUsage Credit) : ∃ record,
    (recordWebSearchLoop range request last usage success status message).filterMap requestOf =
        [record] ∧
      record.inputTokens = usage.inTokens ∧ record.outputTokens = usage.outTokens ∧
      record.credits = usage.credits ∧ record.accountID = idOf last := by
  unfold recordWebSearchLoop
  rw [List.filterMap_append, List.filterMap_append, List.filterMap_map]
  have others : (otherShares range last usage).filterMap
      (requestOf ∘ fun entry => LoopBooking.counted entry.1 (.part entry.2.tokens entry.2.credits)) =
        [] := List.filterMap_eq_nil_iff.mpr fun _ _ => rfl
  have own (some_ : List (LoopBooking Credit)) (none : some_.filterMap requestOf = []) (head) :
      [head] ++ (otherShares range last usage).filterMap (requestOf ∘ fun entry =>
        LoopBooking.counted entry.1 (.part entry.2.tokens entry.2.credits)) ++
          some_.filterMap requestOf = [head] := by
    rw [others, none, List.append_nil, List.append_nil]
  refine ⟨_, own _ ?_ _, rfl, rfl, rfl, rfl⟩
  split_ifs
  · rfl
  · rfl

/-- The shares that are recorded sum to those of the table. -/
theorem recorded_sum {Amount : Type} [AddCommMonoid Amount]
    (amount : WebSearchAccountUsage Credit → Amount) (zero : amount ⟨0, 0⟩ = 0)
    (finished : Finished Credit) (named : ∀ round ∈ finished, round.1 ≠ []) :
    (((recordWebSearchLoop range request last (usageOf finished) success status message).filterMap
      partOf).map fun entry => amount entry.2).sum = (usageOf finished).perAccount.sum amount := by
  have others : ((otherShares range last (usageOf finished)).map fun entry => amount entry.2).sum =
      ((usageOf finished).perAccount.erase (idOf last)).sum amount := by
    have visited := ((range.perm (usageOf finished).perAccount.entries).filter
      fun entry => entry.1 != idOf last).map fun entry => amount entry.2
    have tests : (fun entry : GoString × WebSearchAccountUsage Credit => entry.1 != idOf last) =
        fun entry => decide (entry.1 ≠ idOf last) := by
      funext entry
      rw [Bool.eq_iff_iff, bne_iff_ne, decide_eq_true_eq]
    exact visited.sum_eq.trans (by rw [tests]; rfl)
  have whole := sum_erase amount (usageOf finished).perAccount (idOf last)
  rw [recorded_parts, List.map_append, List.sum_append, others, whole, add_comm]
  congr 1
  unfold WebSearchLoopUsage.share
  cases stored : (usageOf finished).perAccount.get (idOf last) with
  | none =>
      split_ifs
      · rfl
      · simp [zero]
  | some share =>
      have some_ : idOf last ≠ [] := by
        intro empty
        rw [← mem_iff_get] at stored
        obtain ⟨round, member, same⟩ := share_accounts finished _ share stored
        exact named round member (same.trans empty)
      rw [if_neg some_]
      simp

theorem own_billed (finished : Finished Credit) (billed : Billed finished) (accountID : GoString) :
    Billed (ownRounds accountID finished) :=
  fun round member => billed round (List.mem_filter.mp member).1

theorem share_of_table (finished : Finished Credit) (accountID : GoString)
    (share : WebSearchAccountUsage Credit)
    (stored : (accountID, share) ∈ (usageOf finished).perAccount.entries) :
    share = (usageOf finished).share accountID := by
  rw [mem_iff_get] at stored
  rw [WebSearchLoopUsage.share, stored]
  rfl

/-- What the loop records accounts for its rounds. -/
theorem recorded_accounted (finished : Finished Credit) (billed : Billed finished)
    (named : ∀ round ∈ finished, round.1 ≠ []) :
    Accounted finished last
      (recordWebSearchLoop range request last (usageOf finished) success status message) := by
  obtain ⟨inTokens, outTokens, credits⟩ := usage_totals finished
  constructor
  · obtain ⟨record, logged, input, output, spent, account⟩ :=
      recorded_requests range request last success status message (usageOf finished)
    exact ⟨record, logged, input.trans inTokens, output.trans outTokens, spent.trans credits,
      account⟩
  · intro accountID share member
    have known : share = (usageOf finished).share accountID := by
      rw [recorded_parts, List.mem_append] at member
      cases member with
      | inl among =>
          have stored := (range.perm _).mem_iff.mp (List.mem_filter.mp among).1
          exact share_of_table finished accountID share stored
      | inr own =>
          split_ifs at own
          · cases own
          · cases List.mem_singleton.mp own
            rfl
    obtain ⟨tokens, spent⟩ := usage_share finished accountID
    obtain ⟨input, output, positive⟩ := own_nonneg _ (own_billed finished billed accountID)
    rw [known, tokens, spent]
    exact ⟨rfl, rfl, Int.add_nonneg input output, positive⟩
  · intro round member
    have stored := (range.perm _).mem_iff.mpr (round_share finished round member)
    rw [recorded_parts, List.map_append, List.mem_append]
    by_cases same : round.1 = idOf last
    · right
      rw [if_neg fun empty => named round member (same.trans empty)]
      exact List.mem_singleton.mpr same
    · left
      have other : (round.1 != idOf last) = true := bne_iff_ne.mpr same
      exact List.mem_map.mpr ⟨_, List.mem_filter.mpr ⟨stored, other⟩, rfl⟩
  · rw [recorded_parts, List.map_append]
    have visited : ((otherShares range last (usageOf finished)).map Prod.fst).Nodup := by
      have all : ((range.visit (usageOf finished).perAccount.entries).map Prod.fst).Nodup :=
        ((range.perm _).map Prod.fst).nodup_iff.mpr (usageOf finished).perAccount.distinct
      exact (List.filter_sublist.map Prod.fst).nodup all
    split_ifs with empty
    · rw [List.map_nil, List.append_nil]
      exact visited
    · rw [List.map_singleton, ← List.concat_eq_append, List.nodup_concat]
      refine ⟨?_, visited⟩
      intro member
      obtain ⟨entry, among, same⟩ := List.mem_map.mp member
      have other := (List.mem_filter.mp among).2
      rw [same, bne_self_eq_false] at other
      cases other
  · have split := shares_sum (fun share : WebSearchAccountUsage Credit => share.tokens)
      (fun round => round.inputTokens + round.outputTokens) rfl (fun _ _ => rfl) finished
    rw [recorded_sum range request last success status message (fun share => share.tokens) rfl
      finished named, split]
    exact List.sum_map_add
  · exact recorded_counts range request last success status message (usageOf finished)

/-- Bookings that neither log a request nor count usage. -/
def Silent (bookings : List (LoopBooking Credit)) : Prop :=
  ∀ booking ∈ bookings, requestOf booking = none ∧ partOf booking = none ∧
    outcomeOf booking = none

omit [CreditAmount Credit] in
theorem silent_parts (bookings : List (LoopBooking Credit)) (silent : Silent bookings) :
    bookings.filterMap requestOf = [] ∧ bookings.filterMap partOf = [] ∧
      bookings.filterMap outcomeOf = [] := by
  refine ⟨?_, ?_, ?_⟩
  · exact List.filterMap_eq_nil_iff.mpr fun booking member => (silent booking member).1
  · exact List.filterMap_eq_nil_iff.mpr fun booking member => (silent booking member).2.1
  · exact List.filterMap_eq_nil_iff.mpr fun booking member => (silent booking member).2.2

theorem accounted_between (finished : Finished Credit) (before between behind : List _)
    (accounted : Accounted finished last between) (first : Silent before) (rest : Silent behind) :
    Accounted finished last (before ++ between ++ behind) := by
  obtain ⟨noRequest, noPart, noOutcome⟩ := silent_parts before first
  obtain ⟨noRequest', noPart', noOutcome'⟩ := silent_parts behind rest
  have parts : (before ++ between ++ behind).filterMap partOf = between.filterMap partOf := by
    rw [List.filterMap_append, List.filterMap_append, noPart, noPart', List.nil_append,
      List.append_nil]
  constructor
  · obtain ⟨record, logged, sums⟩ := accounted.logged
    refine ⟨record, ?_, sums⟩
    rw [List.filterMap_append, List.filterMap_append, noRequest, noRequest', List.nil_append,
      List.append_nil, logged]
  · rw [parts]
    exact accounted.shares
  · rw [parts]
    exact accounted.complete
  · rw [parts]
    exact accounted.once
  · rw [parts]
    exact accounted.tokens
  · rw [List.filterMap_append, List.filterMap_append, noOutcome, noOutcome', List.nil_append,
      List.append_nil, accounted.counts]

end Records

end KiroProxy.ClaudeWebSearch
