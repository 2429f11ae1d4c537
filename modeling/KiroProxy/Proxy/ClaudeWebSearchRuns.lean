import KiroProxy.Proxy.ClaudeWebSearchUsage

/-!
# Runs of the web search loop

What one round of `runClaudeWebSearchLoop` can do, and the budget and the books of every run.
-/

namespace KiroProxy.ClaudeWebSearch

open ApiKeys (CreditAmount)
open EventStream
open Foundation.Binary64 (Float64 nearest)
open Foundation.Rounds
open Foundation.Tables (MapRange)
open GoStrings KiroTypes RequestHandling
open UsageAccounting (ApiKeyUsageReservation)
open WebSearch

set_option autoImplicit false

section Searches

variable (print : Json → GoString) (search : Nat → GoString → SearchAnswer) (maxUses : Nat)

/-- Every call has one outcome, and each search that is performed is counted. -/
theorem searches_ran (toolUses : List KiroToolUse) (used : Nat) :
    let ran := runWebSearches print search maxUses used toolUses
    ran.outcomes.length = toolUses.length ∧ ran.used = used + ran.performed.length ∧
      (used ≤ maxUses → ran.used ≤ maxUses) := by
  induction toolUses generalizing used with
  | nil => exact ⟨rfl, rfl, id⟩
  | cons toolUse rest ih =>
      rw [runWebSearches]
      simp only
      split_ifs with blank spent
      · obtain ⟨outcomes, counted, bounded⟩ := ih used
        exact ⟨congrArg (· + 1) outcomes, counted, bounded⟩
      · obtain ⟨outcomes, counted, bounded⟩ := ih used
        exact ⟨congrArg (· + 1) outcomes, counted, bounded⟩
      · obtain ⟨outcomes, counted, bounded⟩ := ih (used + 1)
        refine ⟨congrArg (· + 1) outcomes, ?_, fun _ => bounded (by omega)⟩
        rw [counted, List.length_cons]
        omega

theorem zip_first (toolUses : List KiroToolUse) (outcomes : List WebSearchOutcome)
    (all : outcomes.length = toolUses.length) :
    (toolUses.zip outcomes).map Prod.fst = toolUses :=
  List.map_fst_zip (Nat.le_of_eq all.symm)

theorem calls_ran (toolUses : List KiroToolUse) (used : Nat) :
    let calls := finalCalls print search maxUses used toolUses
    calls.answered.map Prod.fst = toolUses.filter isSearchUse ∧
      calls.used = used + calls.performed.length ∧ (used ≤ maxUses → calls.used ≤ maxUses) := by
  induction toolUses generalizing used with
  | nil => exact ⟨rfl, rfl, id⟩
  | cons toolUse rest ih =>
      rw [finalCalls, List.filter_cons]
      split_ifs with search_
      · obtain ⟨outcomes, counted, bounded⟩ :=
          searches_ran print search maxUses [toolUse] used
        obtain ⟨answered, countedRest, boundedRest⟩ :=
          ih (runWebSearches print search maxUses used [toolUse]).used
        obtain ⟨outcome, single⟩ := List.length_eq_one_iff.mp outcomes
        refine ⟨?_, ?_, fun within => boundedRest (bounded within)⟩
        · simp only
          rw [single, List.map_append, answered]
          rfl
        · simp only
          rw [countedRest, counted, List.length_append, Nat.add_assoc]
      · exact ih used

end Searches

section Loop

variable {Credit : Type} [CreditAmount Credit]

/-- The account that a round tried last. -/
def triedOf (record : LoopRecord Credit) : Option PickedAccount :=
  match record.answer with
  | .finished account _ => some account
  | .failed tried _ => tried

def lastTried (records : List (LoopRecord Credit)) : Option PickedAccount :=
  records.foldl (fun last record => (triedOf record).or last) none

def finishedRecord (record : LoopRecord Credit) :
    Option (GoString × ClaudeWebSearchRound Credit) :=
  match record.answer with
  | .finished account _ => record.round.map fun round => (account.id, round)
  | .failed _ _ => none

def finishedOf (records : List (LoopRecord Credit)) : Finished Credit :=
  records.filterMap finishedRecord

/-- A round answers its search calls in order, is billed nothing negative to an account with
an id, and books no request by itself. -/
structure RoundKept (record : LoopRecord Credit) : Prop where
  answered : ∀ round, record.round = some round →
    record.answered.map Prod.fst = round.toolUses.filter isSearchUse
  billed : ∀ round, finishedRecord record = some round → round.1 ≠ [] ∧
    0 ≤ round.2.inputTokens ∧ 0 ≤ round.2.outputTokens ∧ (0 : Credit) ≤ round.2.credits
  silent : Silent record.bookings

/-- The locals behind a round. -/
structure Advanced (maxUses : Nat) (locals : LoopLocals Credit) (record : LoopRecord Credit)
    (next : LoopLocals Credit) : Prop where
  usage : next.usage = (finishedRecord record).toList.foldl addRound locals.usage
  account : next.lastAccount = (triedOf record).or locals.lastAccount
  searches : next.searches = locals.searches + record.performed.length
  bounded : locals.searches ≤ maxUses → next.searches ≤ maxUses

variable (options : HandlerOptions Credit) (display : ThinkingDisplay)
  (print : Json → GoString) (search : Nat → GoString → SearchAnswer) (maxUses : Nat)
  (estimate : List (AppendedRound Credit) → Nat)
  (noAccountError : Nat × GoString × GoString)
  (range : MapRange (GoString × WebSearchAccountUsage Credit)) (request : LoopRequest Credit)
  (call : Nat → List (AppendedRound Credit) → Nat → RoundAnswer Credit) (ctxDone : Nat → Bool)

/-- The end of a loop records it once, from the locals of its last round. -/
def Records (locals : LoopLocals Credit) (final : LoopEnd Credit) : Prop :=
  ∃ before behind success status message,
    final.bookings = before ++ recordWebSearchLoop range request locals.lastAccount locals.usage
      success status message ++ behind ∧ Silent before ∧ Silent behind

inductive LoopRoundEnds (index : Nat) (next : LoopLocals Credit) :
    RoundEnd (LoopLocals Credit) (LoopEnd Credit) → Prop where
  | again (early : index ≤ maxUses) (following : LoopLocals Credit)
      (usage : following.usage = next.usage) (account : following.lastAccount = next.lastAccount)
      (searches : following.searches = next.searches) :
      LoopRoundEnds index next (.again following)
  | stop (final : LoopEnd Credit) (records : Records range request next final) :
      LoopRoundEnds index next (.stop final)

omit [CreditAmount Credit] in
theorem settled_silent (operation : ApiKeyUsageReservation Credit → Booking Credit)
    (reservation : Option (ApiKeyUsageReservation Credit))
    (quiet : ∀ reservation, Silent [.booked (operation reservation)]) :
    Silent ((settle operation reservation).2.map LoopBooking.booked) := by
  unfold settle
  cases reservation with
  | none =>
      intro booking member
      cases member
  | some reservation =>
      simp only
      split_ifs
      · intro booking member
        cases member
      · exact quiet reservation

omit [CreditAmount Credit] in
theorem release_silent (reservation : ApiKeyUsageReservation Credit) :
    Silent [.booked (releaseBooking reservation)] := by
  intro booking member
  rw [List.mem_singleton.mp member]
  exact ⟨rfl, rfl, rfl⟩

omit [CreditAmount Credit] in
theorem finalize_silent (tokens : Int) (credits : Credit)
    (reservation : ApiKeyUsageReservation Credit) :
    Silent [.booked (finalizeBooking tokens credits reservation)] := by
  intro booking member
  rw [List.mem_singleton.mp member]
  exact ⟨rfl, rfl, rfl⟩

theorem end_records (locals : LoopLocals Credit) (status : Nat) (message : GoString)
    (reply : LoopReply) :
    Records range request locals (endLoop range request locals status message reply) := by
  refine ⟨[], _, false, status, message, rfl, ?_,
    settled_silent _ _ release_silent⟩
  intro booking member
  cases member

theorem answer_records (locals : LoopLocals Credit) (reply : LoopReply) :
    Records range request locals (answerLoop range request locals reply) :=
  ⟨_, _, true, 200, [], rfl, settled_silent _ _ (finalize_silent _ _),
    settled_silent _ _ release_silent⟩

omit [CreditAmount Credit] in
theorem success_silent (accountID : GoString) :
    Silent [(.booked (.recordSuccess accountID) : LoopBooking Credit)] := by
  intro booking member
  rw [List.mem_singleton.mp member]
  exact ⟨rfl, rfl, rfl⟩

theorem finished_round_cases (index : Nat) (locals : LoopLocals Credit) (account : PickedAccount)
    (upstream : UpstreamRuns Credit) (round : ClaudeWebSearchRound Credit)
    (nonneg : 0 ≤ round.inputTokens ∧ 0 ≤ round.outputTokens ∧ (0 : Credit) ≤ round.credits)
    (record : LoopRecord Credit) (ended : RoundEnd (LoopLocals Credit) (LoopEnd Credit))
    (ran : finishedRound options display print search maxUses estimate range request ctxDone index
      locals account upstream round = (record, ended)) :
    RoundKept record ∧ ∃ next, Advanced maxUses locals record next ∧
      LoopRoundEnds maxUses range request index next ended := by
  -- What a record of this round keeps, whichever calls it answered.
  have kept (answered : List (KiroToolUse × WebSearchOutcome)) (performed : List GoString)
      (all : answered.map Prod.fst = round.toolUses.filter isSearchUse) :
      RoundKept ⟨.finished account upstream, some round, answered, performed,
        [.booked (.recordSuccess account.id)]⟩ := by
    refine ⟨?_, ?_, success_silent account.id⟩
    · intro other same
      cases same
      exact all
    · intro other same
      cases same
      exact ⟨account.named, nonneg⟩
  unfold finishedRound at ran
  simp only at ran
  split_ifs at ran with searching gone gone
  · obtain ⟨outcomes, counted, bounded⟩ := searches_ran print search maxUses
      (round.toolUses.filter isSearchUse) locals.searches
    cases ran
    exact ⟨kept _ _ (zip_first _ _ outcomes), _, ⟨rfl, rfl, counted, bounded⟩,
      .stop _ (end_records range request _ 499 _ .nothing)⟩
  · obtain ⟨outcomes, counted, bounded⟩ := searches_ran print search maxUses
      (round.toolUses.filter isSearchUse) locals.searches
    cases ran
    exact ⟨kept _ _ (zip_first _ _ outcomes), _, ⟨rfl, rfl, counted, bounded⟩,
      .again searching.2.2 _ rfl rfl rfl⟩
  · obtain ⟨answered, counted, bounded⟩ := calls_ran print search maxUses round.toolUses
      locals.searches
    cases ran
    exact ⟨kept _ _ answered, _, ⟨rfl, rfl, counted, bounded⟩,
      .stop _ (end_records range request _ 499 _ .nothing)⟩
  · obtain ⟨answered, counted, bounded⟩ := calls_ran print search maxUses round.toolUses
      locals.searches
    cases ran
    exact ⟨kept _ _ answered, _, ⟨rfl, rfl, counted, bounded⟩,
      .stop _ (answer_records range request _ _)⟩

/-- All that a round can do. -/
theorem loop_round_cases (index : Nat) (locals : LoopLocals Credit) (record : LoopRecord Credit)
    (ended : RoundEnd (LoopLocals Credit) (LoopEnd Credit))
    (ran : loopRound options display print search maxUses estimate noAccountError range request
      call ctxDone index locals = (record, ended)) :
    RoundKept record ∧ ∃ next, Advanced maxUses locals record next ∧
      LoopRoundEnds maxUses range request index next ended := by
  unfold loopRound at ran
  cases answer : call index locals.working locals.estimatedInputTokens with
  | finished account upstream =>
      simp only [answer] at ran
      exact finished_round_cases options display print search maxUses estimate range request
        ctxDone index locals account upstream _ (round_nonneg options _ upstream) record ended ran
  | failed tried err =>
      simp only [answer] at ran
      have kept : RoundKept (⟨.failed tried err, none, [], [], []⟩ : LoopRecord Credit) := by
        refine ⟨?_, ?_, ?_⟩
        · intro round same
          cases same
        · intro round same
          cases same
        · intro booking member
          cases member
      have advanced : Advanced maxUses locals
          (⟨.failed tried err, none, [], [], []⟩ : LoopRecord Credit)
          { locals with lastAccount := tried.or locals.lastAccount } := ⟨rfl, rfl, rfl, id⟩
      cases err with
      | canceled =>
          cases ran
          exact ⟨kept, _, advanced, .stop _ (end_records range request _ 499 _ .nothing)⟩
      | noAccounts =>
          cases ran
          exact ⟨kept, _, advanced, .stop _ (end_records range request _ _ _ _)⟩
      | other message =>
          cases ran
          exact ⟨kept, _, advanced, .stop _ (end_records range request _ 500 _ _)⟩

/-- What holds of the rounds so far and the locals. -/
structure LoopTracked (records : List (LoopRecord Credit)) (locals : LoopLocals Credit) : Prop where
  kept : ∀ record ∈ records, RoundKept record
  usage : locals.usage = usageOf (finishedOf records)
  account : locals.lastAccount = lastTried records
  searches : locals.searches = (records.flatMap LoopRecord.performed).length
  bounded : locals.searches ≤ maxUses

/-- What holds of all rounds when the loop is over. -/
structure LoopEnds (records : List (LoopRecord Credit)) (final : LoopEnd Credit) : Prop where
  kept : ∀ record ∈ records, RoundKept record
  bounded : (records.flatMap LoopRecord.performed).length ≤ maxUses
  recorded : ∃ locals, locals.usage = usageOf (finishedOf records) ∧
    locals.lastAccount = lastTried records ∧ Records range request locals final

theorem advanced_tracked (records : List (LoopRecord Credit)) (locals : LoopLocals Credit)
    (tracked : LoopTracked maxUses records locals) (record : LoopRecord Credit)
    (kept : RoundKept record) (next : LoopLocals Credit)
    (advanced : Advanced maxUses locals record next) :
    LoopTracked maxUses (records ++ [record]) next where
  kept := by
    intro other member
    cases List.mem_append.mp member with
    | inl inside => exact tracked.kept other inside
    | inr last =>
        rw [List.mem_singleton.mp last]
        exact kept
  usage := by
    have split : finishedOf (records ++ [record]) =
        finishedOf records ++ (finishedRecord record).toList := by
      unfold finishedOf
      rw [List.filterMap_append]
      cases finished : finishedRecord record <;> simp [finished]
    rw [advanced.usage, tracked.usage, split, usageOf, usageOf, List.foldl_append]
  account := by
    rw [advanced.account, tracked.account, lastTried, lastTried, List.foldl_concat]
  searches := by
    rw [advanced.searches, tracked.searches, List.flatMap_append, List.length_append,
      List.flatMap_singleton]
  bounded := advanced.bounded tracked.bounded

theorem loop_stops (locals : LoopLocals Credit) :
    ∃ final, (loopRound options display print search maxUses estimate noAccountError range request
      call ctxDone (maxUses + 1) locals).2 = .stop final := by
  cases ran : loopRound options display print search maxUses estimate noAccountError range request
      call ctxDone (maxUses + 1) locals with
  | mk record ended =>
      obtain ⟨_, next, _, ends⟩ := loop_round_cases options display print search maxUses estimate
        noAccountError range request call ctxDone _ _ _ _ ran
      cases ends with
      | again early => omega
      | stop final => exact ⟨final, rfl⟩

omit [CreditAmount Credit] in
theorem silent_append (before behind : List (LoopBooking Credit)) (first : Silent before)
    (rest : Silent behind) : Silent (before ++ behind) := by
  intro booking member
  cases List.mem_append.mp member with
  | inl inside => exact first booking inside
  | inr inside => exact rest booking inside

/-- The finished rounds are billed to accounts with an id. -/
theorem finished_billed (records : List (LoopRecord Credit))
    (kept : ∀ record ∈ records, RoundKept record) :
    Billed (finishedOf records) ∧ ∀ round ∈ finishedOf records, round.1 ≠ [] := by
  have each : ∀ round ∈ finishedOf records, round.1 ≠ [] ∧ 0 ≤ round.2.inputTokens ∧
      0 ≤ round.2.outputTokens ∧ (0 : Credit) ≤ round.2.credits := by
    intro round member
    obtain ⟨record, among, finished⟩ := List.mem_filterMap.mp member
    exact (kept record among).billed round finished
  exact ⟨fun round member => (each round member).2, fun round member => (each round member).1⟩

/-- The budget and the books of every run of the loop. -/
theorem web_search_loop_accounts (estimatedInputTokens : Nat) :
    let run := runClaudeWebSearchLoop options display print search maxUses estimate noAccountError
      range request call ctxDone estimatedInputTokens
    run.reply.isSome = true ∧ (finishedOf run.rounds).length ≤ maxUses + 2 ∧
      (run.rounds.flatMap LoopRecord.performed).length ≤ maxUses ∧
      (∀ record ∈ run.rounds, ∀ round, record.round = some round →
        record.answered.map Prod.fst = round.toolUses.filter isSearchUse) ∧
      Accounted (finishedOf run.rounds) (lastTried run.rounds) run.bookings := by
  have few := rounds_bounded (loopRound options display print search maxUses estimate
    noAccountError range request call ctxDone) (maxUses + 2) 0
    ⟨[], estimatedInputTokens, [], 0, .start, none⟩
  obtain ⟨final, finished⟩ := rounds_stop _ (maxUses + 1) (loop_stops options display print search
    maxUses estimate noAccountError range request call ctxDone) (maxUses + 2) 0
    ⟨[], estimatedInputTokens, [], 0, .start, none⟩ (Nat.zero_le _) (by omega)
  have start : LoopTracked maxUses ([] : List (LoopRecord Credit))
      ⟨[], estimatedInputTokens, [], 0, .start, none⟩ := by
    refine ⟨?_, rfl, rfl, rfl, Nat.zero_le _⟩
    intro record member
    cases member
  have ends := rounds_track _ (LoopTracked maxUses) (LoopEnds maxUses range request)
    (fun before locals record next tracked ran => by
      obtain ⟨kept, middle, advanced, ends⟩ := loop_round_cases options display print search maxUses
        estimate noAccountError range request call ctxDone _ _ _ _ ran
      have following := advanced_tracked maxUses before locals tracked record kept middle advanced
      cases ends with
      | again early _ usage account searches =>
          exact ⟨following.kept, usage.trans following.usage, account.trans following.account,
            searches.trans following.searches, searches ▸ following.bounded⟩)
    (fun before locals record result tracked ran => by
      obtain ⟨kept, middle, advanced, ends⟩ := loop_round_cases options display print search maxUses
        estimate noAccountError range request call ctxDone _ _ _ _ ran
      have following := advanced_tracked maxUses before locals tracked record kept middle advanced
      cases ends with
      | stop _ records =>
          exact ⟨following.kept, following.searches ▸ following.bounded,
            middle, following.usage, following.account, records⟩)
    (maxUses + 2) [] _ start final finished
  rw [List.nil_append, List.length_nil] at ends
  unfold runClaudeWebSearchLoop
  simp only
  rw [finished]
  obtain ⟨locals, usage, account, before, behind, success, status, message, bookings, quietBefore,
    quietBehind⟩ := ends.recorded
  refine ⟨rfl, (List.length_filterMap_le _ _).trans few, ends.bounded,
    fun record member => (ends.kept record member).answered, ?_⟩
  have silent : Silent ((rounds (loopRound options display print search maxUses estimate
      noAccountError range request call ctxDone) (maxUses + 2) 0
      ⟨[], estimatedInputTokens, [], 0, .start, none⟩).1.flatMap LoopRecord.bookings) := by
    intro booking member
    obtain ⟨record, among, inside⟩ := List.mem_flatMap.mp member
    exact (ends.kept record among).silent booking inside
  obtain ⟨billed, named⟩ := finished_billed _ ends.kept
  have recorded := recorded_accounted range request locals.lastAccount success status message
    _ billed named
  have between := accounted_between _ _ _ _ behind recorded
    (silent_append _ _ silent quietBefore) quietBehind
  rw [Option.map_some, Option.getD_some, bookings, usage, ← account, ← List.append_assoc,
    ← List.append_assoc]
  exact between

end Loop

section Rounding

def tenths : Float64 := nearest (7205759403792794 <<< 1018)

def roundOf (account : GoString) (named : account ≠ []) (credits : Float64)
    (nonneg : 0 ≤ credits) (searches : Bool) : RoundAnswer Float64 :=
  .finished ⟨account, [], named⟩
    { runs := [.credits credits] ++
        if searches then [.toolUse ⟨lit "t", webSearchToolName, []⟩] else []
      nonneg := by
        intro other member
        cases searches <;> simp at member <;> exact member ▸ nonneg }

/-- Account a answers for a tenth, b for a tenth, and a again for four tenths. -/
def tenthsRun : LoopRun Float64 :=
  runClaudeWebSearchLoop ⟨asciiLetters, fun _ => 0, fun _ => 0, false, 0, 0⟩ .omitted
    (fun _ => []) (fun _ _ => ⟨[], none⟩) 5 (fun _ => 0) (503, [], []) (.asStored _)
    ⟨lit "m", none⟩
    (fun index _ _ =>
      if index = 0 then roundOf (lit "a") (by decide) tenths (by decide +kernel) true
      else if index = 1 then roundOf (lit "b") (by decide) tenths (by decide +kernel) true
      else roundOf (lit "a") (by decide) (nearest (7205759403792794 <<< 1020))
        (by decide +kernel) false)
    (fun _ => false) 0

/-- The log holds 0.6000000000000001 credits; the shares of the accounts are 0.5 and 0.1. -/
theorem shares_rounded :
    let logged := tenthsRun.bookings.filterMap requestOf
    let parts := tenthsRun.bookings.filterMap partOf
    (logged.map fun record => record.credits) ≠
        [parts.foldl (fun sum entry => sum + entry.2.credits) 0] ∧
      (logged.map fun record => record.credits.units) ≠
        [(parts.map fun entry => entry.2.credits.units).sum] := by
  decide +kernel

end Rounding

end KiroProxy.ClaudeWebSearch
