import KiroProxy.Proxy.AutoContinue

/-!
# Runs of a continued answer

What one hop of `runAutoContinue` can do, and from it what holds of every sequence of hops:
the totals, the stop reason, the errors that are returned and what a hop is asked for.
-/

namespace KiroProxy.AutoContinue

open ApiKeys EventStream FollowupPayloads Foundation.Emissions Foundation.Emissions.Emission
open Foundation.Rounds GoStrings ThinkingSplitter TokenEstimator

set_option autoImplicit false

namespace ContinuationHop

variable {Credit : Type}

/-- Steps that leave the reports alone and put out parts of the answer only. -/
def Unheard (before : ContinuationHop Credit) (outputs : List (CallbackRun Credit))
    (after : ContinuationHop Credit) : Prop :=
  after.reports = before.reports ∧ ∀ run ∈ outputs, streams run = true

theorem unheard_nil {before after : ContinuationHop Credit}
    (same : after.reports = before.reports) : Unheard before [] after := by
  refine ⟨same, ?_⟩
  intro run member
  cases member

theorem unheard_one {before after : ContinuationHop Credit} (run : CallbackRun Credit)
    (same : after.reports = before.reports) (part : streams run = true) :
    Unheard before [run] after := by
  refine ⟨same, ?_⟩
  intro other member
  rw [List.mem_singleton.mp member]
  exact part

theorem unheard_then (before : ContinuationHop Credit) (earlier : List (CallbackRun Credit))
    (middle : ContinuationHop Credit) (later : List (CallbackRun Credit))
    (after : ContinuationHop Credit) (first : Unheard before earlier middle)
    (rest : Unheard middle later after) : Unheard before (earlier ++ later) after := by
  refine ⟨rest.1.trans first.1, ?_⟩
  intro run member
  cases List.mem_append.mp member with
  | inl inside => exact first.2 run inside
  | inr inside => exact rest.2 run inside

theorem release_unheard (hop : ContinuationHop Credit) :
    Unheard hop hop.releaseHeld.outputs hop.releaseHeld.state := by
  unfold releaseHeld
  simp only
  split_ifs
  · exact unheard_nil rfl
  · exact unheard_nil rfl
  · exact unheard_one _ rfl rfl

theorem sink_unheard (hop : ContinuationHop Credit) (split : Split UInt8) :
    Unheard hop (hop.sinkAnswer split).outputs (hop.sinkAnswer split).state := by
  unfold sinkAnswer forwardAnswer
  simp only
  split_ifs
  · exact unheard_nil rfl
  · exact unheard_nil rfl
  · exact release_unheard { hop with held := hop.held ++ split.text }
  · exact unheard_one _ rfl rfl
  · exact unheard_nil rfl

theorem sinks_unheard (hop : ContinuationHop Credit)
    (splitter : ThinkingTagSplitter UInt8 × List (Split UInt8)) :
    Unheard hop (hop.sinkAll splitter).outputs (hop.sinkAll splitter).state := by
  have along := emit_all_along Unheard (fun state => unheard_nil rfl) unheard_then sinkAnswer
    sink_unheard splitter.2 { hop with splitter := splitter.1 }
  exact along

theorem flush_unheard (hop : ContinuationHop Credit) :
    Unheard hop hop.flush.outputs hop.flush.state := by
  unfold flush
  apply then_along Unheard unheard_then
  · exact sinks_unheard hop _
  · intro middle
    split_ifs
    · exact release_unheard middle
    · exact unheard_nil rfl

theorem text_unheard (hop : ContinuationHop Credit) (text : GoString) (isThinking : Bool) :
    Unheard hop (hop.onText text isThinking).outputs (hop.onText text isThinking).state := by
  unfold onText
  split_ifs
  · exact unheard_nil rfl
  · exact unheard_one _ rfl rfl
  · exact sinks_unheard hop _
  · apply then_along Unheard unheard_then
    · exact sinks_unheard hop _
    · intro middle
      exact unheard_one _ rfl rfl

theorem call_unheard (hop : ContinuationHop Credit) (toolUse : KiroTypes.KiroToolUse) :
    Unheard { hop with toolCount := hop.toolCount + 1 } (hop.onToolUse toolUse).outputs
      (hop.onToolUse toolUse).state := by
  unfold onToolUse
  simp only
  apply then_along Unheard unheard_then
  · split_ifs
    · exact flush_unheard { hop with toolCount := hop.toolCount + 1 }
    · exact unheard_nil rfl
  · intro middle
    exact unheard_one _ rfl rfl

variable [CreditAmount Credit]

theorem callback_hears (hop : ContinuationHop Credit) (event : CallEvent Credit) :
    (hop.callback event).state.reports = hop.reports.hear event ∧
      ∀ run ∈ (hop.callback event).outputs, streams run = true := by
  cases event with
  | followupPayload payload => exact unheard_nil rfl
  | callback call =>
      cases call with
      | text text isThinking => exact text_unheard hop text isThinking
      | toolUse toolUse => exact call_unheard hop toolUse
      | stopReason reason => exact @unheard_nil _ { hop with stopReason := reason } _ rfl
      | credits credits => exact @unheard_nil _ { hop with credits := hop.credits + credits } _ rfl
      | contextUsage percentage => exact unheard_one _ rfl rfl
      | cacheUsage read write => exact unheard_nil rfl
      | complete inputTokens outputTokens => exact unheard_nil rfl

theorem events_hear (events : List (CallEvent Credit)) (hop : ContinuationHop Credit) :
    (emitAll callback hop events).state.reports = events.foldl HopReports.hear hop.reports ∧
      ∀ run ∈ (emitAll callback hop events).outputs, streams run = true := by
  induction events generalizing hop with
  | nil => exact unheard_nil rfl
  | cons event events ih =>
      obtain ⟨heard, parts⟩ := callback_hears hop event
      obtain ⟨rest, others⟩ := ih (hop.callback event).state
      rw [emitAll, then_state, then_outputs, List.foldl_cons, ← heard]
      refine ⟨rest, ?_⟩
      intro run member
      cases List.mem_append.mp member with
      | inl inside => exact parts run inside
      | inr inside => exact others run inside

theorem run_hears (events : List (CallEvent Credit)) (index : Nat) (answer : GoString) :
    ((startHop index answer : ContinuationHop Credit).run events).state.reports = heard events ∧
      ∀ run ∈ ((startHop index answer : ContinuationHop Credit).run events).outputs,
        streams run = true := by
  obtain ⟨reports, parts⟩ := events_hear events (startHop index answer)
  have flushed := flush_unheard
    (emitAll callback (startHop index answer : ContinuationHop Credit) events).state
  unfold run
  rw [then_state, then_outputs]
  refine ⟨flushed.1.trans reports, ?_⟩
  intro run member
  cases List.mem_append.mp member with
  | inl inside => exact parts run inside
  | inr inside => exact flushed.2 run inside

end ContinuationHop

section Rounds

variable {Credit Error : Type} [CreditAmount Credit] (letters : Letters)
  (weigh : RuneClasses → Int) (enabled : Bool) (orders : Nat → MapOrders)
  (isContextCanceledError : Error → Bool)
  (call : Nat → KiroPayload → HopOutcome Credit Error) (payload : KiroPayload)
  (maxContinuations : Int)

/-- Why an error is returned: it is the first hop's, it is that of a later hop which is a
cancellation or failed with the request context done, or it is the context's own. -/
def ReturnedFor (first : Bool) (outcome : HopOutcome Credit Error) (err : Error) : Prop :=
  (outcome.error = some err ∧
      (first = true ∨ isContextCanceledError err = true ∨ outcome.ctxErr.isSome = true)) ∨
    (outcome.error = none ∧ outcome.nextCtxErr = some err)

/-- The ways a hop ends, from the locals before it and the hop as its flush left it. -/
inductive HopEnds (index : Nat) (outcome : HopOutcome Credit Error) (locals : Continued Credit)
    (hop : ContinuationHop Credit) :
    RoundEnd (Continued Credit) (Except Error (Continued Credit)) → Prop where
  | returned (err : Error)
      (cause : ReturnedFor isContextCanceledError (decide (index = 0)) outcome err) :
      HopEnds index outcome locals hop (.stop (.error err))
  | failed (err : Error) (error : outcome.error = some err) (later : index ≠ 0) :
      HopEnds index outcome locals hop (.stop (.ok (addHop locals hop)))
  | answered (clean : outcome.error = none) :
      HopEnds index outcome locals hop (.stop (.ok (rebase (addHop locals hop) hop)))
  | continues (budget : Int) (clean : outcome.error = none)
      (remaining : remainingOutputBudget weigh payload (addHop locals hop).totalOut
        (addHop locals hop).answer = some budget) :
      HopEnds index outcome locals hop (.again { rebase (addHop locals hop) hop with
        next := buildContinuationPayload enabled (orders index)
          (rebase (addHop locals hop) hop).base (rebase (addHop locals hop) hop).sinceBase budget })

omit [CreditAmount Credit] in
theorem rebase_totals [Add Credit] (locals : Continued Credit) (hop : ContinuationHop Credit) :
    (rebase locals hop).totalOut = locals.totalOut ∧ (rebase locals hop).answer = locals.answer := by
  unfold rebase
  cases hop.followup with
  | none => exact ⟨rfl, rfl⟩
  | some followup => exact ⟨rfl, rfl⟩

theorem next_hop_ends (index : Nat) (outcome : HopOutcome Credit Error)
    (locals : Continued Credit) (hop : ContinuationHop Credit) (openThinking : Bool)
    (clean : outcome.error = none) :
    HopEnds weigh enabled orders isContextCanceledError payload index outcome locals hop
      (nextHop letters weigh enabled orders payload maxContinuations index outcome hop openThinking
        (rebase (addHop locals hop) hop)) := by
  obtain ⟨totalOut, answer⟩ := rebase_totals (addHop locals hop) hop
  unfold nextHop
  split_ifs with over_
  · exact HopEnds.answered clean
  · cases remaining : remainingOutputBudget weigh payload (rebase (addHop locals hop) hop).totalOut
        (rebase (addHop locals hop) hop).answer with
    | none => exact HopEnds.answered clean
    | some budget =>
        rw [totalOut, answer] at remaining
        cases gone : outcome.nextCtxErr with
        | none => exact HopEnds.continues budget clean remaining
        | some err => exact HopEnds.returned err (.inr ⟨clean, gone⟩)

/-- All that a hop can do. -/
theorem hop_round_cases (index : Nat) (locals : Continued Credit)
    (record : HopRecord Credit Error)
    (ended : RoundEnd (Continued Credit) (Except Error (Continued Credit)))
    (ran : hopRound letters weigh enabled orders isContextCanceledError call payload
      maxContinuations index locals = (record, ended)) :
    record.asked = locals.next ∧ record.outcome = call index locals.next ∧
      (∀ run ∈ record.outputs, ContinuationHop.streams run = true) ∧
      ∃ hop : ContinuationHop Credit, hop.reports = heard record.outcome.events ∧
        HopEnds weigh enabled orders isContextCanceledError payload index record.outcome locals hop
          ended := by
  unfold hopRound at ran
  obtain ⟨reports, parts⟩ := ContinuationHop.run_hears (call index locals.next).events index
    locals.answer
  simp only at ran
  cases returned : returnedError isContextCanceledError index (call index locals.next) with
  | some err =>
      simp only [returned] at ran
      cases ran
      refine ⟨rfl, rfl, ?_, _, reports, ?_⟩
      · exact (ContinuationHop.events_hear _ _).2
      · apply HopEnds.returned
        left
        unfold returnedError at returned
        cases failed : (call index locals.next).error with
        | none =>
            rw [failed] at returned
            cases returned
        | some error =>
            simp only [failed] at returned
            split_ifs at returned with cause
            cases returned
            refine ⟨rfl, ?_⟩
            rw [decide_eq_true_eq]
            exact cause
  | none =>
      simp only [returned] at ran
      cases ran
      refine ⟨rfl, rfl, parts, _, reports, ?_⟩
      unfold returnedError at returned
      cases failed : (call index locals.next).error with
      | none => 
          apply next_hop_ends
          exact failed
      | some error =>
          simp only [failed] at returned
          split_ifs at returned with cause
          rw [not_or] at cause
          exact HopEnds.failed error failed cause.1

/-- What the hops reported of one count. -/
def sumOf (count : HopReports Credit → Int) (hops : List (HopRecord Credit Error)) : Int :=
  (hops.map fun hop => count (heard hop.outcome.events)).sum

def creditsOf (hops : List (HopRecord Credit Error)) : Credit :=
  hops.foldl (fun total hop => total + (heard hop.outcome.events).credits) 0

theorem sum_of_concat (count : HopReports Credit → Int) (hops : List (HopRecord Credit Error))
    (hop : HopRecord Credit Error) :
    sumOf count (hops ++ [hop]) = sumOf count hops + count (heard hop.outcome.events) := by
  simp [sumOf]

/-- The totals of the loop are those of its hops. -/
structure Totals (hops : List (HopRecord Credit Error)) (locals : Continued Credit) : Prop where
  totalIn : locals.totalIn = sumOf HopReports.inputTokens hops
  totalOut : locals.totalOut = sumOf HopReports.outputTokens hops
  totalCredits : locals.totalCredits = creditsOf hops
  totalCacheRead : locals.totalCacheRead = sumOf HopReports.cacheRead hops
  totalCacheWrite : locals.totalCacheWrite = sumOf HopReports.cacheWrite hops

theorem add_hop_totals (hops : List (HopRecord Credit Error)) (locals : Continued Credit)
    (totals : Totals hops locals) (record : HopRecord Credit Error) (hop : ContinuationHop Credit)
    (reports : hop.reports = heard record.outcome.events) :
    Totals (hops ++ [record]) (addHop locals hop) := by
  constructor
  · rw [sum_of_concat, ← totals.totalIn, ← reports]
    rfl
  · rw [sum_of_concat, ← totals.totalOut, ← reports]
    rfl
  · rw [creditsOf, List.foldl_concat, ← reports]
    exact congrArg (· + hop.credits) totals.totalCredits
  · rw [sum_of_concat, ← totals.totalCacheRead, ← reports]
    rfl
  · rw [sum_of_concat, ← totals.totalCacheWrite, ← reports]
    rfl

theorem rebase_keeps_totals (hops : List (HopRecord Credit Error)) (locals : Continued Credit)
    (hop : ContinuationHop Credit) (totals : Totals hops locals) :
    Totals hops (rebase locals hop) := by
  unfold rebase
  cases hop.followup with
  | none => exact ⟨totals.1, totals.2, totals.3, totals.4, totals.5⟩
  | some followup => exact ⟨totals.1, totals.2, totals.3, totals.4, totals.5⟩

/-- No more is asked for than is left of the client's `max_tokens`. -/
def AskedWithin (payload : KiroPayload) (earlier : List (HopRecord Credit Error))
    (asked : KiroPayload) : Prop :=
  ∀ config, payload.inferenceConfig = some config → 0 < config.maxTokens →
    ∃ inference, asked.inferenceConfig = some inference ∧
      inference.maxTokens ≤ config.maxTokens - sumOf HopReports.outputTokens earlier

/-- The upstream call keeps the inference configuration in the payloads it follows up with. -/
def KeepsInference : Prop :=
  ∀ index asked followup, .followupPayload followup ∈ (call index asked).events →
    asked.inferenceConfig.isSome = true → followup.inferenceConfig.isSome = true

omit [CreditAmount Credit] in
theorem budget_within (config : InferenceConfig) (set : payload.inferenceConfig = some config)
    (positive : 0 < config.maxTokens) (used budget : Int) (answer : GoString)
    (remaining : remainingOutputBudget weigh payload used answer = some budget) :
    0 < budget ∧ budget ≤ config.maxTokens - used := by
  have estimated := approx_tokens_nonneg weigh answer
  unfold remainingOutputBudget at remaining
  rw [set] at remaining
  simp only at remaining
  rw [if_neg (by omega)] at remaining
  split_ifs at remaining with reported spent spent
  · cases remaining
    omega
  · cases remaining
    omega

theorem heard_followup (events : List (CallEvent Credit)) (followup : KiroPayload)
    (some_ : (heard events).followup = some followup) :
    .followupPayload followup ∈ events := by
  unfold heard at some_
  induction events using List.reverseRecOn with
  | nil => cases some_
  | append_singleton events event ih =>
      rw [List.foldl_concat] at some_
      rw [List.mem_append]
      cases event with
      | followupPayload payload =>
          right
          cases some_
          exact List.mem_singleton_self _
      | callback run =>
          left
          apply ih
          cases run <;> exact some_

/-- What holds at the top of the loop, of the hops that ran. -/
structure Continues (hops : List (HopRecord Credit Error)) (locals : Continued Credit) :
    Prop where
  totals : Totals hops locals
  clean : ∀ hop ∈ hops, hop.outcome.error = none
  stopped : ∀ earlier last, hops = earlier ++ [last] →
    locals.stopReason = (heard last.outcome.events).stopReason
  parts : ∀ hop ∈ hops, ∀ run ∈ hop.outputs, ContinuationHop.streams run = true
  within : EachRound (fun earlier hop => AskedWithin payload earlier hop.asked) hops
  asks : AskedWithin payload hops locals.next
  based : payload.inferenceConfig.isSome = true → locals.base.inferenceConfig.isSome = true ∧
    locals.next.inferenceConfig.isSome = true

/-- The stop reason of a message: that of its last hop, or the one before a hop that failed. -/
def StopsFor (hops : List (HopRecord Credit Error)) (stopReason : GoString) : Prop :=
  ∃ earlier last, hops = earlier ++ [last] ∧ (∀ hop ∈ earlier, hop.outcome.error = none) ∧
    (last.outcome.error = none → stopReason = (heard last.outcome.events).stopReason) ∧
    (last.outcome.error ≠ none → ∃ before previous, earlier = before ++ [previous] ∧
      stopReason = (heard previous.outcome.events).stopReason)

/-- What holds of the hops and the locals when the loop is over. -/
structure Ends (hops : List (HopRecord Credit Error)) (result : Except Error (Continued Credit)) :
    Prop where
  parts : ∀ hop ∈ hops, ∀ run ∈ hop.outputs, ContinuationHop.streams run = true
  within : EachRound (fun earlier hop => AskedWithin payload earlier hop.asked) hops
  completed : ∀ locals, result = .ok locals →
    Totals hops locals ∧ StopsFor hops locals.stopReason
  returned : ∀ err, result = .error err → ∃ earlier last, hops = earlier ++ [last] ∧
    ReturnedFor isContextCanceledError earlier.isEmpty last.outcome err

theorem start_continues : Continues payload ([] : List (HopRecord Credit Error))
    (startContinued payload) where
  totals := ⟨rfl, rfl, rfl, rfl, rfl⟩
  clean := by
    intro hop member
    cases member
  stopped := by
    intro earlier last split
    exact absurd split.symm (List.append_ne_nil_of_right_ne_nil _ (List.cons_ne_nil _ _))
  parts := by
    intro hop member
    cases member
  within := each_nil _
  asks := by
    intro config set _
    refine ⟨config, set, ?_⟩
    simp [sumOf]
  based := fun set => ⟨set, set⟩

omit [CreditAmount Credit] in
theorem rebase_parts (locals : Continued Credit) (hop : ContinuationHop Credit) :
    (rebase locals hop).stopReason = hop.stopReason ∧
      (rebase locals hop).base = hop.followup.getD locals.base := by
  unfold rebase
  cases hop.followup with
  | none => exact ⟨rfl, rfl⟩
  | some followup => exact ⟨rfl, rfl⟩

/-- A round keeps what the records say of the parts and of what was asked for. -/
theorem record_joins (hops : List (HopRecord Credit Error)) (locals : Continued Credit)
    (continues : Continues payload hops locals) (record : HopRecord Credit Error)
    (asked : record.asked = locals.next)
    (parts : ∀ run ∈ record.outputs, ContinuationHop.streams run = true) :
    (∀ hop ∈ hops ++ [record], ∀ run ∈ hop.outputs, ContinuationHop.streams run = true) ∧
      EachRound (fun earlier hop => AskedWithin payload earlier hop.asked) (hops ++ [record]) := by
  constructor
  · intro hop member
    cases List.mem_append.mp member with
    | inl inside => exact continues.parts hop inside
    | inr last =>
        rw [List.mem_singleton.mp last]
        exact parts
  · apply each_concat _ _ _ continues.within
    rw [asked]
    exact continues.asks

theorem round_continues (keeps : KeepsInference call) (hops : List (HopRecord Credit Error))
    (locals : Continued Credit) (record : HopRecord Credit Error) (next : Continued Credit)
    (continues : Continues payload hops locals)
    (ran : hopRound letters weigh enabled orders isContextCanceledError call payload
      maxContinuations hops.length locals = (record, .again next)) :
    Continues payload (hops ++ [record]) next := by
  obtain ⟨asked, outcome, parts, hop, reports, ends⟩ := hop_round_cases letters weigh enabled
    orders isContextCanceledError call payload maxContinuations _ _ _ _ ran
  obtain ⟨joined, within⟩ := record_joins payload hops locals continues record asked parts
  cases ends with
  | continues budget clean remaining =>
      have totals := rebase_keeps_totals _ _ hop
        (add_hop_totals hops locals continues.totals record hop reports)
      obtain ⟨stops, base⟩ := rebase_parts (addHop locals hop) hop
      have followed : payload.inferenceConfig.isSome = true →
          (rebase (addHop locals hop) hop).base.inferenceConfig.isSome = true := by
        intro set
        rw [base]
        cases some_ : hop.followup with
        | none => exact (continues.based set).1
        | some followup =>
            have among := heard_followup record.outcome.events followup
              ((congrArg HopReports.followup reports).symm.trans some_)
            rw [outcome] at among
            exact keeps _ _ _ among (continues.based set).2
      refine ⟨⟨totals.1, totals.2, totals.3, totals.4, totals.5⟩, ?_, ?_, joined, within, ?_, ?_⟩
      · intro other member
        cases List.mem_append.mp member with
        | inl inside => exact continues.clean other inside
        | inr last =>
            rw [List.mem_singleton.mp last]
            exact clean
      · intro earlier last split
        rw [← (List.append_inj' split rfl).2 |> List.cons.inj |>.1]
        exact stops.trans (congrArg HopReports.stopReason reports)
      · intro config set positive
        obtain ⟨more, bounded⟩ := budget_within weigh payload config set positive _ _ _ remaining
        have here := followed (by rw [set]; rfl)
        obtain ⟨inference, same⟩ := Option.isSome_iff_exists.mp here
        refine ⟨⟨budget⟩, ?_, ?_⟩
        · simp only [buildContinuationPayload]
          rw [if_pos more, same]
          rfl
        · have spent := (add_hop_totals hops locals continues.totals record hop reports).totalOut
          rw [← spent]
          exact bounded
      · intro set
        have here := followed set
        refine ⟨here, ?_⟩
        simp only [buildContinuationPayload]
        split_ifs
        · rw [Option.isSome_map]
          exact here
        · exact here

theorem round_ends (hops : List (HopRecord Credit Error)) (locals : Continued Credit)
    (record : HopRecord Credit Error) (result : Except Error (Continued Credit))
    (continues : Continues payload hops locals)
    (ran : hopRound letters weigh enabled orders isContextCanceledError call payload
      maxContinuations hops.length locals = (record, .stop result)) :
    Ends isContextCanceledError payload (hops ++ [record]) result := by
  obtain ⟨asked, outcome, parts, hop, reports, ends⟩ := hop_round_cases letters weigh enabled
    orders isContextCanceledError call payload maxContinuations _ _ _ _ ran
  obtain ⟨joined, within⟩ := record_joins payload hops locals continues record asked parts
  have totals := add_hop_totals hops locals continues.totals record hop reports
  refine ⟨joined, within, ?_, ?_⟩
  · intro final same
    cases ends with
    | returned err cause => cases same
    | failed err error later =>
        cases same
        refine ⟨totals, hops, record, rfl, continues.clean, ?_, ?_⟩
        · intro clean
          rw [error] at clean
          cases clean
        · intro _
          cases List.eq_nil_or_concat hops with
          | inl none =>
              rw [none] at later
              exact absurd rfl later
          | inr some_ =>
              obtain ⟨before, previous, split⟩ := some_
              rw [List.concat_eq_append] at split
              exact ⟨before, previous, split, continues.stopped before previous split⟩
    | answered clean =>
        cases same
        obtain ⟨stops, _⟩ := rebase_parts (addHop locals hop) hop
        refine ⟨rebase_keeps_totals _ _ hop totals, hops, record, rfl, continues.clean, ?_, ?_⟩
        · intro _
          exact stops.trans (congrArg HopReports.stopReason reports)
        · intro failed
          exact absurd clean failed
  · intro err same
    cases ends with
    | returned other cause =>
        cases same
        refine ⟨hops, record, rfl, ?_⟩
        have first : decide (hops.length = 0) = hops.isEmpty := by
          cases hops with
          | nil => rfl
          | cons hop hops => rfl
        rwa [first] at cause
    | failed other error later => cases same
    | answered clean => cases same

theorem hops_stop (locals : Continued Credit) :
    ∃ result, (hopRound letters weigh enabled orders isContextCanceledError call payload
      maxContinuations maxContinuations.toNat locals).2 = .stop result := by
  have last : maxContinuations ≤ (maxContinuations.toNat : Int) := Int.self_le_toNat _
  unfold hopRound
  simp only
  cases returnedError isContextCanceledError maxContinuations.toNat
      (call maxContinuations.toNat locals.next) with
  | some err => exact ⟨.error err, rfl⟩
  | none =>
      cases (call maxContinuations.toNat locals.next).error with
      | some err => exact ⟨_, rfl⟩
      | none =>
          unfold nextHop
          rw [if_pos (Or.inl last)]
          exact ⟨_, rfl⟩

end Rounds

section Instances

def capPayload : KiroPayload where
  current := ⟨lit "go on", [], [], [], [], none⟩
  history := []
  inferenceConfig := some ⟨100⟩
  toolNameMap := []

/-- A first hop that stops on the output cap, and later ones that answer or fail. -/
def cappedCall (laterErr ctxErr : Option Nat) (index : Nat) (_ : KiroPayload) :
    HopOutcome Int Nat :=
  if index = 0 then
    ⟨[.callback (.text (lit "one") false), .callback (.stopReason (lit "length")),
      .callback (.complete 7 20)], none, none, none⟩
  else
    ⟨[.callback (.text (lit " two") false), .callback (.stopReason (lit "end_turn")),
      .callback (.complete 9 5)], laterErr, ctxErr, none⟩

theorem capped_call_keeps (laterErr ctxErr : Option Nat) :
    KeepsInference (cappedCall laterErr ctxErr) := by
  intro index asked followup member
  unfold cappedCall at member
  split_ifs at member <;> simp at member

def allCallbacks : KiroStreamCallback := ⟨true, true, true, true, true, true, true, []⟩

def cappedRun (laterErr ctxErr : Option Nat) : ContinuedRun Int Nat :=
  runAutoContinue asciiLetters (fun classes => classes.length) true
    (fun _ => ⟨[], fun _ => []⟩) (fun err => err == 0) allCallbacks (cappedCall laterErr ctxErr)
    capPayload 3

end Instances

end KiroProxy.AutoContinue
