import KiroProxy.Proxy.ContinuationRuns
import KiroProxy.Proxy.ContinuationText
import KiroProxy.Proxy.HostedSearch

/-!
# Runs of a call with hosted search

What one round of `callKiroWithHostedSearch` can do, and the answer that any sequence of
rounds and searches makes up.
-/

namespace KiroProxy.HostedSearch

open ApiKeys AutoContinue EventStream FollowupPayloads Foundation.Rounds GoStrings KiroTypes
open ToolHistory WebSearch

set_option autoImplicit false

section Totals

variable {Credit Error : Type} [CreditAmount Credit]

omit [CreditAmount Credit] in
def completedIn : CallbackRun Credit → Int
  | .complete inputTokens _ => inputTokens
  | _ => 0

omit [CreditAmount Credit] in
def completedOut : CallbackRun Credit → Int
  | .complete _ outputTokens => outputTokens
  | _ => 0

omit [CreditAmount Credit] in
def creditRun : CallbackRun Credit → Option Credit
  | .credits credits => some credits
  | _ => none

omit [CreditAmount Credit] in
def cacheReadRun : CallbackRun Credit → Int
  | .cacheUsage read _ => read
  | _ => 0

omit [CreditAmount Credit] in
def cacheWriteRun : CallbackRun Credit → Int
  | .cacheUsage _ write => write
  | _ => 0

/-- What was reported in all, callback by callback. -/
def summed (runs : List (CallbackRun Credit)) : SearchTotals Credit where
  totalIn := (runs.map completedIn).sum
  totalOut := (runs.map completedOut).sum
  totalCredits := (runs.filterMap creditRun).foldl (· + ·) 0
  cacheRead := (runs.map cacheReadRun).sum
  cacheWrite := (runs.map cacheWriteRun).sum

theorem heard_summed (runs : List (CallbackRun Credit)) :
    runs.foldl SearchTotals.hear .start = summed runs := by
  induction runs using List.reverseRecOn with
  | nil => rfl
  | append_singleton runs run ih =>
      rw [List.foldl_concat, ih]
      unfold summed
      cases run <;>
        simp [SearchTotals.hear, completedIn, completedOut, creditRun, cacheReadRun, cacheWriteRun,
          List.filterMap_cons]

end Totals

section Rounds

variable {Credit Error : Type} [CreditAmount Credit] (hosted : List GoString) (letters : Letters)
  (print : Json → GoString) (search : Nat → Nat → GoString → SearchAnswer) (enabled : Bool)
  (orders : Nat → MapOrders) (call : Nat → KiroPayload → RoundOutcome Credit Error)

omit [CreditAmount Credit] in
def runsOf (records : List (RoundRecord Credit Error)) : List (CallbackRun Credit) :=
  records.flatMap fun record => record.outcome.runs

omit [CreditAmount Credit] in
/-- What reached the client while the rounds ran. -/
def passedOf (records : List (RoundRecord Credit Error)) : List (CallbackRun Credit) :=
  (runsOf records).filter passes

omit [CreditAmount Credit] in
theorem runs_of_concat (records : List (RoundRecord Credit Error))
    (record : RoundRecord Credit Error) :
    runsOf (records ++ [record]) = runsOf records ++ record.outcome.runs := by
  simp [runsOf]

/-- The results of the searches of a round. -/
def searchResults (index : Nat) (runs : List (CallbackRun Credit)) : List KiroToolResult :=
  ((searchesOf hosted runs).map canonical).mapIdx (webSearchToolResult print (search index))

/-- What the last round adds before the client's calls: the results of its searches. -/
def rendered (index : Nat) (runs : List (CallbackRun Credit)) : List (CallbackRun Credit) :=
  if searchesOf hosted runs = [] then []
  else [.text (buildToolResultsContinuation (searchResults hosted print search index runs)) false]

/-- The ways a round ends. -/
inductive RoundEnds (index : Nat) (outcome : RoundOutcome Credit Error)
    (locals : SearchLocals Credit) (events : List (CallEvent Credit)) :
    RoundEnd (SearchLocals Credit) (Except (SearchFailure Error) (List (CallbackRun Credit))) →
      Prop where
  | fails (failed : SearchFailure Error)
      (passed : events = (outcome.runs.filter passes).map .callback) :
      RoundEnds index outcome locals events (.stop (.error failed))
  | answers (clean : outcome.error = none)
      (passed : events = (outcome.runs.filter passes).map .callback) :
      RoundEnds index outcome locals events (.stop (.ok
        (rendered hosted print search index outcome.runs ++
          finish (clientToolsOf hosted outcome.runs)
            (outcome.runs.foldl SearchTotals.hear locals.totals) (stopOf outcome.runs))))
  | follows (next : KiroPayload) (clean : outcome.error = none)
      (searched : searchesOf hosted outcome.runs ≠ [])
      (alone : clientToolsOf hosted outcome.runs = [])
      (built : next.inferenceConfig = locals.next.inferenceConfig)
      (passed : events = (outcome.runs.filter passes).map .callback ++ [.followupPayload next]) :
      RoundEnds index outcome locals events
        (.again ⟨next, outcome.runs.foldl SearchTotals.hear locals.totals⟩)

omit [CreditAmount Credit] in
theorem hosted_resolve (index : Nat) (runs : List (CallbackRun Credit)) :
    resolveWebSearchToolResults letters print (search index)
      ((searchesOf hosted runs).map canonical) =
        .ok (searchResults hosted print search index runs) := by
  apply canonical_resolves
  intro toolUse member
  obtain ⟨original, _, same⟩ := List.mem_map.mp member
  rw [← same]
  rfl

theorem search_round_cases (index : Nat) (locals : SearchLocals Credit)
    (record : RoundRecord Credit Error)
    (ended : RoundEnd (SearchLocals Credit)
      (Except (SearchFailure Error) (List (CallbackRun Credit))))
    (ran : searchRound hosted letters print search enabled orders call index locals =
      (record, ended)) :
    record.asked = locals.next ∧ record.outcome = call index locals.next ∧
      RoundEnds hosted print search index record.outcome locals record.events ended := by
  have quiet_answers (quiet : searchesOf hosted (call index locals.next).runs = [])
      (clean : (call index locals.next).error = none) :
      RoundEnds hosted print search index (call index locals.next) locals
        (((call index locals.next).runs.filter passes).map .callback)
        (.stop (.ok (finish (clientToolsOf hosted (call index locals.next).runs)
          ((call index locals.next).runs.foldl SearchTotals.hear locals.totals)
          (stopOf (call index locals.next).runs)))) := by
    have nothing : rendered hosted print search index (call index locals.next).runs = [] :=
      if_pos quiet
    have answers := @RoundEnds.answers _ _ _ hosted print search index (call index locals.next)
      locals _ clean rfl
    rwa [nothing, List.nil_append] at answers
  unfold searchRound at ran
  simp only [hosted_resolve] at ran
  cases failed : (call index locals.next).error with
  | some err =>
      simp only [failed] at ran
      cases ran
      exact ⟨rfl, rfl, .fails _ rfl⟩
  | none =>
      cases gone : (call index locals.next).ctxErr with
      | some err =>
          simp only [failed, gone] at ran
          split_ifs at ran with quiet last
          · cases ran
            exact ⟨rfl, rfl, quiet_answers quiet failed⟩
          · cases ran
            exact ⟨rfl, rfl, .fails _ rfl⟩
          · cases ran
            exact ⟨rfl, rfl, .fails _ rfl⟩
      | none =>
          simp only [failed, gone] at ran
          split_ifs at ran with quiet last mixed
          · cases ran
            exact ⟨rfl, rfl, quiet_answers quiet failed⟩
          · cases ran
            exact ⟨rfl, rfl, .fails _ rfl⟩
          · cases ran
            refine ⟨rfl, rfl, ?_⟩
            have results : rendered hosted print search index (call index locals.next).runs =
                [.text (buildToolResultsContinuation (searchResults hosted print search index
                  (call index locals.next).runs)) false] := if_neg quiet
            have answers := @RoundEnds.answers _ _ _ hosted print search index
              (call index locals.next) locals _ failed rfl
            rwa [results, List.singleton_append] at answers
          · cases ran
            rw [ne_eq, not_not] at mixed
            exact ⟨rfl, rfl, .follows _ failed quiet mixed rfl rfl⟩

variable (payload : KiroPayload)

omit [CreditAmount Credit] in
/-- The client got what passes of the rounds, and follow-ups keep the inference configuration. -/
structure Forwards (payload : KiroPayload) (records : List (RoundRecord Credit Error)) : Prop where
  passed : callbackRuns (records.flatMap RoundRecord.events) = passedOf records
  followups : ∀ followup, .followupPayload followup ∈ records.flatMap RoundRecord.events →
    followup.inferenceConfig = payload.inferenceConfig

omit [CreditAmount Credit] in
theorem callback_runs_append (earlier later : List (CallEvent Credit)) :
    callbackRuns (earlier ++ later) = callbackRuns earlier ++ callbackRuns later :=
  List.filterMap_append

omit [CreditAmount Credit] in
theorem callback_runs_map (runs : List (CallbackRun Credit)) :
    callbackRuns (runs.map CallEvent.callback) = runs := by
  induction runs with
  | nil => rfl
  | cons run runs ih => exact congrArg (run :: ·) ih

omit [CreditAmount Credit] in
theorem forwards_concat (records : List (RoundRecord Credit Error))
    (forwards : Forwards payload records) (record : RoundRecord Credit Error)
    (followups : List KiroPayload)
    (events : record.events = (record.outcome.runs.filter passes).map .callback ++
      followups.map .followupPayload)
    (kept : ∀ followup ∈ followups, followup.inferenceConfig = payload.inferenceConfig) :
    Forwards payload (records ++ [record]) := by
  have silent : callbackRuns (followups.map (CallEvent.followupPayload : _ → CallEvent Credit)) =
      [] := by
    unfold callbackRuns
    rw [List.filterMap_map]
    exact List.filterMap_eq_nil_iff.mpr fun _ _ => rfl
  constructor
  · rw [List.flatMap_append, callback_runs_append, forwards.passed, List.flatMap_singleton, events,
      callback_runs_append, callback_runs_map, silent, List.append_nil, passedOf, passedOf,
      runs_of_concat, List.filter_append]
  · intro followup member
    rw [List.flatMap_append, List.mem_append] at member
    cases member with
    | inl inside => exact forwards.followups followup inside
    | inr last =>
        rw [List.flatMap_singleton, events, List.mem_append] at last
        cases last with
        | inl among =>
            obtain ⟨run, _, same⟩ := List.mem_map.mp among
            cases same
        | inr among =>
            obtain ⟨other, inside, same⟩ := List.mem_map.mp among
            cases same
            exact kept followup inside

/-- What holds at the top of the loop: all rounds so far searched, for no one else. -/
structure Searched (records : List (RoundRecord Credit Error)) (locals : SearchLocals Credit) :
    Prop where
  totals : locals.totals = (runsOf records).foldl SearchTotals.hear .start
  clean : ∀ record ∈ records, record.outcome.error = none
  alone : ∀ record ∈ records, searchesOf hosted record.outcome.runs ≠ [] ∧
    clientToolsOf hosted record.outcome.runs = []
  forwards : Forwards payload records
  next : locals.next.inferenceConfig = payload.inferenceConfig

/-- The answer that the rounds make up. -/
def Answered (records : List (RoundRecord Credit Error)) (final : List (CallbackRun Credit)) :
    Prop :=
  (∀ record ∈ records, record.outcome.error = none) ∧ ∃ earlier last, records = earlier ++ [last] ∧
    (∀ record ∈ earlier, searchesOf hosted record.outcome.runs ≠ [] ∧
      clientToolsOf hosted record.outcome.runs = []) ∧
    final = rendered hosted print search earlier.length last.outcome.runs ++
      finish (clientToolsOf hosted last.outcome.runs) (summed (runsOf records))
        (stopOf last.outcome.runs)

structure SearchEnds (records : List (RoundRecord Credit Error))
    (result : Except (SearchFailure Error) (List (CallbackRun Credit))) : Prop where
  forwards : Forwards payload records
  answered : ∀ final, result = .ok final → Answered hosted print search records final

theorem round_searches (records : List (RoundRecord Credit Error)) (locals : SearchLocals Credit)
    (record : RoundRecord Credit Error) (next : SearchLocals Credit)
    (searched : Searched hosted payload records locals)
    (ran : searchRound hosted letters print search enabled orders call records.length locals =
      (record, .again next)) : Searched hosted payload (records ++ [record]) next := by
  obtain ⟨_, _, ends⟩ := search_round_cases hosted letters print search enabled orders call _ _ _ _
    ran
  cases ends with
  | follows followup clean searches alone built events =>
      have kept := built.trans searched.next
      refine ⟨?_, ?_, ?_, ?_, kept⟩
      · rw [runs_of_concat, List.foldl_append, ← searched.totals]
      · intro other member
        cases List.mem_append.mp member with
        | inl inside => exact searched.clean other inside
        | inr last =>
            rw [List.mem_singleton.mp last]
            exact clean
      · intro other member
        cases List.mem_append.mp member with
        | inl inside => exact searched.alone other inside
        | inr last =>
            rw [List.mem_singleton.mp last]
            exact ⟨searches, alone⟩
      · apply forwards_concat payload records searched.forwards record [followup] events
        intro other member
        rw [List.mem_singleton.mp member]
        exact kept

theorem round_answers (records : List (RoundRecord Credit Error)) (locals : SearchLocals Credit)
    (record : RoundRecord Credit Error)
    (result : Except (SearchFailure Error) (List (CallbackRun Credit)))
    (searched : Searched hosted payload records locals)
    (ran : searchRound hosted letters print search enabled orders call records.length locals =
      (record, .stop result)) :
    SearchEnds hosted print search payload (records ++ [record]) result := by
  obtain ⟨_, _, ends⟩ := search_round_cases hosted letters print search enabled orders call _ _ _ _
    ran
  have forwards (events : record.events = (record.outcome.runs.filter passes).map .callback) :
      Forwards payload (records ++ [record]) := by
    apply forwards_concat payload records searched.forwards record []
    · rw [events, List.map_nil, List.append_nil]
    · intro followup member
      cases member
  cases ends with
  | fails failed events =>
      refine ⟨forwards events, ?_⟩
      intro final same
      cases same
  | answers clean events =>
      refine ⟨forwards events, ?_⟩
      intro final same
      cases same
      refine ⟨?_, records, record, rfl, searched.alone, ?_⟩
      · intro other member
        cases List.mem_append.mp member with
        | inl inside => exact searched.clean other inside
        | inr last =>
            rw [List.mem_singleton.mp last]
            exact clean
      · rw [searched.totals, ← List.foldl_append, ← runs_of_concat, heard_summed]

theorem last_round_stops (locals : SearchLocals Credit) :
    ∃ result, (searchRound hosted letters print search enabled orders call maxRounds locals).2 =
      .stop result := by
  unfold searchRound
  simp only
  cases (call maxRounds locals.next).error with
  | some err => exact ⟨_, rfl⟩
  | none =>
      simp only
      split_ifs
      · exact ⟨_, rfl⟩
      · exact ⟨_, rfl⟩

/-- The loop of rounds from the client's payload. -/
def searchLoop : List (RoundRecord Credit Error) ×
    Option (Except (SearchFailure Error) (List (CallbackRun Credit))) :=
  rounds (searchRound hosted letters print search enabled orders call) (maxRounds + 1) 0
    ⟨payload, .start⟩

theorem search_loop_ends : ∃ result,
    (searchLoop hosted letters print search enabled orders call payload).2 = some result ∧
      SearchEnds hosted print search payload
        (searchLoop hosted letters print search enabled orders call payload).1 result := by
  obtain ⟨result, finished⟩ := rounds_stop _ maxRounds
    (last_round_stops hosted letters print search enabled orders call) (maxRounds + 1) 0
    ⟨payload, .start⟩ (Nat.zero_le _) (by omega)
  have start : Searched hosted payload ([] : List (RoundRecord Credit Error))
      ⟨payload, .start⟩ := by
    refine ⟨rfl, ?_, ?_, ⟨rfl, ?_⟩, rfl⟩
    · intro record member
      cases member
    · intro record member
      cases member
    · intro followup member
      cases member
  have ends := rounds_track _ (Searched hosted payload) (SearchEnds hosted print search payload)
    (fun before locals record next searched ran => round_searches hosted letters print search
      enabled orders call payload before locals record next searched ran)
    (fun before locals record result searched ran => round_answers hosted letters print search
      enabled orders call payload before locals record result searched ran)
    (maxRounds + 1) [] ⟨payload, .start⟩ start result finished
  rw [List.nil_append, List.length_nil] at ends
  exact ⟨result, finished, ends⟩

omit [CreditAmount Credit] in
theorem called_runs (callback : KiroStreamCallback) (events : List (CallEvent Credit)) :
    callbackRuns (events.filter (isCalled callback)) = delivered callback (callbackRuns events) := by
  induction events with
  | nil => rfl
  | cons event events ih =>
      cases event with
      | followupPayload followup => exact ih
      | callback run =>
          have head : callbackRuns (.callback run :: events) = run :: callbackRuns events := rfl
          unfold delivered at ih ⊢
          rw [head, List.filter_cons, List.filter_cons, ← ih]
          unfold isCalled
          split_ifs
          · rfl
          · rfl

/-- The rounds of a call with hosted search make up one answer, or end in an error without a
call or an end of the message. -/
theorem hosted_search_composes (callback : KiroStreamCallback) (tools : hosted ≠ []) :
    let run := callKiroWithHostedSearch hosted letters print search enabled orders call callback
      payload
    run.rounds.length ≤ 6 ∧
      ((run.result = .ok () ∧ ∃ final, Answered hosted print search run.rounds final ∧
          callbackRuns run.events = delivered callback (passedOf run.rounds ++ final)) ∨
        ∃ failed, run.result = .error failed ∧
          callbackRuns run.events = delivered callback (passedOf run.rounds) ∧
          ∀ part ∈ callbackRuns run.events, passes part = true) := by
  obtain ⟨result, finished, ends⟩ :=
    search_loop_ends hosted letters print search enabled orders call payload
  have bounded := rounds_bounded (searchRound hosted letters print search enabled orders call)
    (maxRounds + 1) 0 ⟨payload, .start⟩
  unfold searchLoop at finished ends
  unfold callKiroWithHostedSearch
  rw [if_neg tools]
  simp only [finished]
  cases result with
  | error failed =>
      have forwarded := called_runs callback ((rounds (searchRound hosted letters print search
        enabled orders call) (maxRounds + 1) 0 ⟨payload, .start⟩).1.flatMap RoundRecord.events)
      rw [ends.forwards.passed] at forwarded
      refine ⟨bounded, Or.inr ⟨failed, rfl, forwarded, ?_⟩⟩
      intro part member
      rw [forwarded] at member
      exact (List.mem_filter.mp (List.mem_filter.mp member).1).2
  | ok final =>
      refine ⟨bounded, Or.inl ⟨rfl, final, ends.answered final rfl, ?_⟩⟩
      simp only
      rw [called_runs, callback_runs_append, ends.forwards.passed, callback_runs_map]

/-- A call with hosted search as the call of an answer that is continued. -/
def hostedCall (callback : KiroStreamCallback) (ctxErrs : Nat → Option Error × Option Error)
    (calls : Nat → Nat → KiroPayload → RoundOutcome Credit Error) (index : Nat)
    (asked : KiroPayload) : HopOutcome Credit (SearchFailure Error) :=
  let run := callKiroWithHostedSearch hosted letters print search enabled orders (calls index)
    callback asked
  { events := run.events
    error :=
      match run.result with
      | .ok _ => none
      | .error failed => some failed
    ctxErr := (ctxErrs index).1.map .context
    nextCtxErr := (ctxErrs index).2.map .context }

/-- A continuation after a search stays within the client's `max_tokens`. -/
theorem hosted_calls_keep (callback : KiroStreamCallback)
    (ctxErrs : Nat → Option Error × Option Error)
    (calls : Nat → Nat → KiroPayload → RoundOutcome Credit Error) :
    KeepsInference
      (hostedCall hosted letters print search enabled orders callback ctxErrs calls) := by
  intro index asked followup member set
  have kept : followup.inferenceConfig = asked.inferenceConfig := by
    unfold hostedCall callKiroWithHostedSearch at member
    split_ifs at member with none
    · obtain ⟨run, _, same⟩ := List.mem_map.mp (List.mem_filter.mp member).1
      cases same
    · obtain ⟨result, finished, ends⟩ :=
        search_loop_ends hosted letters print search enabled orders (calls index) asked
      unfold searchLoop at finished ends
      simp only [finished] at member
      cases result with
      | error failed => exact ends.forwards.followups followup (List.mem_filter.mp member).1
      | ok final =>
          cases List.mem_append.mp (List.mem_filter.mp member).1 with
          | inl inside => exact ends.forwards.followups followup inside
          | inr last =>
              obtain ⟨run, _, same⟩ := List.mem_map.mp last
              cases same
  rw [kept]
  exact set

end Rounds

section Instances

/-- A first round that searches, and a last one that searches and calls a client's tool. -/
def searchingCall (index : Nat) (_ : KiroPayload) : RoundOutcome Int Nat :=
  if index = 0 then
    ⟨[.text (lit "Looking.") false,
      .toolUse ⟨lit "s1", lit "web_search", [(lit "query", .str (lit "lean"))]⟩,
      .stopReason (lit "tool_use"), .credits 2, .complete 10 3], none, none⟩
  else
    ⟨[.text (lit " Done.") false,
      .toolUse ⟨lit "s2", lit "web_search", [(lit "query", .str (lit "go"))]⟩,
      .toolUse ⟨lit "t1", lit "read_file", []⟩,
      .stopReason (lit "tool_use"), .credits 1, .complete 20 4], none, none⟩

def searchingRun : SearchRun Int Nat :=
  callKiroWithHostedSearch [lit "web_search"] asciiLetters (fun _ => [])
    (fun _ _ _ => ⟨[], some (lit "down")⟩) true (fun _ => ⟨[], fun _ => []⟩)
    searchingCall allCallbacks capPayload

theorem two_rounds_searched : searchingRun.rounds.length ≤ 6 ∧ searchingRun.rounds.length = 2 ∧
    callbackRuns searchingRun.events = [.text (lit "Looking.") false, .text (lit " Done.") false,
      .text (lit "Tool results:\n\nweb_search failed: down") false,
      .toolUse ⟨lit "t1", lit "read_file", []⟩, .complete 30 7, .credits 3,
      .stopReason (lit "tool_use")] :=
  ⟨(hosted_search_composes [lit "web_search"] asciiLetters (fun _ => [])
    (fun _ _ _ => ⟨[], some (lit "down")⟩) true (fun _ => ⟨[], fun _ => []⟩)
    searchingCall capPayload allCallbacks (List.cons_ne_nil _ _)).1, rfl, rfl⟩

end Instances

end KiroProxy.HostedSearch
