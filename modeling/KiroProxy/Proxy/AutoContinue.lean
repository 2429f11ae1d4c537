import KiroProxy.Foundation.Rounds
import KiroProxy.Proxy.ContinuationHop
import KiroProxy.Proxy.TokenEstimator

/-!
# Auto-continue

`runAutoContinue` of `proxy/auto_continue.go` over the upstream call it is given. What a call
did with its callback, its error and the state of the request context are inputs of a hop.
-/

namespace KiroProxy.AutoContinue

open ApiKeys EventStream FollowupPayloads Foundation.Emissions Foundation.Emissions.Emission
open Foundation.Rounds GoStrings ThinkingSplitter TokenEstimator

set_option autoImplicit false

section Reports

variable {Credit : Type} [CreditAmount Credit]

/-- What an upstream call reported beside the text. -/
structure HopReports (Credit : Type) where
  followup : Option KiroPayload
  toolCount : Nat
  stopReason : GoString
  inputTokens : Int
  outputTokens : Int
  credits : Credit
  cacheRead : Int
  cacheWrite : Int

def HopReports.start : HopReports Credit := ⟨none, 0, [], 0, 0, 0, 0, 0⟩

def HopReports.hear (reports : HopReports Credit) : CallEvent Credit → HopReports Credit
  | .callback (.text _ _) => reports
  | .callback (.toolUse _) => { reports with toolCount := reports.toolCount + 1 }
  | .callback (.stopReason reason) => { reports with stopReason := reason }
  | .callback (.credits credits) => { reports with credits := reports.credits + credits }
  | .callback (.contextUsage _) => reports
  | .callback (.cacheUsage read write) => { reports with cacheRead := read, cacheWrite := write }
  | .callback (.complete inputTokens outputTokens) =>
      { reports with inputTokens := inputTokens, outputTokens := outputTokens }
  | .followupPayload payload => { reports with followup := some payload }

/-- The last counts and reason that a call reported, and all its credits. -/
def heard (events : List (CallEvent Credit)) : HopReports Credit :=
  events.foldl HopReports.hear .start

namespace ContinuationHop

omit [CreditAmount Credit] in
def reports (hop : ContinuationHop Credit) : HopReports Credit where
  followup := hop.followup
  toolCount := hop.toolCount
  stopReason := hop.stopReason
  inputTokens := hop.inputTokens
  outputTokens := hop.outputTokens
  credits := hop.credits
  cacheRead := hop.cacheRead
  cacheWrite := hop.cacheWrite

/-- A callback that comes of an answer, and not of its end. -/
def streams : CallbackRun Credit → Bool
  | .text _ _ => true
  | .toolUse _ => true
  | .contextUsage _ => true
  | _ => false

end ContinuationHop

end Reports

section Continuations

variable {Credit Error : Type} [CreditAmount Credit] (letters : Letters)
  (weigh : RuneClasses → Int) (enabled : Bool) (orders : Nat → MapOrders)
  (isContextCanceledError : Error → Bool) (callback : KiroStreamCallback)

/-- What became of an upstream call, and the error of the request context when it returned
and before the next one. -/
structure HopOutcome (Credit Error : Type) where
  events : List (CallEvent Credit)
  error : Option Error
  ctxErr : Option Error
  nextCtxErr : Option Error

/-- A hop that ran: the payload it was asked for and what the client's callback got. -/
structure HopRecord (Credit Error : Type) where
  asked : KiroPayload
  outcome : HopOutcome Credit Error
  outputs : List (CallbackRun Credit)

/-- The locals of the loop. -/
structure Continued (Credit : Type) where
  answer : GoString
  totalIn : Int
  totalOut : Int
  totalCredits : Credit
  totalCacheRead : Int
  totalCacheWrite : Int
  stopReason : GoString
  next : KiroPayload
  base : KiroPayload
  sinceBase : GoString

def startContinued (payload : KiroPayload) : Continued Credit :=
  ⟨[], 0, 0, 0, 0, 0, [], payload, payload, []⟩

def kiroOutputCapInferTokens : Int := 8192 * 95 / 100

def isOutputCapStopReason (reason : GoString) : Bool :=
  mapClaudeStopReason letters reason 0 == lit "max_tokens"

namespace ContinuationHop

omit [CreditAmount Credit] in
def reachedKiroCapWithoutStopReason (hop : ContinuationHop Credit) : Bool :=
  decide (trimSpace hop.stopReason = []) && decide (kiroOutputCapInferTokens ≤ hop.outputTokens)

omit [CreditAmount Credit] in
def cutAtOutputCap (hop : ContinuationHop Credit) (openThinking : Bool) : Bool :=
  hop.toolCount == 0 && !openThinking &&
    (isOutputCapStopReason letters hop.stopReason || hop.reachedKiroCapWithoutStopReason) &&
    decide (trimSpace hop.answer ≠ [])

end ContinuationHop

/-- What is left of the client's `max_tokens`, 0 where it set none; none where it is spent. -/
def remainingOutputBudget (payload : KiroPayload) (usedOutputTokens : Int) (answer : GoString) :
    Option Int :=
  match payload.inferenceConfig with
  | none => some 0
  | some config =>
      if config.maxTokens ≤ 0 then some 0
      else
        let used :=
          if usedOutputTokens ≤ 0 then estimateApproxTokens weigh answer else usedOutputTokens
        if 0 < config.maxTokens - used then some (config.maxTokens - used) else none

/-- The first hop's errors belong to the handler's retry logic, and a gone client ends
everything. -/
def returnedError (hop : Nat) (outcome : HopOutcome Credit Error) : Option Error :=
  match outcome.error with
  | none => none
  | some err =>
      if hop = 0 ∨ isContextCanceledError err = true ∨ outcome.ctxErr.isSome = true then some err
      else none

def addHop (locals : Continued Credit) (hop : ContinuationHop Credit) : Continued Credit :=
  { locals with
    answer := locals.answer ++ hop.answer
    totalIn := locals.totalIn + hop.inputTokens
    totalOut := locals.totalOut + hop.outputTokens
    totalCredits := locals.totalCredits + hop.credits
    totalCacheRead := locals.totalCacheRead + hop.cacheRead
    totalCacheWrite := locals.totalCacheWrite + hop.cacheWrite }

/-- A hop that searched is continued from the payload with the search results. -/
def rebase (locals : Continued Credit) (hop : ContinuationHop Credit) : Continued Credit :=
  match hop.followup with
  | some followup =>
      { locals with stopReason := hop.stopReason, base := followup, sinceBase := hop.answer }
  | none =>
      { locals with stopReason := hop.stopReason, sinceBase := locals.sinceBase ++ hop.answer }

/-- The loop behind a hop without an error. -/
def nextHop (payload : KiroPayload) (maxContinuations : Int) (index : Nat)
    (outcome : HopOutcome Credit Error) (hop : ContinuationHop Credit) (openThinking : Bool)
    (locals : Continued Credit) : RoundEnd (Continued Credit) (Except Error (Continued Credit)) :=
  if maxContinuations ≤ index ∨ hop.cutAtOutputCap letters openThinking = false then
    .stop (.ok locals)
  else
    match remainingOutputBudget weigh payload locals.totalOut locals.answer with
    | none => .stop (.ok locals)
    | some budget =>
        match outcome.nextCtxErr with
        | some err => .stop (.error err)
        | none =>
            .again { locals with
              next := buildContinuationPayload enabled (orders index) locals.base locals.sinceBase
                budget }

variable (call : Nat → KiroPayload → HopOutcome Credit Error) (payload : KiroPayload)
  (maxContinuations : Int)

def hopRound (index : Nat) (locals : Continued Credit) :
    HopRecord Credit Error × RoundEnd (Continued Credit) (Except Error (Continued Credit)) :=
  let outcome := call index locals.next
  let start : ContinuationHop Credit := startHop index locals.answer
  let called := emitAll ContinuationHop.callback start outcome.events
  match returnedError isContextCanceledError index outcome with
  | some err => (⟨locals.next, outcome, called.outputs⟩, .stop (.error err))
  | none =>
      let ended := start.run outcome.events
      let locals' := addHop locals ended.state
      (⟨locals.next, outcome, ended.outputs⟩,
        match outcome.error with
        -- The client already holds the earlier hops; the message ends there.
        | some _ => .stop (.ok locals')
        | none =>
            nextHop letters weigh enabled orders payload maxContinuations index outcome
              ended.state called.state.splitter.inBlock (rebase locals' ended.state))

/-- The callbacks that end the message. -/
def completion (stopReason : GoString) (credits : Credit) (cacheRead cacheWrite : Int)
    (inputTokens outputTokens : Int) : List (CallbackRun Credit) :=
  [.stopReason stopReason] ++ (if 0 < credits then [.credits credits] else []) ++
    (if 0 < cacheRead + cacheWrite then [.cacheUsage cacheRead cacheWrite] else []) ++
    [.complete inputTokens outputTokens]

omit [CreditAmount Credit] in
/-- A callback that is nil is not called. -/
def isSet : CallbackRun Credit → Bool
  | .text _ _ => callback.onText
  | .toolUse _ => callback.onToolUse
  | .stopReason _ => callback.onStopReason
  | .credits _ => callback.onCredits
  | .contextUsage _ => callback.onContextUsage
  | .cacheUsage _ _ => callback.onCacheUsage
  | .complete _ _ => callback.onComplete

omit [CreditAmount Credit] in
def delivered (runs : List (CallbackRun Credit)) : List (CallbackRun Credit) :=
  runs.filter (isSet callback)

/-- The hops, the client's callbacks and what is returned: nil or an error. -/
structure ContinuedRun (Credit Error : Type) where
  hops : List (HopRecord Credit Error)
  outputs : List (CallbackRun Credit)
  result : Option (Except Error Unit)

def runAutoContinue : ContinuedRun Credit Error :=
  let loop := rounds
    (hopRound letters weigh enabled orders isContextCanceledError call payload maxContinuations)
    (maxContinuations.toNat + 1) 0 (startContinued payload)
  let streamed := loop.1.flatMap HopRecord.outputs
  match loop.2 with
  | none => ⟨loop.1, delivered callback streamed, none⟩
  | some (.error err) => ⟨loop.1, delivered callback streamed, some (.error err)⟩
  | some (.ok locals) =>
      ⟨loop.1, delivered callback (streamed ++ completion locals.stopReason locals.totalCredits
        locals.totalCacheRead locals.totalCacheWrite locals.totalIn locals.totalOut),
        some (.ok ())⟩

end Continuations

end KiroProxy.AutoContinue
