import KiroProxy.Proxy.AutoContinue
import KiroProxy.Proxy.WebSearch

/-!
# Calls with hosted search

`callKiroWithHostedSearch` of `proxy/mcp_websearch.go`. The client's callback gets the text of
every round as it comes, and its own calls and the end of the message once. What the upstream
does in a round and what the searches answer are inputs.
-/

namespace KiroProxy.HostedSearch

open ApiKeys AutoContinue EventStream FollowupPayloads Foundation.Rounds GoStrings KiroTypes
open ToolHistory WebSearch

set_option autoImplicit false

section Rounds

variable {Credit : Type}

/-- What the upstream did with the callback of a round, its error, and the error of the
request context behind the searches of the round. -/
structure RoundOutcome (Credit Error : Type) where
  runs : List (CallbackRun Credit)
  error : Option Error
  ctxErr : Option Error

structure RoundRecord (Credit Error : Type) where
  asked : KiroPayload
  outcome : RoundOutcome Credit Error
  events : List (CallEvent Credit)

/-- The totals over the rounds. -/
structure SearchTotals (Credit : Type) where
  totalIn : Int
  totalOut : Int
  totalCredits : Credit
  cacheRead : Int
  cacheWrite : Int

structure SearchLocals (Credit : Type) where
  next : KiroPayload
  totals : SearchTotals Credit

inductive SearchFailure (Error : Type) where
  | upstream (err : Error)
  | exceeded
  | unsupported (text : GoString)
  | context (err : Error)

def maxRounds : Nat := 5

/-- What reaches the client's callback while a round runs. -/
def passes : CallbackRun Credit → Bool
  | .text _ _ => true
  | .contextUsage _ => true
  | _ => false

def callOf : CallbackRun Credit → Option KiroToolUse
  | .toolUse toolUse => some toolUse
  | _ => none

/-- The calls of a round, held until it is over. -/
def toolsOf (runs : List (CallbackRun Credit)) : List KiroToolUse := runs.filterMap callOf

def hearStop (stop : GoString) : CallbackRun Credit → GoString
  | .stopReason reason => reason
  | _ => stop

def stopOf (runs : List (CallbackRun Credit)) : GoString := runs.foldl hearStop []

variable (hosted : List GoString)

def searchesOf (runs : List (CallbackRun Credit)) : List KiroToolUse :=
  (toolsOf runs).filter fun toolUse => hosted.contains toolUse.name

def clientToolsOf (runs : List (CallbackRun Credit)) : List KiroToolUse :=
  (toolsOf runs).filter fun toolUse => !hosted.contains toolUse.name

def canonical (toolUse : KiroToolUse) : KiroToolUse := { toolUse with name := webSearchToolName }

/-- What is not nil is called. -/
def isCalled (callback : KiroStreamCallback) : CallEvent Credit → Bool
  | .callback run => isSet callback run
  | .followupPayload _ => true

end Rounds

section Model

variable {Credit Error : Type} [CreditAmount Credit]

def SearchTotals.start : SearchTotals Credit := ⟨0, 0, 0, 0, 0⟩

def SearchTotals.hear (totals : SearchTotals Credit) : CallbackRun Credit → SearchTotals Credit
  | .complete inputTokens outputTokens =>
      { totals with
        totalIn := totals.totalIn + inputTokens
        totalOut := totals.totalOut + outputTokens }
  | .credits credits => { totals with totalCredits := totals.totalCredits + credits }
  | .cacheUsage read write =>
      { totals with cacheRead := totals.cacheRead + read, cacheWrite := totals.cacheWrite + write }
  | _ => totals

/-- The client's calls and the end of the message. -/
def finish (clientTools : List KiroToolUse) (totals : SearchTotals Credit) (stop : GoString) :
    List (CallbackRun Credit) :=
  clientTools.map .toolUse ++
    (if 0 < totals.cacheRead + totals.cacheWrite then
      [.cacheUsage totals.cacheRead totals.cacheWrite] else []) ++
    [.complete totals.totalIn totals.totalOut, .credits totals.totalCredits, .stopReason stop]

variable (hosted : List GoString) (letters : Letters) (print : Json → GoString)
  (search : Nat → Nat → GoString → SearchAnswer) (enabled : Bool) (orders : Nat → MapOrders)
  (call : Nat → KiroPayload → RoundOutcome Credit Error)

def searchRound (index : Nat) (locals : SearchLocals Credit) :
    RoundRecord Credit Error ×
      RoundEnd (SearchLocals Credit) (Except (SearchFailure Error) (List (CallbackRun Credit))) :=
  let outcome := call index locals.next
  let passed := (outcome.runs.filter passes).map CallEvent.callback
  match outcome.error with
  | some err => (⟨locals.next, outcome, passed⟩, .stop (.error (.upstream err)))
  | none =>
      let totals := outcome.runs.foldl SearchTotals.hear locals.totals
      let searches := searchesOf hosted outcome.runs
      let clientTools := clientToolsOf hosted outcome.runs
      if searches = [] then
        (⟨locals.next, outcome, passed⟩,
          .stop (.ok (finish clientTools totals (stopOf outcome.runs))))
      else if index = maxRounds then (⟨locals.next, outcome, passed⟩, .stop (.error .exceeded))
      else
        match resolveWebSearchToolResults letters print (search index) (searches.map canonical) with
        | .error text => (⟨locals.next, outcome, passed⟩, .stop (.error (.unsupported text)))
        | .ok results =>
            match outcome.ctxErr with
            | some err => (⟨locals.next, outcome, passed⟩, .stop (.error (.context err)))
            | none =>
                -- Client tools return before another upstream turn can complete them.
                if clientTools ≠ [] then
                  (⟨locals.next, outcome, passed⟩,
                    .stop (.ok (.text (buildToolResultsContinuation results) false ::
                      finish clientTools totals (stopOf outcome.runs))))
                else
                  let next :=
                    buildWebSearchFollowupPayload enabled (orders index) locals.next searches results
                  (⟨locals.next, outcome, passed ++ [.followupPayload next]⟩,
                    .again ⟨next, totals⟩)

structure SearchRun (Credit Error : Type) where
  rounds : List (RoundRecord Credit Error)
  events : List (CallEvent Credit)
  result : Except (SearchFailure Error) Unit

variable (callback : KiroStreamCallback) (payload : KiroPayload)

def callKiroWithHostedSearch : SearchRun Credit Error :=
  if hosted = [] then
    let outcome := call 0 payload
    let events := outcome.runs.map CallEvent.callback
    ⟨[⟨payload, outcome, events⟩], events.filter (isCalled callback),
      match outcome.error with
      | some err => .error (.upstream err)
      | none => .ok ()⟩
  else
    let loop := rounds (searchRound hosted letters print search enabled orders call)
      (maxRounds + 1) 0 ⟨payload, .start⟩
    let events := loop.1.flatMap RoundRecord.events
    match loop.2 with
    | none => ⟨loop.1, events.filter (isCalled callback), .ok ()⟩
    | some (.error failed) => ⟨loop.1, events.filter (isCalled callback), .error failed⟩
    | some (.ok final) =>
        ⟨loop.1, (events ++ final.map CallEvent.callback).filter (isCalled callback), .ok ()⟩

end Model

end KiroProxy.HostedSearch
