import KiroProxy.Foundation.Rounds
import KiroProxy.Foundation.Tables
import KiroProxy.Pool.AccountStats
import KiroProxy.Proxy.Responders
import KiroProxy.Proxy.WebSearch

/-!
# The web search loop of Claude requests

`runClaudeWebSearchLoop` of `proxy/claude_websearch.go` and what it records. Which account
answers a round, with what, and what the searches answer are inputs; a round is read as
`callClaudeRound` reads it. The working request is the client's with the rounds appended.
-/

namespace KiroProxy.ClaudeWebSearch

open ApiKeys (CreditAmount)
open ClaudeUsage EventStream Foundation.Rounds Foundation.Tables GoStrings KiroTypes
open ModelMappings (decimal)
open Pool (Usage)
open RequestHandling
open UsageAccounting (ApiKeyUsageReservation)
open WebSearch

set_option autoImplicit false

section Rounds

/-- An account of the pool; `GenerateAccountID` names an account that has no id. -/
structure PickedAccount where
  id : GoString
  email : GoString
  named : id ≠ []

/-- The callbacks of an upstream call; `completeStream` reports positive credits only. -/
structure UpstreamRuns (Credit : Type) [CreditAmount Credit] where
  runs : List (CallbackRun Credit)
  nonneg : ∀ credits, .credits credits ∈ runs → 0 ≤ credits

structure ClaudeWebSearchRound (Credit : Type) where
  text : GoString
  thinking : GoString
  toolUses : List KiroToolUse
  inputTokens : Int
  outputTokens : Int
  credits : Credit
  stopReason : GoString

inductive LoopError where
  | canceled
  | noAccounts
  | other (message : GoString)

/-- What `callClaudeRoundWithFailover` returns: what the account that answered sent, or the
last account that was tried, if any, and the error. -/
inductive RoundAnswer (Credit : Type) [CreditAmount Credit] where
  | finished (account : PickedAccount) (upstream : UpstreamRuns Credit)
  | failed (tried : Option PickedAccount) (err : LoopError)

variable {Credit : Type} [CreditAmount Credit] (options : HandlerOptions Credit)

omit [CreditAmount Credit] in
def callOf : CallbackRun Credit → Option KiroToolUse
  | .toolUse toolUse => some toolUse
  | _ => none

/-- `callClaudeRound` behind the upstream call. -/
def claudeRound (estimatedInputTokens : Nat) (runs : List (CallbackRun Credit)) :
    ClaudeWebSearchRound Credit :=
  let options := { options with estimatedInputTokens := estimatedInputTokens }
  let raw := runs.foldl (fun raw run => RawAnswer.onCallback options raw false run) startRaw
  let outputs := raw.outputs options
  let toolUses := runs.filterMap callOf
  let finalized := claudeFinalized options raw toolUses
  { text := outputs.1
    thinking := outputs.2
    toolUses := toolUses
    inputTokens := finalized.1
    outputTokens := finalized.2
    credits := raw.counters.credits
    stopReason := raw.counters.upstreamStopReason }

end Rounds

section Searches

structure WebSearchOutcome where
  query : GoString
  results : List WebSearchResult
  error : Option (GoString × GoString)

/-- The counter of the searches, their outcomes, and the queries the service was asked. -/
structure SearchesRun where
  used : Nat
  outcomes : List WebSearchOutcome
  performed : List GoString

variable (print : Json → GoString) (search : Nat → GoString → SearchAnswer) (maxUses : Nat)

def runWebSearches : Nat → List KiroToolUse → SearchesRun
  | used, [] => ⟨used, [], []⟩
  | used, toolUse :: rest =>
      let query := webSearchQueryFromInput print toolUse.input
      if query = [] then
        let later := runWebSearches used rest
        { later with
          outcomes := ⟨query, [], some (lit "invalid_input", lit "query is required")⟩ ::
            later.outcomes }
      else if maxUses ≤ used then
        let later := runWebSearches used rest
        { later with
          outcomes := ⟨query, [], some (lit "max_uses_exceeded", lit "the web_search limit of " ++
            decimal maxUses ++ lit " uses is reached; answer with the results you have")⟩ ::
            later.outcomes }
      else
        let answer := search used query
        let later := runWebSearches (used + 1) rest
        { later with
          outcomes := ⟨query, answer.results,
            answer.err.map fun err => (lit "unavailable", err)⟩ :: later.outcomes
          performed := query :: later.performed }

end Searches

section Usage

structure WebSearchAccountUsage (Credit : Type) where
  tokens : Int
  credits : Credit

structure WebSearchLoopUsage (Credit : Type) where
  inTokens : Int
  outTokens : Int
  credits : Credit
  perAccount : Table GoString (WebSearchAccountUsage Credit)

/-- What the loop writes: the bookings of every handler, and usage of an account. -/
inductive LoopBooking (Credit : Type) where
  | booked (booking : Booking Credit)
  | counted (accountID : GoString) (usage : Usage Credit)

variable {Credit : Type} [CreditAmount Credit]

def WebSearchLoopUsage.start : WebSearchLoopUsage Credit := ⟨0, 0, 0, .empty⟩

def WebSearchLoopUsage.share (usage : WebSearchLoopUsage Credit) (accountID : GoString) :
    WebSearchAccountUsage Credit :=
  (usage.perAccount.get accountID).getD ⟨0, 0⟩

def WebSearchLoopUsage.add (usage : WebSearchLoopUsage Credit) (accountID : GoString)
    (inTokens outTokens : Int) (credits : Credit) : WebSearchLoopUsage Credit :=
  { inTokens := usage.inTokens + inTokens
    outTokens := usage.outTokens + outTokens
    credits := usage.credits + credits
    perAccount := usage.perAccount.put accountID
      ⟨(usage.share accountID).tokens + (inTokens + outTokens),
        (usage.share accountID).credits + credits⟩ }

/-- How a request for the loop is recorded. -/
structure LoopRequest (Credit : Type) where
  model : GoString
  reservation : Option (ApiKeyUsageReservation Credit)

/-- The log names one account with the totals; each account's counters get its own rounds, and
only the last account counts the request. -/
def recordWebSearchLoop (range : MapRange (GoString × WebSearchAccountUsage Credit))
    (request : LoopRequest Credit) (last : Option PickedAccount)
    (usage : WebSearchLoopUsage Credit) (success : Bool) (status : Nat) (message : GoString) :
    List (LoopBooking Credit) :=
  let accountID := (last.map fun account => account.id).getD []
  [.booked (.request
    { accountID := accountID
      apiKeyID := (request.reservation.map fun reservation => reservation.id).getD []
      apiKey := (request.reservation.map fun reservation => reservation.key).getD []
      email := (last.map fun account => account.email).getD []
      model := request.model
      inputTokens := usage.inTokens
      outputTokens := usage.outTokens
      credits := usage.credits
      success := success
      status := status
      message := message
      cache := ⟨0, 0⟩ })] ++
    ((range.visit usage.perAccount.entries).filter fun entry => entry.1 != accountID).map
      (fun entry => .counted entry.1 (.part entry.2.tokens entry.2.credits)) ++
    (if accountID = [] then []
      else [.counted accountID (.outcome success (usage.share accountID).tokens
        (usage.share accountID).credits)])

end Usage

section Loop

variable {Credit : Type} [CreditAmount Credit]

/-- A round that only searched, as it is appended to the working request. -/
structure AppendedRound (Credit : Type) where
  round : ClaudeWebSearchRound Credit
  searchUses : List KiroToolUse
  outcomes : List WebSearchOutcome

/-- What the client gets of a message. -/
inductive ContentBlock where
  | search (outcome : WebSearchOutcome)
  | thinking (thinking : GoString)
  | text (text : GoString)
  | toolUse (toolUse : KiroToolUse)

inductive LoopReply where
  | nothing
  | error (status : Nat) (errType message : GoString)
  | message (content : List ContentBlock) (stopReason : GoString) (inputTokens outputTokens : Int)
      (searches : Nat)

inductive ThinkingDisplay where
  | omitted
  | think
  | reasoningContent
  | block

/-- A round of the loop, with the search calls it answered and the queries it asked. -/
structure LoopRecord (Credit : Type) [CreditAmount Credit] where
  answer : RoundAnswer Credit
  round : Option (ClaudeWebSearchRound Credit)
  answered : List (KiroToolUse × WebSearchOutcome)
  performed : List GoString
  bookings : List (LoopBooking Credit)

structure LoopLocals (Credit : Type) where
  working : List (AppendedRound Credit)
  estimatedInputTokens : Nat
  presented : List WebSearchOutcome
  searches : Nat
  usage : WebSearchLoopUsage Credit
  lastAccount : Option PickedAccount

structure LoopEnd (Credit : Type) where
  bookings : List (LoopBooking Credit)
  reply : LoopReply

variable (options : HandlerOptions Credit) (display : ThinkingDisplay)
  (print : Json → GoString) (search : Nat → GoString → SearchAnswer) (maxUses : Nat)
  (estimate : List (AppendedRound Credit) → Nat)
  (noAccountError : Nat × GoString × GoString)
  (range : MapRange (GoString × WebSearchAccountUsage Credit)) (request : LoopRequest Credit)
  (call : Nat → List (AppendedRound Credit) → Nat → RoundAnswer Credit) (ctxDone : Nat → Bool)

omit [CreditAmount Credit] in
/-- Exact name only: a client's own tool of another spelling must reach the client. -/
def isSearchUse (toolUse : KiroToolUse) : Bool := toolUse.name == webSearchToolName

omit [CreditAmount Credit] in
/-- The content before the calls of the final round. -/
def finalContent (presented : List WebSearchOutcome) (round : ClaudeWebSearchRound Credit) :
    List ContentBlock :=
  let shown : List ContentBlock × GoString :=
    if options.thinking && decide (round.thinking ≠ []) then
      match display with
      | .omitted => ([.thinking []], round.text)
      | .think => ([], lit "<think>" ++ round.thinking ++ lit "</think>" ++ round.text)
      | .reasoningContent => ([], round.thinking ++ round.text)
      | .block => ([.thinking round.thinking], round.text)
    else ([], round.text)
  presented.map .search ++ shown.1 ++ if trimSpace shown.2 ≠ [] then [.text shown.2] else []

/-- The calls of the final round: searches still run, and client calls are handed on. -/
structure FinalCalls where
  used : Nat
  content : List ContentBlock
  answered : List (KiroToolUse × WebSearchOutcome)
  performed : List GoString

def finalCalls : Nat → List KiroToolUse → FinalCalls
  | used, [] => ⟨used, [], [], []⟩
  | used, toolUse :: rest =>
      if isSearchUse toolUse then
        let ran := runWebSearches print search maxUses used [toolUse]
        let later := finalCalls ran.used rest
        { used := later.used
          content := ran.outcomes.map .search ++ later.content
          answered := ran.outcomes.map (toolUse, ·) ++ later.answered
          performed := ran.performed ++ later.performed }
      else
        let later := finalCalls used rest
        { later with content := .toolUse toolUse :: later.content }

/-- A loop that ends without an answer. -/
def endLoop (locals : LoopLocals Credit) (status : Nat) (message : GoString) (reply : LoopReply) :
    LoopEnd Credit :=
  ⟨recordWebSearchLoop range request locals.lastAccount locals.usage false status message ++
    (settle releaseBooking request.reservation).2.map .booked, reply⟩

/-- A loop that answers: the reservation is settled before the record. -/
def answerLoop (locals : LoopLocals Credit) (reply : LoopReply) : LoopEnd Credit :=
  ⟨(settle (finalizeBooking (locals.usage.inTokens + locals.usage.outTokens)
      locals.usage.credits) request.reservation).2.map .booked ++
    recordWebSearchLoop range request locals.lastAccount locals.usage true 200 [] ++
    (settle releaseBooking (settle (finalizeBooking (locals.usage.inTokens + locals.usage.outTokens)
      locals.usage.credits) request.reservation).1).2.map .booked, reply⟩

def disconnected (locals : LoopLocals Credit) : LoopEnd Credit :=
  endLoop range request locals 499 (lit "client disconnected") .nothing

/-- The loop behind a finished round. -/
def finishedRound (index : Nat) (locals : LoopLocals Credit) (account : PickedAccount)
    (upstream : UpstreamRuns Credit) (round : ClaudeWebSearchRound Credit) :
    LoopRecord Credit × RoundEnd (LoopLocals Credit) (LoopEnd Credit) :=
  let locals := { locals with
    lastAccount := some account
    usage := locals.usage.add account.id round.inputTokens round.outputTokens round.credits }
  let recorded : List (LoopBooking Credit) := [.booked (.recordSuccess account.id)]
  let searchUses := round.toolUses.filter isSearchUse
  let clientUses := round.toolUses.filter fun toolUse => !isSearchUse toolUse
  if searchUses ≠ [] ∧ clientUses = [] ∧ index ≤ maxUses then
    let ran := runWebSearches print search maxUses locals.searches searchUses
    let record : LoopRecord Credit :=
      ⟨.finished account upstream, some round, searchUses.zip ran.outcomes, ran.performed,
        recorded⟩
    let locals := { locals with searches := ran.used }
    if ctxDone index then (record, .stop (disconnected range request locals))
    else
      (record, .again { locals with
        working := locals.working ++ [⟨round, searchUses, ran.outcomes⟩]
        estimatedInputTokens := estimate (locals.working ++ [⟨round, searchUses, ran.outcomes⟩])
        presented := locals.presented ++ ran.outcomes })
  else
    let calls := finalCalls print search maxUses locals.searches round.toolUses
    let record : LoopRecord Credit :=
      ⟨.finished account upstream, some round, calls.answered, calls.performed, recorded⟩
    let locals := { locals with searches := calls.used }
    if ctxDone index then (record, .stop (disconnected range request locals))
    else
      (record, .stop (answerLoop range request locals
        (.message (finalContent options display locals.presented round ++ calls.content)
          (mapClaudeStopReason options.letters round.stopReason clientUses.length)
          locals.usage.inTokens locals.usage.outTokens locals.searches)))

def loopRound (index : Nat) (locals : LoopLocals Credit) :
    LoopRecord Credit × RoundEnd (LoopLocals Credit) (LoopEnd Credit) :=
  match call index locals.working locals.estimatedInputTokens with
  | .failed tried err =>
      let locals := { locals with lastAccount := tried.or locals.lastAccount }
      let record : LoopRecord Credit := ⟨.failed tried err, none, [], [], []⟩
      match err with
      | .canceled => (record, .stop (disconnected range request locals))
      | .noAccounts =>
          (record, .stop (endLoop range request locals noAccountError.1 noAccountError.2.2
            (.error noAccountError.1 noAccountError.2.1 noAccountError.2.2)))
      | .other message =>
          (record, .stop (endLoop range request locals 500 message
            (.error 500 (lit "api_error") message)))
  | .finished account upstream =>
      finishedRound options display print search maxUses estimate range request ctxDone index
        locals account upstream (claudeRound options locals.estimatedInputTokens upstream.runs)

structure LoopRun (Credit : Type) [CreditAmount Credit] where
  rounds : List (LoopRecord Credit)
  bookings : List (LoopBooking Credit)
  reply : Option LoopReply

def runClaudeWebSearchLoop (estimatedInputTokens : Nat) : LoopRun Credit :=
  let loop := rounds
    (loopRound options display print search maxUses estimate noAccountError range request call
      ctxDone) (maxUses + 2) 0 ⟨[], estimatedInputTokens, [], 0, .start, none⟩
  ⟨loop.1, loop.1.flatMap LoopRecord.bookings ++ (loop.2.map LoopEnd.bookings).getD [],
    loop.2.map LoopEnd.reply⟩

end Loop

end KiroProxy.ClaudeWebSearch
