import KiroProxy.Proxy.CallOutput
import KiroProxy.Proxy.ClaudeUsage
import KiroProxy.Proxy.UsageAccounting

/-!
# The handling of a request

The loops that `handleClaudeStream`, `handleClaudeNonStream` and `handleOpenAIStream` of
`proxy/handler.go` share: accounts are picked from the pool, each is tried some times, and every
exit is booked. What the pool answers to a pick and the credentials to an attempt is given by
the number of picks and attempts before; the waits between attempts are left out.
-/

namespace KiroProxy.RequestHandling

open AccountFailures (isTerminalAccountErrorMessage)
open Accounts
open ApiKeys (CreditAmount)
open ClaudeUsage EventStream FollowupPayloads GoStrings Pool
open PromptCache (PromptCacheUsage)
open UpstreamCalls
open UsageAccounting (ApiKeyUsageReservation)

set_option autoImplicit false

section Retries

structure RequestRetryPlan where
  maxPerAccount : Nat
  maxPerRequest : Nat
  account : 1 ≤ maxPerAccount
  request : 1 ≤ maxPerRequest

def canRetrySameAccount (letters : Letters) (errorText : StreamError → GoString)
    (plan : RequestRetryPlan) (error : CallFault) (accountAttempt totalAttempts : Nat) : Bool :=
  if error.isUpstreamClientError then false
  else if plan.maxPerAccount ≤ accountAttempt + 1 ∨ plan.maxPerRequest ≤ totalAttempts ∨
      error.isContextCanceledError then false
  else
    error.isStreamIntegrityError ||
      !isTerminalAccountErrorMessage letters (error.message errorText)

end Retries

section Books

/-- A final record of the request log. -/
structure RequestRecord (Credit : Type) where
  accountID : GoString
  apiKeyID : GoString
  apiKey : GoString
  email : GoString
  model : GoString
  inputTokens : Int
  outputTokens : Int
  credits : Credit
  success : Bool
  status : Nat
  message : GoString
  cache : CacheTokenCounts

/-- What a request writes, in order. `picked` and `called` stand for the pick of an account and
a call made with it. -/
inductive Booking (Credit : Type) where
  | picked (accountID : GoString)
  | called (accountID : GoString) (answered : Bool)
  | attemptError (accountID message : GoString)
  | request (record : RequestRecord Credit)
  | recordSuccess (accountID : GoString)
  | remembered (accountID : GoString)
  | recordOutcome (accountID : GoString) (success : Bool) (tokens : Int) (credits : Credit)
  | finalized (id : GoString) (reservedTokens : Int64) (reservedCredits : Credit)
      (actualTokens : Int) (actualCredits : Credit)
  | released (id : GoString) (reservedTokens : Int64) (reservedCredits : Credit)

variable {Credit : Type}

/-- A reservation reaches the store once: `release` and `finalize` return when it is done. -/
def settle (operation : ApiKeyUsageReservation Credit → Booking Credit)
    (reservation : Option (ApiKeyUsageReservation Credit)) :
    Option (ApiKeyUsageReservation Credit) × List (Booking Credit) :=
  match reservation with
  | none => (none, [])
  | some reservation =>
      if reservation.done || reservation.id == [] then (some reservation, [])
      else (some { reservation with done := true }, [operation reservation])

def releaseBooking (reservation : ApiKeyUsageReservation Credit) : Booking Credit :=
  .released reservation.id reservation.reservedTokens reservation.reservedCredits

def finalizeBooking (actualTokens : Int) (actualCredits : Credit)
    (reservation : ApiKeyUsageReservation Credit) : Booking Credit :=
  .finalized reservation.id reservation.reservedTokens reservation.reservedCredits actualTokens
    actualCredits

end Books

section Answers

structure OpenAITokenDetails where
  cachedTokens : Int
  cacheWriteTokens : Int
  deriving DecidableEq

/-- What an attempt meets before the call: the credentials, `ctx.Err` behind them, and what the
prompt cache says of the request and, given the billed input, of an OpenAI payload. -/
structure Attempt where
  tokenErr : Option CallFault
  contextErr : Option ContextErr
  cacheUsage : PromptCacheUsage
  cacheDetails : Int → Option OpenAITokenDetails

/-- What a finished answer is billed. -/
structure Bill (Credit : Type) where
  inputTokens : Int
  outputTokens : Int
  credits : Credit
  cache : CacheTokenCounts

/-- How a handler answers from the callbacks of an attempt. An attempt starts with nothing sent,
what was sent stays sent, and an answer that has not started has sent nothing. -/
structure Responder (Credit Answer Event : Type) where
  start : Bool → Attempt → Answer
  onCallback : Answer → CallbackRun Credit → Answer
  sent : Answer → List Event
  started : Answer → Bool
  bill : Answer → Bill Credit
  succeed : Answer → Answer
  fail : Answer → GoString → Answer
  unsent : ∀ messageStarted attempt, sent (start messageStarted attempt) = []
  callback_keeps : ∀ answer callback, sent answer <+: sent (onCallback answer callback)
  succeed_keeps : ∀ answer, sent answer <+: sent (succeed answer)
  fail_keeps : ∀ answer message, sent answer <+: sent (fail answer message)
  silent : ∀ attempt (callbacks : List (CallbackRun Credit)),
    started (callbacks.foldl onCallback (start false attempt)) = false →
      sent (callbacks.foldl onCallback (start false attempt)) = []

/-- An event of the answer, or a plain error in its place. -/
inductive Reply (Event : Type) where
  | event (event : Event)
  | refused (status : Nat) (errType message : GoString)

variable {Credit Answer Event : Type} (responder : Responder Credit Answer Event)

/-- The events that were sent since. -/
def newlySent (before after : Answer) : List (Step (Reply Event)) :=
  ((responder.sent after).drop (responder.sent before).length).map fun event =>
    .item (.event event)

/-- The steps of a call, with what the client is sent at each callback. -/
def replay : Answer → List (Step (CallbackRun Credit)) → Answer × List (Step (Reply Event))
  | answer, [] => (answer, [])
  | answer, .attempt :: steps =>
      let rest := replay answer steps
      (rest.1, .attempt :: rest.2)
  | answer, .item callback :: steps =>
      let next := responder.onCallback answer callback
      let rest := replay next steps
      (rest.1, newlySent responder answer next ++ rest.2)

end Answers

section Requests

structure Pick (Credit : Type) where
  pool : AccountPool Credit
  preferred : GoString
  now : Time
  allowOverUsage : Bool

/-- What a request meets while it is handled. -/
structure Surroundings (Credit : Type) where
  letters : Letters
  errorText : StreamError → GoString
  plan : RequestRetryPlan
  pick : Nat → Pick Credit
  attempt : Nat → Attempt
  offersModel : Bool

/-- A request for a handler; `quotedModel` is the model as `%q` prints it, and a streaming
handler needs a response that can be flushed. -/
structure HandledRequest (Credit : Type) where
  payload : KiroPayload
  model : GoString
  quotedModel : GoString
  reservation : Option (ApiKeyUsageReservation Credit)
  flushes : Bool

/-- The names of the errors that the client may get. -/
structure ErrorTypes where
  serverErrType : GoString
  notFoundErrType : GoString

def claudeErrors : ErrorTypes := ⟨lit "api_error", lit "not_found_error"⟩

def openAIErrors : ErrorTypes := ⟨lit "server_error", lit "invalid_request_error"⟩

structure RequestRun (Credit Event : Type) where
  payload : KiroPayload
  excluded : List GoString
  lastErr : Option CallFault
  lastAccount : Option (Account Credit)
  started : Bool
  totalAttempts : Nat
  upstreamAttempts : Nat
  reservation : Option (ApiKeyUsageReservation Credit)
  steps : List (Step (Reply Event))
  bookings : List (Booking Credit)

/-- How a pass of the inner loop goes on. -/
inductive Exit where
  | sameAccount
  | nextAccount
  | returned

variable {Credit Answer Event : Type} [CreditAmount Credit]

def startRun (request : HandledRequest Credit) : RequestRun Credit Event where
  payload := request.payload
  excluded := []
  lastErr := none
  lastAccount := none
  started := false
  totalAttempts := 0
  upstreamAttempts := 0
  reservation := request.reservation
  steps := []
  bookings := []

def RequestRun.book (run : RequestRun Credit Event) (bookings : List (Booking Credit)) :
    RequestRun Credit Event :=
  { run with bookings := run.bookings ++ bookings }

def RequestRun.send (run : RequestRun Credit Event) (steps : List (Step (Reply Event))) :
    RequestRun Credit Event :=
  { run with steps := run.steps ++ steps }

def RequestRun.settle (run : RequestRun Credit Event)
    (operation : ApiKeyUsageReservation Credit → Booking Credit) : RequestRun Credit Event :=
  { run with
    reservation := (RequestHandling.settle operation run.reservation).1
    bookings := run.bookings ++ (RequestHandling.settle operation run.reservation).2 }

def upstreamFailureStatus : CallFault → Nat
  | .client status _ => status
  | .quota _ _ => 429
  | _ => 500

/-- `sendClaudeUpstreamError` and `sendOpenAIUpstreamError`. -/
def upstreamErrorKind (errors : ErrorTypes) (error : CallFault) : GoString :=
  if upstreamFailureStatus error = 429 then lit "rate_limit_error"
  else if error.isUpstreamClientError then lit "invalid_request_error"
  else errors.serverErrType

variable (surroundings : Surroundings Credit) (request : HandledRequest Credit)

/-- `recordFinalRequestForApiKey` of a request that failed: the record, and the outcome of the
account it is counted against. -/
def recordFinalRequest (account : Option (Account Credit)) (status : Nat) (message : GoString) :
    List (Booking Credit) :=
  let accountID := (account.map fun account => account.id).getD []
  Booking.request
    { accountID := accountID
      apiKeyID := (request.reservation.map fun reservation => reservation.id).getD []
      apiKey := (request.reservation.map fun reservation => reservation.key).getD []
      email := (account.map fun account => account.email).getD []
      model := request.model
      inputTokens := 0
      outputTokens := 0
      credits := 0
      success := false
      status := status
      message := message
      cache := ⟨0, 0⟩ } ::
    if accountID = [] then [] else [.recordOutcome accountID false 0 0]

def recordClientDisconnect (account : Account Credit) : List (Booking Credit) :=
  recordFinalRequest request (some account) 499 (lit "client disconnected")

/-- `recordObservedSuccess` and what is written with it. -/
def recordObservedSuccess (account : Account Credit) (bill : Bill Credit) :
    List (Booking Credit) :=
  [.request
    { accountID := account.id
      apiKeyID := (request.reservation.map fun reservation => reservation.id).getD []
      apiKey := (request.reservation.map fun reservation => reservation.key).getD []
      email := account.email
      model := request.model
      inputTokens := bill.inputTokens
      outputTokens := bill.outputTokens
      credits := bill.credits
      success := true
      status := 200
      message := []
      cache := bill.cache },
    .recordSuccess account.id, .remembered account.id,
    .recordOutcome account.id true (bill.inputTokens + bill.outputTokens) bill.credits]

/-- A failed attempt that the client saw nothing of. -/
def attemptFailed (account : Account Credit) (accountAttempt : Nat) (error : CallFault)
    (run : RequestRun Credit Event) : RequestRun Credit Event × Exit :=
  ({ run.book [.attemptError account.id (error.message surroundings.errorText)] with
      lastErr := some error
      lastAccount := some account },
    if canRetrySameAccount surroundings.letters surroundings.errorText surroundings.plan error
        accountAttempt run.totalAttempts then .sameAccount
    else .nextAccount)

variable (responder : Responder Credit Answer Event)

/-- The call of an attempt has ended. -/
def callEnded (account : Account Credit) (accountAttempt : Nat) (answer : Answer)
    (error : Option CallFault) (run : RequestRun Credit Event) :
    RequestRun Credit Event × Exit :=
  match error with
  | some error =>
      if error.isContextCanceledError then
        (run.book (recordClientDisconnect request account), .returned)
      else
        let failed := attemptFailed surroundings account accountAttempt error run
        if !responder.started answer then failed
        else
          -- The client already holds part of the answer.
          let message := error.message surroundings.errorText
          ((failed.1.book (recordFinalRequest request (some account) 500 message)).send
            (newlySent responder answer (responder.fail answer message)), .returned)
  | none =>
      let bill := responder.bill answer
      (((run.settle (finalizeBooking (bill.inputTokens + bill.outputTokens) bill.credits)).book
        (recordObservedSuccess request account bill)).send
          (newlySent responder answer (responder.succeed answer)), .returned)

variable (call : KiroPayload → Nat → Called Credit)

/-- One pass of the inner loop. -/
def tryAccount (account : Account Credit) (accountAttempt : Nat)
    (run : RequestRun Credit Event) : RequestRun Credit Event × Exit :=
  let attempt := surroundings.attempt run.totalAttempts
  let run := { run with totalAttempts := run.totalAttempts + 1 }
  match attempt.tokenErr with
  | some error =>
      match attempt.contextErr with
      | some _ => (run.book (recordClientDisconnect request account), .returned)
      | none => attemptFailed surroundings account accountAttempt error run
  | none =>
      let called := call run.payload run.upstreamAttempts
      let replayed := replay responder (responder.start run.started attempt) called.steps
      callEnded surroundings request responder account accountAttempt replayed.1 called.error
        { run.send replayed.2 with
          payload := called.payload
          upstreamAttempts := called.attempts
          started := responder.started replayed.1
          bookings := run.bookings ++ [.called account.id called.error.isNone] }

/-- The attempts left on an account; whether the handler has returned. -/
def accountLoop (account : Account Credit) :
    Nat → RequestRun Credit Event → RequestRun Credit Event × Bool
  | 0, run => (run, false)
  | left + 1, run =>
      if surroundings.plan.maxPerRequest ≤ run.totalAttempts then (run, false)
      else
        match tryAccount surroundings request responder call account
          (surroundings.plan.maxPerAccount - (left + 1)) run with
        | (run, .sameAccount) => accountLoop account left run
        | (run, .nextAccount) => (run, false)
        | (run, .returned) => (run, true)

/-- `pickAccount`. An account is given up before the next pick, so the excluded ones count the
picks. -/
def pickAccount (run : RequestRun Credit Event) : Option (Account Credit) :=
  let pick := surroundings.pick run.excluded.length
  (getPreferredForModelExcluding pick.pool pick.preferred
    { toLower := surroundings.letters.toLower
      model := request.model
      excluded := run.excluded
      now := pick.now
      allowOverUsage := pick.allowOverUsage }).1

/-- The outer loop. Every account takes an attempt, so there are no more rounds than attempts. -/
def requestLoop : Nat → RequestRun Credit Event → RequestRun Credit Event × Bool
  | 0, run => (run, false)
  | rounds + 1, run =>
      if surroundings.plan.maxPerRequest ≤ run.totalAttempts ∨
          (run.lastErr.map CallFault.isUpstreamClientError).getD false then (run, false)
      else
        match pickAccount surroundings request run with
        | none => (run, false)
        | some account =>
            match accountLoop surroundings request responder call account
              surroundings.plan.maxPerAccount (run.book [.picked account.id]) with
            | (run, true) => (run, true)
            | (run, false) =>
                requestLoop rounds { run with excluded := run.excluded ++ [account.id] }

def noAccountMessage : GoString :=
  if surroundings.offersModel then lit "No available accounts"
  else lit "model " ++ request.quotedModel ++ lit " is not available on any account"

/-- No attempt has answered. -/
def requestFailed (errors : ErrorTypes) (run : RequestRun Credit Event) :
    RequestRun Credit Event :=
  match run.lastErr with
  | none =>
      let status := if surroundings.offersModel then 503 else 404
      let errType :=
        if surroundings.offersModel then errors.serverErrType else errors.notFoundErrType
      let message := noAccountMessage surroundings request
      (run.book (recordFinalRequest request none status message)).send
        [.item (.refused status errType message)]
  | some error =>
      let status := upstreamFailureStatus error
      let message := error.message surroundings.errorText
      (run.book (recordFinalRequest request run.lastAccount status message)).send
        [.item (.refused status (upstreamErrorKind errors error) message)]

def notFlushed (errors : ErrorTypes) (run : RequestRun Credit Event) :
    RequestRun Credit Event :=
  let message := lit "Streaming not supported"
  (run.book (recordFinalRequest request none 500 message)).send
    [.item (.refused 500 errors.serverErrType message)]

/-- A whole handler; the reservation is released when it returns. -/
def handleRequest (errors : ErrorTypes) : RequestRun Credit Event :=
  (if !request.flushes then notFlushed request errors (startRun request)
  else
    match requestLoop surroundings request responder call surroundings.plan.maxPerRequest
      (startRun request) with
    | (run, true) => run
    | (run, false) => requestFailed surroundings request errors run).settle releaseBooking

end Requests

end KiroProxy.RequestHandling
