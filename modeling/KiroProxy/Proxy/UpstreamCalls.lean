import KiroProxy.Proxy.AccountFailures
import KiroProxy.Proxy.EventStreamOutput
import KiroProxy.Proxy.FlattenedHistory

/-!
# Upstream calls

`callKiroAPIContextOnce` of `proxy/kiro.go`, which tries the endpoints of an account and each
of them twice, and `callWithToolHistoryFallback` of `proxy/tool_history.go` around it. What the
network answers to each stream attempt is given by the number of attempts before it.
-/

namespace KiroProxy.UpstreamCalls

open AccountFailures ApiKeys EventFrames EventStream FlattenedHistory FollowupPayloads GoStrings
open KiroTypes
open ModelMappings (decimal)
open ToolMarkup
open ToolNames (NameMap)

set_option autoImplicit false

section Faults

/-- `ctx.Err`. -/
inductive ContextErr where
  | canceled
  | deadlineExceeded
  deriving DecidableEq

/-- The error of a call. A `network` error is one that the HTTP client returns. -/
inductive CallFault where
  | context (error : ContextErr)
  | request (message : GoString)
  | network (error : ReadError) (message : GoString)
  | client (status : Nat) (message : GoString)
  | quota (quota : UpstreamQuotaError) (message : GoString)
  | answer (message : GoString)
  | stream (error : StreamError)
  | allEndpointsFailed

namespace CallFault

/-- The error that a read or an HTTP exchange ended with. -/
def readError : CallFault → Option ReadError
  | .network error _ => some error
  | .stream (.frame (.read error)) => some error
  | _ => none

def isRetryableStreamError (fault : CallFault) : Bool :=
  match fault with
  | .context _ => false
  | fault =>
      decide (fault.readError ∉ [some .canceled, some .deadlineExceeded, some .timeout])

def isContextCanceledError (fault : CallFault) : Bool :=
  match fault with
  | .context error => decide (error = .canceled)
  | fault => decide (fault.readError = some .canceled)

def isUpstreamClientError : CallFault → Bool
  | .client _ _ => true
  | _ => false

def isUpstreamBadRequest : CallFault → Bool
  | .client status _ => status == 400
  | _ => false

def isStreamIntegrityError : CallFault → Bool
  | .network error _ => decide (error = .idle)
  | .stream (.frame (.read error)) => decide (error = .idle)
  | .stream (.upstream _) => false
  | .stream _ => true
  | _ => false

/-- `Error`; the texts of the errors of a stream are a parameter. -/
def message (errorText : StreamError → GoString) : CallFault → GoString
  | .context .canceled => lit "context canceled"
  | .context .deadlineExceeded => lit "context deadline exceeded"
  | .request message => message
  | .network _ message => message
  | .client _ message => message
  | .quota _ message => message
  | .answer message => message
  | .stream error => errorText error
  | .allEndpointsFailed => lit "all endpoints failed"

end CallFault

end Faults

section Endpoints

def kiroEndpoints : List GoString := [lit "Kiro IDE", lit "CodeWhisperer", lit "AmazonQ"]

def kiroCLIEndpoint : GoString := lit "Kiro CLI"

/-- The endpoint at an index, and the others behind it. -/
def endpointFirst (fallback : Bool) (primary : Nat) : List GoString :=
  (kiroEndpoints[primary]?).toList ++ if fallback then kiroEndpoints.eraseIdx primary else []

def getSortedEndpoints (preferred : GoString) (fallback : Bool) : List GoString :=
  if preferred = lit "kiro" then endpointFirst fallback 0
  else if preferred = lit "codewhisperer" then endpointFirst fallback 1
  else if preferred = lit "amazonq" then endpointFirst fallback 2
  else kiroEndpoints

/-- What the configuration and the account say at a call. -/
structure CallSettings where
  isAPIKeyAccount : Bool
  preferredEndpoint : GoString
  endpointFallback : Bool
  toolMarkupRescueEnabled : Bool

def endpointsForAccount (settings : CallSettings) : List GoString :=
  if settings.isAPIKeyAccount then [kiroCLIEndpoint]
  else getSortedEndpoints settings.preferredEndpoint settings.endpointFallback

end Endpoints

section Network

/-- What an endpoint answers to a request; `retryFor` is read from the `Retry-After` header. -/
inductive Answer where
  | failed (error : ReadError) (message : GoString)
  | status (code : Nat) (body : GoString) (retryFor : Int)
  | stream (body : Body)

/-- A stream attempt: what `ctx.Err` says before and after it, whether the request can be
made, what is answered, and how the wait before the next attempt ends. -/
structure StreamAttempt where
  contextErr : Option ContextErr
  requestErr : Option GoString
  answer : Answer
  contextErrAfter : Option ContextErr
  waitErr : Option ContextErr
  lenient : Bool

/-- What each stream attempt of a request meets, by the attempts before it. -/
structure Upstream where
  attempt : Nat → StreamAttempt
  settings : Nat → CallSettings

/-- How streams are read: the parameters of the parser, with the ids made in each attempt. -/
structure StreamReader (Credit : Type) where
  letters : Letters
  unmarshal : GoString → Option Json
  reports : EventReports Credit
  newID : Nat → Nat → GoString
  errorText : StreamError → GoString

end Network

section Callbacks

/-- The types of a schema's properties that have one. -/
def schemaPropertyTypes (schema : Json) : ParamTypes :=
  match schema with
  | .obj fields =>
      match JsonFields.get fields (lit "properties") with
      | some (.obj props) =>
          props.filterMap fun (key, prop) =>
            match prop with
            | .obj propObj =>
                match JsonFields.get propObj (lit "type") with
                | some (.str type) => some (key, type)
                | some (.arr types) =>
                    -- A nullable field still has exactly one concrete type.
                    match types.filterMap fun
                      | .str type => if type ≠ lit "null" then some type else none
                      | _ => none with
                    | [type] => some (key, type)
                    | _ => none
                | _ => none
            | _ => none
      | _ => []
  | _ => []

/-- A later declaration of a name replaces an earlier one. -/
def declaredToolParamTypes (payload : KiroPayload) : DeclaredTools :=
  ((currentTools payload).filterMap fun tool =>
    if tool.name ≠ [] then some (tool.name, schemaPropertyTypes tool.inputSchema)
    else none).reverse

/-- The callbacks of a handler, which sets them all. -/
def streamCallback (settings : CallSettings) (payload : KiroPayload) : KiroStreamCallback where
  onText := true
  onToolUse := true
  onComplete := true
  onCredits := true
  onContextUsage := true
  onStopReason := true
  onCacheUsage := true
  markupTools :=
    if settings.toolMarkupRescueEnabled then declaredToolParamTypes payload else []

/-- A call comes back under the name the client knows. -/
def clientCallback {Credit : Type} (nameMap : NameMap) : CallbackRun Credit → CallbackRun Credit
  | .toolUse use => .toolUse { use with name := (nameMap.lookup use.name).getD use.name }
  | callback => callback

end Callbacks

section Attempts

/-- What happens in a request, in order: stream attempts, and what they lead to. -/
inductive Step (Item : Type) where
  | attempt
  | item (item : Item)

/-- The quota and client errors are kept over the endpoints. -/
structure Call (Credit : Type) where
  attempts : Nat
  steps : List (Step (CallbackRun Credit))
  quotaErr : Option (UpstreamQuotaError × GoString)
  clientErr : Option (Nat × GoString)
  lastErr : Option CallFault

/-- How a stream attempt leaves the two loops. -/
inductive Next where
  | sameEndpoint
  | nextEndpoint
  | giveUp
  | ended (error : Option CallFault)

/-- `upstreamQuotaError.merge`: exhaustion outweighs a throttle. -/
def mergeQuota (before : Option (UpstreamQuotaError × GoString))
    (next : UpstreamQuotaError × GoString) : UpstreamQuotaError × GoString :=
  match before with
  | none => next
  | some (quota, message) =>
      (⟨max quota.retryFor next.1.retryFor, quota.throttled && next.1.throttled⟩,
        if quota.retryFor < next.1.retryFor ∨ (quota.throttled && !next.1.throttled) then next.2
        else message)

variable {Credit : Type} [CreditAmount Credit] (upstream : Upstream)
  (reader : StreamReader Credit) (settings : CallSettings) (payload : KiroPayload)

def startCall (attempts : Nat) : Call Credit := ⟨attempts, [], none, none, none⟩

/-- An answer that is not a stream. -/
def statusAnswered (endpoint : GoString) (code : Nat) (body : GoString) (retryFor : Int)
    (call : Call Credit) : Call Credit × Next :=
  let message :=
    lit "HTTP " ++ decimal code ++ lit " from " ++ endpoint ++ lit ": " ++ body
  if isClientHTTPStatus code then
    ({ call with
        clientErr := some (code, message)
        lastErr := some (.client code message) }, .nextEndpoint)
  else if code = 429 then
    let throttled := !isUsageQuotaExhaustedMessage reader.letters body
    let quotaErr := mergeQuota call.quotaErr (⟨retryFor, throttled⟩, message)
    ({ call with
        quotaErr := some quotaErr
        lastErr := some (.quota quotaErr.1 quotaErr.2) }, .nextEndpoint)
  else if code = 401 ∨ code = 403 ∨ code = 402 then
    ({ call with lastErr := some (.answer message) }, .ended (some (.answer message)))
  else ({ call with lastErr := some (.answer message) }, .nextEndpoint)

/-- The stream of an attempt, read to its end. -/
def readAttempt (index : Nat) (lenient : Bool) (body : Body) : EventStream.StreamRun Credit :=
  parseEventStreamTracked reader.letters reader.unmarshal reader.reports
    (streamCallback settings payload) (reader.newID index) lenient body

/-- The callbacks that the stream of an attempt runs. -/
def heard (index : Nat) (lenient : Bool) (body : Body) : List (CallbackRun Credit) :=
  (readAttempt reader settings payload index lenient body).outputs.map
    (clientCallback payload.toolNameMap)

/-- Once a callback ran, only the caller can decide to retry. -/
def streamFailed (attempt : StreamAttempt) (hasSameEndpointRetry hasEndpointFallback : Bool)
    (emitted : Bool) (error : CallFault) : Next :=
  match attempt.contextErrAfter with
  | some contextErr => .ended (some (.context contextErr))
  | none =>
      if emitted || !error.isRetryableStreamError then .ended (some error)
      else if !hasSameEndpointRetry && !hasEndpointFallback then .giveUp
      else
        match attempt.waitErr with
        | some waitErr => .ended (some (.context waitErr))
        | none => if hasSameEndpointRetry then .sameEndpoint else .nextEndpoint

def streamAnswered (index : Nat) (attempt : StreamAttempt)
    (hasSameEndpointRetry hasEndpointFallback : Bool) (body : Body) (call : Call Credit) :
    Call Credit × Next :=
  let run := readAttempt reader settings payload index attempt.lenient body
  let call := { call with
    steps := call.steps ++
      (heard reader settings payload index attempt.lenient body).map Step.item }
  match run.fault with
  | none => (call, .ended none)
  | some error =>
      ({ call with lastErr := some (.stream error) },
        streamFailed attempt hasSameEndpointRetry hasEndpointFallback run.state.emitted
          (.stream error))

def requestFailed (attempt : StreamAttempt) (error : CallFault) : Next :=
  match attempt.contextErrAfter with
  | some contextErr => .ended (some (.context contextErr))
  | none => if !error.isRetryableStreamError then .ended (some error) else .nextEndpoint

/-- One pass of the inner loop. -/
def streamAttempt (endpoint : GoString) (hasSameEndpointRetry hasEndpointFallback : Bool)
    (call : Call Credit) : Call Credit × Next :=
  let attempt := upstream.attempt call.attempts
  let call' := { call with attempts := call.attempts + 1, steps := call.steps ++ [.attempt] }
  match attempt.contextErr, attempt.requestErr with
  | some error, _ => (call', .ended (some (.context error)))
  | none, some message => ({ call' with lastErr := some (.request message) }, .nextEndpoint)
  | none, none =>
      match attempt.answer with
      | .failed error message =>
          ({ call' with lastErr := some (.network error message) },
            requestFailed attempt (.network error message))
      | .status code body retryFor => statusAnswered reader endpoint code body retryFor call'
      | .stream body =>
          streamAnswered reader settings payload call.attempts attempt hasSameEndpointRetry
            hasEndpointFallback body call'

/-- The stream attempts left on an endpoint. -/
def endpointAttempts (endpoint : GoString) (hasEndpointFallback : Bool) :
    Nat → Call Credit → Call Credit × Next
  | 0, call => (call, .nextEndpoint)
  | left + 1, call =>
      match streamAttempt upstream reader settings payload endpoint (decide (0 < left))
        hasEndpointFallback call with
      | (call, .sameEndpoint) => endpointAttempts endpoint hasEndpointFallback left call
      | tried => tried

def maxStreamAttemptsPerEndpoint : Nat := 2

/-- The error of a call that no endpoint answered. -/
def unanswered (call : Call Credit) : CallFault :=
  match call.quotaErr, call.clientErr, call.lastErr with
  | some (quota, message), _, _ => .quota quota message
  | none, some (status, message), _ => .client status message
  | none, none, some error => error
  | none, none, none => .allEndpointsFailed

def endpointLoop : List GoString → Call Credit → Call Credit × Option CallFault
  | [], call => (call, some (unanswered call))
  | endpoint :: endpoints, call =>
      match endpointAttempts upstream reader settings payload endpoint (!endpoints.isEmpty)
        maxStreamAttemptsPerEndpoint call with
      | (call, .ended error) => (call, error)
      | (call, .giveUp) => (call, some (unanswered call))
      | (call, _) => endpointLoop endpoints call

end Attempts

section Calls

variable {Credit : Type} [CreditAmount Credit] (upstream : Upstream)
  (reader : StreamReader Credit)

/-- What a call did: the steps, the error, and what it leaves behind. -/
structure Called (Credit : Type) where
  attempts : Nat
  steps : List (Step (CallbackRun Credit))
  error : Option CallFault
  payload : KiroPayload

def callKiroAPIContextOnce (payload : KiroPayload) (attempts : Nat) : Called Credit :=
  let settings := upstream.settings attempts
  let called := endpointLoop upstream reader settings payload (endpointsForAccount settings)
    (startCall attempts)
  ⟨called.1.attempts, called.1.steps, called.2, payload⟩

/-- A bad request is tried again with a narrated history. -/
def callWithToolHistoryFallback (call : KiroPayload → Nat → Called Credit)
    (payload : KiroPayload) (attempts : Nat) : Called Credit :=
  let first := call payload attempts
  if !(first.error.map CallFault.isUpstreamBadRequest).getD false then first
  else
    match flattenStructuredToolHistory payload with
    | none => first
    | some narrated =>
        let second := call narrated first.attempts
        { second with steps := first.steps ++ second.steps }

def callKiroAPIContext (payload : KiroPayload) (attempts : Nat) : Called Credit :=
  callWithToolHistoryFallback (callKiroAPIContextOnce upstream reader) payload attempts

end Calls

end KiroProxy.UpstreamCalls
