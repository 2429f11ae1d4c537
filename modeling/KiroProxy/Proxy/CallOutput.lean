import KiroProxy.Proxy.UpstreamCalls

/-!
# The output of an upstream call

However a call goes on over its attempts, what its callbacks show comes from the stream of the
last one.
-/

namespace KiroProxy.UpstreamCalls

open ApiKeys EventFrames EventStream FlattenedHistory FollowupPayloads GoStrings KiroTypes

set_option autoImplicit false

variable {Credit : Type} [CreditAmount Credit]

/-- Stream attempts of which none showed anything. -/
def tries {Item : Type} (count : Nat) : List (Step Item) := List.replicate count .attempt

theorem tries_then {Item : Type} (earlier later : Nat) :
    (tries earlier ++ tries later : List (Step Item)) = tries (earlier + later) :=
  (List.replicate_add earlier later Step.attempt).symm

section Attempts

variable (upstream : Upstream) (reader : StreamReader Credit) (payload : KiroPayload)

/-- What an attempt showed: nothing, or what its stream ran. -/
def Shown (index : Nat) (callbacks : List (CallbackRun Credit)) : Prop :=
  callbacks = [] ∨ ∃ settings lenient body,
    (upstream.attempt index).answer = .stream body ∧
      callbacks = heard reader settings payload index lenient body

/-- The steps since a number of attempts: silent attempts, and what the last one showed. -/
structure LastShows (before after : Nat) (steps : List (Step (CallbackRun Credit)))
    (callbacks : List (CallbackRun Credit)) : Prop where
  attempted : before < after
  steps : steps = tries (after - before) ++ callbacks.map Step.item
  shown : Shown upstream reader payload (after - 1) callbacks

def Silent (before after : Nat) (steps : List (Step (CallbackRun Credit))) : Prop :=
  before ≤ after ∧ steps = tries (after - before)

omit [CreditAmount Credit] in
theorem silent_attempt (before after : Nat) (steps : List (Step (CallbackRun Credit)))
    (silent : Silent before after steps) :
    Silent before (after + 1) (steps ++ [.attempt]) := by
  refine ⟨Nat.le_succ_of_le silent.1, ?_⟩
  rw [silent.2, show after + 1 - before = (after - before) + 1 by have := silent.1; omega]
  exact tries_then _ 1

/-- A stream that failed without output has run no callback at all. -/
theorem silent_stream (settings : CallSettings) (index : Nat) (lenient : Bool) (body : Body)
    (failed : (readAttempt reader settings payload index lenient body).fault ≠ none)
    (silent : (readAttempt reader settings payload index lenient body).state.emitted = false) :
    heard reader settings payload index lenient body = [] := by
  obtain ⟨nothing, _, shown, reported, outputs, shows_, _, _, _, complete⟩ :=
    parse_output_contract reader.letters reader.unmarshal reader.reports
      (streamCallback settings payload) (reader.newID index) lenient body
  have none : shown = [] := by
    rw [List.eq_nil_iff_forall_not_mem]
    intro ran member
    have output := shows_ ran member
    have hidden := nothing silent ran
      (outputs ▸ List.mem_append_left reported member)
    rw [output] at hidden
    exact absurd hidden.symm Bool.false_ne_true
  have unreported : reported = [] := by
    by_contra some_
    exact failed (complete some_).1
  unfold heard readAttempt
  rw [outputs, none, unreported]
  rfl

/-- A pass of the inner loop: it goes on only in silence. -/
structure Passed (before : Nat) (result : Call Credit × Next) : Prop where
  goesOn : (∀ error, result.2 ≠ .ended error) → Silent before result.1.attempts result.1.steps
  ended : ∃ callbacks,
    LastShows upstream reader payload before result.1.attempts result.1.steps callbacks ∧
      ∀ status message, result.2 = .ended (some (.client status message)) → callbacks = []

theorem passed_silent (before : Nat) (result : Call Credit × Next)
    (attempted : before < result.1.attempts)
    (silent : Silent before result.1.attempts result.1.steps) :
    Passed upstream reader payload before result := by
  refine ⟨fun _ => silent, [], ⟨attempted, ?_, Or.inl rfl⟩, fun _ _ _ => rfl⟩
  rw [silent.2, List.map_nil, List.append_nil]

omit [CreditAmount Credit] in
theorem status_keeps (endpoint : GoString) (code : Nat) (body : GoString) (retryFor : Int)
    (call : Call Credit) :
    (statusAnswered reader endpoint code body retryFor call).1.attempts = call.attempts ∧
      (statusAnswered reader endpoint code body retryFor call).1.steps = call.steps := by
  unfold statusAnswered
  split_ifs <;> exact ⟨rfl, rfl⟩

theorem stream_failed_emitted (attempt : StreamAttempt) (same other : Bool) (error : CallFault) :
    ∃ fault, streamFailed attempt same other true error = .ended (some fault) := by
  unfold streamFailed
  cases attempt.contextErrAfter with
  | some contextErr => exact ⟨_, rfl⟩
  | none => exact ⟨error, rfl⟩

/-- A stream's failure is no client error. -/
theorem stream_failed_client (attempt : StreamAttempt) (same other emitted : Bool)
    (error : StreamError) (status : Nat) (message : GoString) :
    streamFailed attempt same other emitted (.stream error) ≠
      .ended (some (.client status message)) := by
  unfold streamFailed
  intro ended
  cases after : attempt.contextErrAfter with
  | some contextErr => simp [after] at ended
  | none =>
      cases wait : attempt.waitErr with
      | some waitErr =>
          simp only [after, wait] at ended
          split_ifs at ended
          · simp at ended
          · simp at ended
      | none =>
          simp only [after, wait] at ended
          split_ifs at ended
          simp at ended

theorem stream_passed (settings : CallSettings) (index before : Nat) (attempt : StreamAttempt)
    (same other : Bool) (body : Body) (call : Call Credit) (counted : call.attempts = index + 1)
    (attempted : before < call.attempts) (silent : Silent before call.attempts call.steps)
    (answered : (upstream.attempt index).answer = .stream body) :
    Passed upstream reader payload before
      (streamAnswered reader settings payload index attempt same other body call) := by
  have shows_ : LastShows upstream reader payload before call.attempts
      (call.steps ++ (heard reader settings payload index attempt.lenient body).map Step.item)
      (heard reader settings payload index attempt.lenient body) := by
    refine ⟨attempted, by rw [silent.2], Or.inr ⟨settings, attempt.lenient, body, ?_, ?_⟩⟩
    · rw [counted]
      exact answered
    · rw [counted]
      rfl
  unfold streamAnswered
  cases fault : (readAttempt reader settings payload index attempt.lenient body).fault with
  | none =>
      simp only [fault]
      refine ⟨fun goesOn => absurd rfl (goesOn none), _, shows_, ?_⟩
      intro status message ended
      simp at ended
  | some error =>
      simp only [fault]
      constructor
      · intro goesOn
        cases emitted : (readAttempt reader settings payload index attempt.lenient
            body).state.emitted with
        | true =>
            obtain ⟨fault, ends⟩ := stream_failed_emitted attempt same other (.stream error)
            simp only [emitted] at goesOn
            exact absurd ends (goesOn _)
        | false =>
            have nothing := silent_stream reader payload settings index attempt.lenient body
              (fault ▸ Option.some_ne_none error) emitted
            simp only [nothing, List.map_nil, List.append_nil]
            exact silent
      · exact ⟨_, shows_, fun status message ended =>
          absurd ended (stream_failed_client attempt same other _ error status message)⟩

theorem attempt_passed (settings : CallSettings) (before : Nat) (endpoint : GoString)
    (same other : Bool) (call : Call Credit) (silent : Silent before call.attempts call.steps) :
    Passed upstream reader payload before
      (streamAttempt upstream reader settings payload endpoint same other call) := by
  have next := silent_attempt before call.attempts call.steps silent
  have attempted : before < call.attempts + 1 := Nat.lt_succ_of_le silent.1
  unfold streamAttempt
  simp only
  cases (upstream.attempt call.attempts).contextErr with
  | some error => exact passed_silent upstream reader payload before _ attempted next
  | none =>
      cases (upstream.attempt call.attempts).requestErr with
      | some message => exact passed_silent upstream reader payload before _ attempted next
      | none =>
          cases answered : (upstream.attempt call.attempts).answer with
          | failed error message =>
              exact passed_silent upstream reader payload before _ attempted next
          | status code body retryFor =>
              have kept := status_keeps reader endpoint code body retryFor
                { call with
                  attempts := call.attempts + 1
                  steps := call.steps ++ [.attempt] }
              apply passed_silent
              · rw [kept.1]
                exact attempted
              · rw [kept.1, kept.2]
                exact next
          | stream body =>
              exact stream_passed upstream reader payload settings call.attempts before _ same
                other body _ rfl attempted next answered

theorem endpoint_passed (settings : CallSettings) (before : Nat) (endpoint : GoString)
    (other : Bool) (left : Nat) (call : Call Credit)
    (silent : Silent before call.attempts call.steps) :
    Passed upstream reader payload before
      (endpointAttempts upstream reader settings payload endpoint other (left + 1) call) := by
  induction left generalizing call with
  | zero =>
      have passed := attempt_passed upstream reader payload settings before endpoint
        (decide (0 < 0)) other call silent
      rw [endpointAttempts]
      rcases tried : streamAttempt upstream reader settings payload endpoint (decide (0 < 0)) other
        call with ⟨after, next⟩
      rw [tried] at passed
      cases next with
      | sameEndpoint =>
          have quiet := passed.goesOn (fun error same => by cases same)
          obtain ⟨callbacks, shows_, _⟩ := passed.ended
          exact passed_silent upstream reader payload before _ shows_.attempted quiet
      | nextEndpoint => exact passed
      | giveUp => exact passed
      | ended error => exact passed
  | succ left ih =>
      have passed := attempt_passed upstream reader payload settings before endpoint
        (decide (0 < left + 1)) other call silent
      rw [endpointAttempts]
      rcases tried : streamAttempt upstream reader settings payload endpoint
        (decide (0 < left + 1)) other call with ⟨after, next⟩
      rw [tried] at passed
      cases next with
      | sameEndpoint => exact ih after (passed.goesOn (fun error same => by cases same))
      | nextEndpoint => exact passed
      | giveUp => exact passed
      | ended error => exact passed

/-- What a call shows: something only of its last attempt, and nothing with a client error. -/
structure CallShows (before after : Nat) (steps : List (Step (CallbackRun Credit)))
    (error : Option CallFault) : Prop where
  ordered : before ≤ after
  shows_ : Silent before after steps ∨
    ∃ callbacks, LastShows upstream reader payload before after steps callbacks
  rejected : ∀ status message, error = some (.client status message) →
    Silent before after steps

theorem silent_shows (before after : Nat) (steps : List (Step (CallbackRun Credit)))
    (error : Option CallFault) (silent : Silent before after steps) :
    CallShows upstream reader payload before after steps error :=
  ⟨silent.1, Or.inl silent, fun _ _ _ => silent⟩

theorem endpoint_loop_shows (settings : CallSettings) (before : Nat) (endpoints : List GoString)
    (call : Call Credit) (silent : Silent before call.attempts call.steps) :
    CallShows upstream reader payload before
      (endpointLoop upstream reader settings payload endpoints call).1.attempts
      (endpointLoop upstream reader settings payload endpoints call).1.steps
      (endpointLoop upstream reader settings payload endpoints call).2 := by
  induction endpoints generalizing call with
  | nil => exact silent_shows upstream reader payload before _ _ _ silent
  | cons endpoint endpoints ih =>
      have passed := endpoint_passed upstream reader payload settings before endpoint
        (!endpoints.isEmpty) 1 call silent
      rw [endpointLoop]
      change Passed upstream reader payload before (endpointAttempts upstream reader settings
        payload endpoint (!endpoints.isEmpty) maxStreamAttemptsPerEndpoint call) at passed
      rcases tried : endpointAttempts upstream reader settings payload endpoint
        (!endpoints.isEmpty) maxStreamAttemptsPerEndpoint call with ⟨after, next⟩
      rw [tried] at passed
      cases next with
      | ended error =>
          obtain ⟨callbacks, shows_, rejected⟩ := passed.ended
          refine ⟨Nat.le_of_lt shows_.attempted, Or.inr ⟨callbacks, shows_⟩, ?_⟩
          intro status message client
          have none := rejected status message (congrArg Next.ended client)
          refine ⟨Nat.le_of_lt shows_.attempted, ?_⟩
          have steps := shows_.steps
          rwa [none, List.map_nil, List.append_nil] at steps
      | giveUp =>
          exact silent_shows upstream reader payload before _ _ _
            (passed.goesOn (fun error same => by cases same))
      | nextEndpoint => exact ih after (passed.goesOn (fun error same => by cases same))
      | sameEndpoint => exact ih after (passed.goesOn (fun error same => by cases same))

theorem call_once_shows (attempts : Nat) :
    CallShows upstream reader payload attempts
      (callKiroAPIContextOnce upstream reader payload attempts).attempts
      (callKiroAPIContextOnce upstream reader payload attempts).steps
      (callKiroAPIContextOnce upstream reader payload attempts).error := by
  apply endpoint_loop_shows
  refine ⟨Nat.le_refl attempts, ?_⟩
  change [] = tries (attempts - attempts)
  rw [Nat.sub_self]
  rfl

omit [CreditAmount Credit] in
/-- A flattened payload differs in its history alone, which no callback reads. -/
theorem flattened_reads (narrated : KiroPayload)
    (flattened : flattenStructuredToolHistory payload = some narrated) :
    narrated.current = payload.current ∧ narrated.toolNameMap = payload.toolNameMap := by
  unfold flattenStructuredToolHistory at flattened
  split_ifs at flattened
  cases flattened
  exact ⟨rfl, rfl⟩

theorem heard_same (narrated : KiroPayload) (current : narrated.current = payload.current)
    (nameMap : narrated.toolNameMap = payload.toolNameMap) (settings : CallSettings)
    (index : Nat) (lenient : Bool) (body : Body) :
    heard reader settings narrated index lenient body =
      heard reader settings payload index lenient body := by
  unfold heard readAttempt streamCallback declaredToolParamTypes currentTools
  rw [current, nameMap]

theorem shown_same (narrated : KiroPayload) (current : narrated.current = payload.current)
    (nameMap : narrated.toolNameMap = payload.toolNameMap) (index : Nat)
    (callbacks : List (CallbackRun Credit))
    (shown : Shown upstream reader narrated index callbacks) :
    Shown upstream reader payload index callbacks := by
  rcases shown with nothing | ⟨settings, lenient, body, answered, same⟩
  · exact Or.inl nothing
  · rw [heard_same reader payload narrated current nameMap] at same
    exact Or.inr ⟨settings, lenient, body, answered, same⟩

/-- Silent attempts before a call. -/
theorem shows_after (first middle after : Nat) (earlier later : List (Step (CallbackRun Credit)))
    (error : Option CallFault) (silent : Silent first middle earlier)
    (call : CallShows upstream reader payload middle after later error) :
    CallShows upstream reader payload first after (earlier ++ later) error := by
  have joined (quiet : Silent middle after later) : Silent first after (earlier ++ later) := by
    refine ⟨Nat.le_trans silent.1 quiet.1, ?_⟩
    rw [silent.2, quiet.2, tries_then]
    congr 1
    have := silent.1
    have := quiet.1
    omega
  refine ⟨Nat.le_trans silent.1 call.ordered, ?_, fun status message client =>
    joined (call.rejected status message client)⟩
  rcases call.shows_ with quiet | ⟨callbacks, shows_⟩
  · exact Or.inl (joined quiet)
  · refine Or.inr ⟨callbacks, Nat.lt_of_le_of_lt silent.1 shows_.attempted, ?_, shows_.shown⟩
    rw [silent.2, shows_.steps, ← List.append_assoc, tries_then]
    congr 2
    have := silent.1
    have := shows_.attempted
    omega

/-- Over the endpoints and the narrated retry: what a call shows comes from its last attempt,
and its payload is read the same way afterwards. -/
theorem call_shows (attempts : Nat) :
    CallShows upstream reader payload attempts
      (callKiroAPIContext upstream reader payload attempts).attempts
      (callKiroAPIContext upstream reader payload attempts).steps
      (callKiroAPIContext upstream reader payload attempts).error ∧
    (callKiroAPIContext upstream reader payload attempts).payload.current = payload.current ∧
    (callKiroAPIContext upstream reader payload attempts).payload.toolNameMap =
      payload.toolNameMap := by
  have first := call_once_shows upstream reader payload attempts
  unfold callKiroAPIContext callWithToolHistoryFallback
  simp only
  split_ifs with rejected
  · exact ⟨first, rfl, rfl⟩
  · cases flattened : flattenStructuredToolHistory payload with
    | none => exact ⟨first, rfl, rfl⟩
    | some narrated =>
        have same := flattened_reads payload narrated flattened
        have second := call_once_shows upstream reader narrated
          (callKiroAPIContextOnce upstream reader payload attempts).attempts
        have quiet : Silent attempts
            (callKiroAPIContextOnce upstream reader payload attempts).attempts
            (callKiroAPIContextOnce upstream reader payload attempts).steps := by
          cases error : (callKiroAPIContextOnce upstream reader payload attempts).error with
          | none => simp [error] at rejected
          | some fault =>
              cases fault with
              | client status message => exact first.rejected status message error
              | _ => simp [error, CallFault.isUpstreamBadRequest] at rejected
        refine ⟨shows_after upstream reader payload _ _ _ _ _ _ quiet ⟨second.ordered, ?_,
          second.rejected⟩, same.1, same.2⟩
        rcases second.shows_ with silent | ⟨callbacks, shows_⟩
        · exact Or.inl silent
        · exact Or.inr ⟨callbacks, shows_.attempted, shows_.steps,
            shown_same upstream reader payload narrated same.1 same.2 _ callbacks shows_.shown⟩

end Attempts

end KiroProxy.UpstreamCalls
