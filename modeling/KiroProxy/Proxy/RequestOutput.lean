import KiroProxy.Proxy.Responders

/-!
# The attempt behind an answer

However a streaming handler goes on over accounts, calls, endpoints and stream attempts, all it
sends of an answer comes from the stream of the last attempt. Attempts that left the client
without an event are tried again; the first one that sent something is the last.
-/

namespace KiroProxy.RequestHandling

open Accounts
open ApiKeys (CreditAmount)
open ClaudeStream ClaudeUsage EventStream FollowupPayloads GoStrings ThinkingScanner UpstreamCalls

set_option autoImplicit false

variable {Credit Answer Event : Type} [CreditAmount Credit]

section Replays

variable (responder : Responder Credit Answer Event)

def events (sent : List Event) : List (Step (Reply Event)) :=
  sent.map fun event => .item (.event event)

omit [CreditAmount Credit] in
theorem newly_sent (before after : Answer) (keeps : responder.sent before <+: responder.sent after) :
    events (responder.sent before) ++ newlySent responder before after =
      events (responder.sent after) := by
  obtain ⟨added, sent⟩ := keeps
  unfold newlySent events
  rw [← sent, List.drop_left, ← List.map_append]

omit [CreditAmount Credit] in
theorem replay_tries (count : Nat) (answer : Answer) (steps : List (Step (CallbackRun Credit))) :
    replay responder answer (tries count ++ steps) =
      ((replay responder answer steps).1, tries count ++ (replay responder answer steps).2) := by
  induction count with
  | zero => rfl
  | succ count ih =>
      change replay responder answer (.attempt :: (tries count ++ steps)) = _
      rw [replay, ih]
      rfl

omit [CreditAmount Credit] in
/-- Replayed callbacks answer as they come, and send what the answer then holds. -/
theorem replay_callbacks (callbacks : List (CallbackRun Credit)) (answer : Answer) :
    (replay responder answer (callbacks.map Step.item)).1 =
        callbacks.foldl responder.onCallback answer ∧
      events (responder.sent answer) ++
          (replay responder answer (callbacks.map Step.item)).2 =
        events (responder.sent (callbacks.foldl responder.onCallback answer)) := by
  induction callbacks generalizing answer with
  | nil => exact ⟨rfl, List.append_nil _⟩
  | cons callback callbacks ih =>
      obtain ⟨final, sent⟩ := ih (responder.onCallback answer callback)
      rw [List.map_cons, replay, List.foldl_cons]
      refine ⟨final, ?_⟩
      rw [← sent, ← newly_sent responder answer _ (responder.callback_keeps answer callback),
        List.append_assoc]

end Replays

section Statement

/-- How an answer ends, if it does. -/
inductive Ending where
  | unfinished
  | failed (message : GoString)
  | succeeded

variable (responder : Responder Credit Answer Event)

def Ending.close (ending : Ending) (answer : Answer) : Answer :=
  match ending with
  | .unfinished => answer
  | .failed message => responder.fail answer message
  | .succeeded => responder.succeed answer

/-- What is sent of an answer that one run of callbacks makes. -/
def told (attempt : Attempt) (callbacks : List (CallbackRun Credit)) (ending : Ending) :
    List Event :=
  responder.sent (ending.close responder
    (callbacks.foldl responder.onCallback (responder.start false attempt)))

/-- The steps of a request: stream attempts that the client saw nothing of, and then the answer
that the callbacks of the last attempt's stream make, or a plain error. -/
inductive OneAttempt (upstream : Upstream) (reader : StreamReader Credit) (payload : KiroPayload)
    (steps : List (Step (Reply Event))) : Prop where
  | answered (count : Nat) (attempt : Attempt) (callbacks : List (CallbackRun Credit))
      (ending : Ending) (attempted : callbacks ≠ [] → 0 < count)
      (shown : Shown upstream reader payload (count - 1) callbacks)
      (order : steps = tries count ++ events (told responder attempt callbacks ending))
  | refused (count : Nat) (status : Nat) (errType message : GoString)
      (order : steps = tries count ++ [.item (.refused status errType message)])

end Statement

section Loops

variable (upstream : Upstream) (reader : StreamReader Credit) (surroundings : Surroundings Credit)
  (request : HandledRequest Credit) (responder : Responder Credit Answer Event)

/-- The client was sent nothing yet; a call may have narrated the history. -/
structure Unheard (run : RequestRun Credit Event) : Prop where
  steps : run.steps = tries run.upstreamAttempts
  started : run.started = false
  current : run.payload.current = request.payload.current
  toolNameMap : run.payload.toolNameMap = request.payload.toolNameMap

/-- A pass of the inner loop goes on unheard, or returns with the answer of one attempt. -/
structure Told (result : RequestRun Credit Event × Exit) : Prop where
  goesOn : result.2 ≠ .returned → Unheard request result.1
  returned : result.2 = .returned →
    OneAttempt responder upstream reader request.payload result.1.steps

/-- A call before its end is handled: silent attempts, and what its callbacks made. -/
structure Heard (attempt : Attempt) (answer : Answer) (next : RequestRun Credit Event) :
    Prop where
  made : ∃ callbacks, (callbacks ≠ [] → 0 < next.upstreamAttempts) ∧
    Shown upstream reader request.payload (next.upstreamAttempts - 1) callbacks ∧
    answer = callbacks.foldl responder.onCallback (responder.start false attempt)
  steps : next.steps = tries next.upstreamAttempts ++ events (responder.sent answer)
  started : next.started = responder.started answer
  current : next.payload.current = request.payload.current
  toolNameMap : next.payload.toolNameMap = request.payload.toolNameMap

variable {request} {run : RequestRun Credit Event}

/-- A return without any answer. -/
theorem silent_attempts (unheard : Unheard request run) :
    OneAttempt responder upstream reader request.payload run.steps := by
  let attempt : Attempt := ⟨none, none, PromptCache.noUsage, fun _ => none⟩
  refine .answered run.upstreamAttempts attempt [] .unfinished (fun some_ => absurd rfl some_)
    (Or.inl rfl) ?_
  change _ = _ ++ events (responder.sent (responder.start false attempt))
  rw [unheard.steps, responder.unsent]
  exact (List.append_nil _).symm

theorem failed_told (unheard : Unheard request run) (account : Account Credit)
    (accountAttempt : Nat) (error : CallFault) :
    Told upstream reader request responder
      (attemptFailed surroundings account accountAttempt error run) where
  goesOn := fun _ => ⟨unheard.steps, unheard.started, unheard.current, unheard.toolNameMap⟩
  returned := by
    intro returned
    unfold attemptFailed at returned
    simp only at returned
    split_ifs at returned

theorem heard_told (attempt : Attempt) (answer : Answer) (next : RequestRun Credit Event)
    (heard : Heard upstream reader request responder attempt answer next)
    (ending : Ending) (result : RequestRun Credit Event × Exit) (returned : result.2 = .returned)
    (steps : result.1.steps =
      next.steps ++ newlySent responder answer (ending.close responder answer)) :
    Told upstream reader request responder result where
  goesOn := fun open_ => absurd returned open_
  returned := by
    intro _
    obtain ⟨callbacks, attempted, shown, made⟩ := heard.made
    apply OneAttempt.answered next.upstreamAttempts attempt callbacks ending attempted shown
    have keeps : responder.sent answer <+: responder.sent (ending.close responder answer) := by
      cases ending with
      | unfinished => exact List.prefix_rfl
      | failed message => exact responder.fail_keeps answer message
      | succeeded => exact responder.succeed_keeps answer
    rw [steps, heard.steps, List.append_assoc, newly_sent responder answer _ keeps, told, ← made]

theorem ended_told (attempt : Attempt) (account : Account Credit) (accountAttempt : Nat)
    (answer : Answer) (error : Option CallFault) (next : RequestRun Credit Event)
    (heard : Heard upstream reader request responder attempt answer next) :
    Told upstream reader request responder
      (callEnded surroundings request responder account accountAttempt answer error next) := by
  have nothing : newlySent responder answer answer = [] := by
    unfold newlySent
    rw [List.drop_length]
    rfl
  cases error with
  | none =>
      exact heard_told upstream reader responder attempt answer next heard .succeeded _ rfl rfl
  | some error =>
      unfold callEnded
      simp only
      split_ifs with canceled silent
      · apply heard_told upstream reader responder attempt answer next heard .unfinished _ rfl
        change _ = _ ++ newlySent responder answer answer
        rw [nothing]
        exact (List.append_nil _).symm
      · apply failed_told
        rw [Bool.not_eq_true'] at silent
        obtain ⟨callbacks, _, _, made⟩ := heard.made
        have unsent : responder.sent answer = [] := by
          rw [made] at silent ⊢
          exact responder.silent attempt callbacks silent
        refine ⟨?_, heard.started.trans silent, heard.current, heard.toolNameMap⟩
        rw [heard.steps, unsent]
        exact List.append_nil _
      · exact heard_told upstream reader responder attempt answer next heard
          (.failed (error.message surroundings.errorText)) _ rfl rfl

/-- After a call, over whatever endpoints and attempts it went. -/
theorem called_heard (unheard : Unheard request run) (attempt : Attempt)
    (called : Called Credit)
    (called_ : called = callKiroAPIContext upstream reader run.payload run.upstreamAttempts)
    (next : RequestRun Credit Event) (payload : next.payload = called.payload)
    (attempts : next.upstreamAttempts = called.attempts)
    (steps : next.steps =
      run.steps ++ (replay responder (responder.start false attempt) called.steps).2)
    (started : next.started =
      responder.started (replay responder (responder.start false attempt) called.steps).1) :
    Heard upstream reader request responder attempt
      (replay responder (responder.start false attempt) called.steps).1 next := by
  obtain ⟨shows_, current, toolNameMap⟩ :=
    call_shows upstream reader run.payload run.upstreamAttempts
  rw [← called_] at shows_ current toolNameMap
  have sameCurrent : next.payload.current = request.payload.current := by
    rw [payload]
    exact current.trans unheard.current
  have sameNames : next.payload.toolNameMap = request.payload.toolNameMap := by
    rw [payload]
    exact toolNameMap.trans unheard.toolNameMap
  -- What a call shows is a run of callbacks behind silent attempts, maybe an empty one.
  have shape : ∃ callbacks, called.steps =
      tries (called.attempts - run.upstreamAttempts) ++ callbacks.map Step.item ∧
      (callbacks ≠ [] → 0 < called.attempts) ∧
      Shown upstream reader run.payload (called.attempts - 1) callbacks := by
    rcases shows_.shows_ with quiet | ⟨callbacks, last⟩
    · exact ⟨[], by rw [quiet.2]; exact (List.append_nil _).symm,
        fun some_ => absurd rfl some_, Or.inl rfl⟩
    · exact ⟨callbacks, last.steps, fun _ => Nat.zero_lt_of_lt last.attempted, last.shown⟩
  obtain ⟨callbacks, order, attempted, shown⟩ := shape
  obtain ⟨final, sent⟩ := replay_callbacks responder callbacks (responder.start false attempt)
  have replayed := replay_tries responder (called.attempts - run.upstreamAttempts)
    (responder.start false attempt) (callbacks.map Step.item)
  rw [← order] at replayed
  refine ⟨⟨callbacks, ?_, ?_, ?_⟩, ?_, started, sameCurrent, sameNames⟩
  · rw [attempts]
    exact attempted
  · rw [attempts]
    exact shown_same upstream reader request.payload run.payload unheard.current
      unheard.toolNameMap _ callbacks shown
  · rw [replayed]
    exact final
  · have events_ : events (responder.sent (replay responder (responder.start false attempt)
        called.steps).1) = (replay responder (responder.start false attempt)
          (callbacks.map Step.item)).2 := by
      rw [replayed, final, ← sent, responder.unsent]
      rfl
    rw [steps, events_, replayed, unheard.steps, attempts, ← List.append_assoc, tries_then,
      Nat.add_sub_cancel' shows_.ordered]

/-- One pass of the inner loop. -/
theorem try_told (unheard : Unheard request run) (account : Account Credit)
    (accountAttempt : Nat) :
    Told upstream reader request responder
      (tryAccount surroundings request responder (callKiroAPIContext upstream reader) account
        accountAttempt run) := by
  have silent := silent_attempts upstream reader responder unheard
  unfold tryAccount
  simp only
  cases (surroundings.attempt run.totalAttempts).tokenErr with
  | some error =>
      cases (surroundings.attempt run.totalAttempts).contextErr with
      | some gone => exact ⟨fun open_ => absurd rfl open_, fun _ => silent⟩
      | none =>
          apply failed_told
          exact ⟨unheard.steps, unheard.started, unheard.current, unheard.toolNameMap⟩
  | none =>
      apply ended_told upstream reader surroundings responder
        (surroundings.attempt run.totalAttempts)
      rw [unheard.started]
      exact called_heard upstream reader responder unheard _ _ rfl _ rfl rfl rfl rfl

/-- The loop over an account returns, or the client was sent nothing. -/
theorem account_loop_told (account : Account Credit) (left : Nat)
    (run : RequestRun Credit Event) (unheard : Unheard request run) :
    let result := accountLoop surroundings request responder (callKiroAPIContext upstream reader)
      account left run
    (result.2 = false → Unheard request result.1) ∧
      (result.2 = true → OneAttempt responder upstream reader request.payload result.1.steps) := by
  induction left generalizing run with
  | zero => exact ⟨fun _ => unheard, nofun⟩
  | succ left ih =>
      simp only [accountLoop]
      split_ifs with spent
      · exact ⟨fun _ => unheard, nofun⟩
      · have told_ := try_told upstream reader surroundings responder unheard account
          (surroundings.plan.maxPerAccount - (left + 1))
        cases tried : tryAccount surroundings request responder
            (callKiroAPIContext upstream reader) account
            (surroundings.plan.maxPerAccount - (left + 1)) run with
        | mk next exit =>
            rw [tried] at told_
            cases exit with
            | sameAccount => exact ih next (told_.goesOn nofun)
            | nextAccount => exact ⟨fun _ => told_.goesOn nofun, nofun⟩
            | returned => exact ⟨nofun, fun _ => told_.returned rfl⟩

/-- The outer loop returns, or the client was sent nothing. -/
theorem request_loop_told (rounds : Nat) (run : RequestRun Credit Event)
    (unheard : Unheard request run) :
    let result := requestLoop surroundings request responder (callKiroAPIContext upstream reader)
      rounds run
    (result.2 = false → Unheard request result.1) ∧
      (result.2 = true → OneAttempt responder upstream reader request.payload result.1.steps) := by
  induction rounds generalizing run with
  | zero => exact ⟨fun _ => unheard, nofun⟩
  | succ rounds ih =>
      simp only [requestLoop]
      split_ifs with stop
      · exact ⟨fun _ => unheard, nofun⟩
      · cases pickAccount surroundings request run with
        | none => exact ⟨fun _ => unheard, nofun⟩
        | some account =>
            have begun : Unheard request (run.book [.picked account.id]) :=
              ⟨unheard.steps, unheard.started, unheard.current, unheard.toolNameMap⟩
            have loop := account_loop_told upstream reader surroundings responder account
              surroundings.plan.maxPerAccount _ begun
            simp only
            cases looped : accountLoop surroundings request responder
                (callKiroAPIContext upstream reader) account surroundings.plan.maxPerAccount
                (run.book [.picked account.id]) with
            | mk next returned =>
                rw [looped] at loop
                cases returned with
                | true => exact ⟨nofun, fun _ => loop.2 rfl⟩
                | false =>
                    have after := loop.1 rfl
                    exact ih _ ⟨after.steps, after.started, after.current, after.toolNameMap⟩

end Loops

section Handlers

variable (upstream : Upstream) (reader : StreamReader Credit) (surroundings : Surroundings Credit)
  (request : HandledRequest Credit)

theorem refused_attempts (responder : Responder Credit Answer Event)
    (run : RequestRun Credit Event) (unheard : Unheard request run) (status : Nat)
    (errType message : GoString) (steps : List (Step (Reply Event)))
    (order : steps = run.steps ++ [.item (.refused status errType message)]) :
    OneAttempt responder upstream reader request.payload steps := by
  rw [unheard.steps] at order
  exact .refused run.upstreamAttempts status errType message order

/-- All that a handler sends of an answer comes from its last stream attempt. -/
theorem request_answered_once (responder : Responder Credit Answer Event) (errors : ErrorTypes) :
    OneAttempt responder upstream reader request.payload
      (handleRequest surroundings request responder (callKiroAPIContext upstream reader)
        errors).steps := by
  have begun : Unheard request (startRun request : RequestRun Credit Event) :=
    ⟨rfl, rfl, rfl, rfl⟩
  unfold handleRequest
  change OneAttempt responder upstream reader request.payload (ite _ _ _ :
    RequestRun Credit Event).steps
  split_ifs with flushes
  · exact refused_attempts upstream reader request responder _ begun _ _ _ _ rfl
  · have loop := request_loop_told upstream reader surroundings responder
      surroundings.plan.maxPerRequest (startRun request) begun
    cases looped : requestLoop surroundings request responder
        (callKiroAPIContext upstream reader) surroundings.plan.maxPerRequest
        (startRun request) with
    | mk run returned =>
        rw [looped] at loop
        cases returned with
        | true => exact loop.2 rfl
        | false =>
            have unheard := loop.1 rfl
            simp only
            unfold requestFailed
            cases run.lastErr with
            | none => exact refused_attempts upstream reader request responder run unheard _ _ _ _ rfl
            | some error =>
                exact refused_attempts upstream reader request responder run unheard _ _ _ _ rfl

variable (options : HandlerOptions Credit) (claude : ClaudeOptions) (format : ThinkingFormat)

/-- Whatever the accounts, endpoints and attempts of a streamed request were, the steps are
attempts that the client saw nothing of, then the answer made of the callbacks of the last one,
and no attempt after it. -/
theorem streams_answered_once :
    OneAttempt (claudeStreamResponder options claude) upstream reader request.payload
      (handleClaudeStream surroundings request (callKiroAPIContext upstream reader) options
        claude).steps ∧
    OneAttempt (chatStreamResponder options format) upstream reader request.payload
      (handleOpenAIStream surroundings request (callKiroAPIContext upstream reader) options
        format).steps :=
  ⟨request_answered_once upstream reader surroundings request _ claudeErrors,
    request_answered_once upstream reader surroundings request _ openAIErrors⟩

end Handlers

end KiroProxy.RequestHandling
