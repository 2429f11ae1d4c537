import KiroProxy.Foundation.Words
import KiroProxy.Proxy.UsageAccounting

/-!
# The ledger behind the usage counters

Every run of the reservation operations is a run of the reservation ledger: a
ticket is a hold, the `TokensUsed` field of a key is its counter, and a store
operation that reaches the stored entry is one posting, whose sum the counter keeps
as a signed word. Where a sum is a word, the posting is exact, and what the ledger
proves of balances holds of the stored counters.
-/

namespace KiroProxy.UsageAccounting

open ApiKeys Foundation.Runs Foundation.ReservationLedger Foundation.Words

set_option autoImplicit false

variable {Credit : Type} [CreditAmount Credit]

def usedTokens (cfg : Config Credit) (id : GoString) : Int :=
  match getApiKeyEntry cfg id with
  | none => 0
  | some entry => entry.tokensUsed.toInt

def Ticket.hold (ticket : Ticket Credit) : Hold GoString Int where
  key := ticket.reservation.id
  reserved := ⟨ticket.reservation.reservedTokens.toInt,
    Int64.le_iff_toInt_le.mp ticket.reserved_nonneg⟩
  actual := ticket.settled
  stale := ticket.stale
  forgotten := ticket.forgotten

def UsageState.ledger (state : UsageState Credit) : Ledger GoString Int where
  counter := usedTokens state.cfg
  holds := state.tickets.map Ticket.hold

def settlePosting (index : Nat) : Option (NonNeg Int) → Posting GoString Int
  | none => .idle
  | some actual => .settle index actual

def UsageState.reservePosting (state : UsageState Credit) (id : GoString) (tokens : Int64)
    (saveErr : SaveResult) : Posting GoString Int :=
  match outcome : reserveApiKeyRequestUsage state.cfg id tokens saveErr with
  | (.error _, _) => .idle
  | (.ok _, cfg) =>
      .reserve id ⟨tokens.toInt, Int64.le_iff_toInt_le.mp
        (reserve_ok state.cfg id tokens saveErr cfg _ outcome).1⟩

def UsageState.ticketPosting (state : UsageState Credit) (index : Nat)
    (settled : Ticket Credit → Option (NonNeg Int)) : Posting GoString Int :=
  match state.tickets[index]? with
  | none => .idle
  | some ticket =>
      if ticket.reservation.live then settlePosting index (settled ticket) else .idle

/-- The posting a step makes: idle when the store refuses the operation. -/
def UsageState.posting (state : UsageState Credit) : KeyEvent Credit → Posting GoString Int
  | .usage (.reserve id _ tokens saveErr) => state.reservePosting id tokens saveErr
  | .usage (.finalize index actualTokens actualCredits now saveErr) =>
      state.ticketPosting index (fun ticket => settledWith (ticket.reservation.finalize
        state.cfg actualTokens actualCredits now saveErr).1 actualTokens)
  | .usage (.release index saveErr) =>
      state.ticketPosting index (fun ticket => settledWith (releaseApiKeyUsageReservation
        state.cfg ticket.reservation.id ticket.reservation.reservedTokens
        ticket.reservation.reservedCredits saveErr).1 0)
  | .reset id saveErr =>
      if reachesEntry (resetApiKeyUsage state.cfg id saveErr).1 then .wipe id else .idle

omit [CreditAmount Credit] in
theorem used_tokens_change (cfg : Config Credit) (id : GoString)
    (change : ApiKeyEntry Credit → ApiKeyEntry Credit) (entry : ApiKeyEntry Credit)
    (found : getApiKeyEntry cfg id = some entry)
    (keeps : ∀ entry : ApiKeyEntry Credit, entry.id = id → (change entry).id = id) :
    usedTokens (cfg.change id change) =
      Function.update (usedTokens cfg) id (change entry).tokensUsed.toInt := by
  funext other
  by_cases same : other = id
  · subst same
    rw [Function.update_self, usedTokens, get_change cfg other change keeps, found]
    rfl
  · rw [Function.update_of_ne same, usedTokens, usedTokens,
      get_change_other cfg id change keeps other same]

omit [CreditAmount Credit] in
theorem used_tokens_found (cfg : Config Credit) (id : GoString)
    (entry : ApiKeyEntry Credit) (found : getApiKeyEntry cfg id = some entry) :
    usedTokens cfg id = entry.tokensUsed.toInt := by
  rw [usedTokens, found]

omit [CreditAmount Credit] in
theorem used_tokens_word (cfg : Config Credit) (id : GoString) :
    -2 ^ 63 ≤ usedTokens cfg id ∧ usedTokens cfg id < 2 ^ 63 := by
  unfold usedTokens
  split
  · decide
  · exact ⟨Int64.le_toInt _, Int64.toInt_lt _⟩

theorem clamp_tokens_eq (tokens : Int64) : (clampTokens tokens).toInt = max 0 tokens.toInt := by
  unfold clampTokens
  split_ifs with negative
  · have below : tokens.toInt < 0 := Int64.lt_iff_toInt_lt.mp negative
    rw [Int64.toInt_zero, max_eq_left below.le]
  · have above : 0 ≤ tokens.toInt := Int64.le_iff_toInt_le.mp (Int64.not_lt.mp negative)
    rw [max_eq_right above]

theorem reserved_word (used tokens : Int64) :
    (used + tokens).toInt = word (used.toInt + tokens.toInt) :=
  Int64.toInt_add used tokens

theorem finalized_word (used actual reserved : Int64) :
    (used + (actual - reserved)).toInt =
      word (used.toInt + (actual.toInt - reserved.toInt)) := by
  rw [Int64.toInt_add, Int64.toInt_sub, Int.add_bmod_bmod]
  rfl

theorem released_word (used reserved : Int64) :
    (used - reserved).toInt = word (used.toInt + (0 - reserved.toInt)) := by
  rw [Int64.toInt_sub, zero_sub, ← sub_eq_add_neg]
  rfl

omit [CreditAmount Credit] in
theorem live_iff (reservation : ApiKeyUsageReservation Credit) :
    reservation.live = true ↔ reservation.done = false ∧ reservation.id ≠ [] := by
  cases closed : reservation.done <;> simp [ApiKeyUsageReservation.live, closed]

theorem live_open (ticket : Ticket Credit) (live : ticket.reservation.live = true) :
    ticket.settled = none :=
  ticket.opened ((live_iff ticket.reservation).mp live).1

theorem release_live (reservation : ApiKeyUsageReservation Credit)
    (live : reservation.live = true) (cfg : Config Credit) (saveErr : SaveResult) :
    reservation.release cfg saveErr = ({ reservation with done := true },
      (releaseApiKeyUsageReservation cfg reservation.id reservation.reservedTokens
        reservation.reservedCredits saveErr).2) := by
  rw [ApiKeyUsageReservation.live, Bool.not_eq_true'] at live
  simp only [ApiKeyUsageReservation.release, live, Bool.false_eq_true, if_false]

theorem release_closed (reservation : ApiKeyUsageReservation Credit)
    (closed : reservation.live = false) (cfg : Config Credit) (saveErr : SaveResult) :
    reservation.release cfg saveErr = (reservation, cfg) := by
  rw [ApiKeyUsageReservation.live, Bool.not_eq_false'] at closed
  simp only [ApiKeyUsageReservation.release, closed, if_true]

theorem finalize_live (reservation : ApiKeyUsageReservation Credit)
    (live : reservation.live = true) (cfg : Config Credit) (actualTokens : Int64)
    (actualCredits : Credit) (now : Int) (saveErr : SaveResult) :
    reservation.finalize cfg actualTokens actualCredits now saveErr =
      ((finalizeApiKeyUsageReservation cfg reservation.id reservation.reservedTokens
          reservation.reservedCredits actualTokens actualCredits now saveErr).1,
        { reservation with done := true },
        (finalizeApiKeyUsageReservation cfg reservation.id reservation.reservedTokens
          reservation.reservedCredits actualTokens actualCredits now saveErr).2) := by
  rw [ApiKeyUsageReservation.live, Bool.not_eq_true'] at live
  simp only [ApiKeyUsageReservation.finalize, live, Bool.false_eq_true, if_false]

theorem finalize_closed (reservation : ApiKeyUsageReservation Credit)
    (closed : reservation.live = false) (cfg : Config Credit) (actualTokens : Int64)
    (actualCredits : Credit) (now : Int) (saveErr : SaveResult) :
    reservation.finalize cfg actualTokens actualCredits now saveErr =
      (none, reservation, cfg) := by
  rw [ApiKeyUsageReservation.live, Bool.not_eq_false'] at closed
  simp only [ApiKeyUsageReservation.finalize, closed, if_true]

theorem reaches_saved (saveErr : SaveResult) : reachesEntry (saved saveErr) = true := by
  cases saveErr <;> rfl

theorem reaches_refused (err : ApiKeyError) (refused : ∀ cause, err ≠ .saveFailed cause) :
    reachesEntry (some err) = false := by
  cases err with
  | saveFailed cause => exact absurd rfl (refused cause)
  | _ => rfl

theorem settled_refused (err : ApiKeyError) (refused : ∀ cause, err ≠ .saveFailed cause)
    (actualTokens : Int64) : settledWith (some err) actualTokens = none := by
  simp [settledWith, reaches_refused err refused]

theorem settled_saved (saveErr : SaveResult) (actualTokens : Int64)
    (nonneg : 0 ≤ actualTokens) :
    settledWith (saved saveErr) actualTokens =
      some ⟨actualTokens.toInt, Int64.le_iff_toInt_le.mp nonneg⟩ := by
  simp [settledWith, reaches_saved, nonneg]

section Simulation

variable (state : UsageState Credit)

theorem reserve_refused (id key : GoString) (tokens : Int64) (saveErr : SaveResult)
    (err : ApiKeyError)
    (refused : reserveApiKeyRequestUsage state.cfg id tokens saveErr =
      (.error err, state.cfg)) :
    state.reserve id key tokens saveErr = state ∧
      state.reservePosting id tokens saveErr = .idle := by
  unfold UsageState.reserve UsageState.reservePosting
  constructor
  · split
    · next after outcome =>
        rw [refused, Prod.mk.injEq] at outcome
        rw [← outcome.2]
    · next after outcome =>
        rw [refused] at outcome
        simp at outcome
  · split
    · rfl
    · next after outcome =>
        rw [refused] at outcome
        simp at outcome

theorem reserve_made (id key : GoString) (tokens : Int64) (saveErr : SaveResult)
    (after : Config Credit) (nonneg : 0 ≤ tokens)
    (made : reserveApiKeyRequestUsage state.cfg id tokens saveErr = (.ok 0, after)) :
    state.reserve id key tokens saveErr =
        { cfg := after
          tickets := state.tickets ++
            [Ticket.issue ⟨id, key, tokens, 0, false⟩ ⟨nonneg, rfl⟩] } ∧
      state.reservePosting id tokens saveErr =
        .reserve id ⟨tokens.toInt, Int64.le_iff_toInt_le.mp nonneg⟩ := by
  unfold UsageState.reserve UsageState.reservePosting
  constructor
  · split
    · next after' outcome =>
        rw [made] at outcome
        simp at outcome
    · next credits after' outcome =>
        rw [made, Prod.mk.injEq, Except.ok.injEq] at outcome
        simp only [← outcome.1, ← outcome.2]
  · split
    · next after' outcome =>
        rw [made] at outcome
        simp at outcome
    · rfl

theorem reserve_posts (id key : GoString) (tokens : Int64) (saveErr : SaveResult) :
    (state.reserve id key tokens saveErr).ledger =
      postStored word state.ledger (state.reservePosting id tokens saveErr) := by
  rcases reserve_outcome state.cfg id tokens saveErr with
    ⟨err, refused⟩ | ⟨entry, nonneg, found, _, _, _, made⟩
  · have idle := reserve_refused state id key tokens saveErr err refused
    rw [idle.1, idle.2]
    rfl
  · have issued := reserve_made state id key tokens saveErr _ nonneg made
    have same := get_entry_id state.cfg id entry found
    have counter := used_tokens_change state.cfg id
      (fun _ => addReserved tokens 0 entry) entry found (fun _ _ => same)
    have sum : (addReserved tokens (0 : Credit) entry).tokensUsed.toInt =
        word (entry.tokensUsed.toInt + tokens.toInt) := reserved_word entry.tokensUsed tokens
    rw [issued.1, issued.2]
    simp only [UsageState.ledger, postStored, post, counter, sum,
      used_tokens_found state.cfg id entry found, List.map_append, List.map_cons, List.map_nil]
    rfl

/-- What an operation on one ticket has to show of its settlement. -/
theorem settle_posts (index : Nat)
    (operation : Ticket Credit → Config Credit → Ticket Credit × Config Credit)
    (settled : Ticket Credit → Option (NonNeg Int))
    (closed : ∀ ticket, ticket.reservation.live = false →
      operation ticket state.cfg = (ticket, state.cfg))
    (live : ∀ ticket, ticket.reservation.live = true →
      (operation ticket state.cfg).1 = ticket.close (settled ticket))
    (refused : ∀ ticket, ticket.reservation.live = true → settled ticket = none →
      (operation ticket state.cfg).2 = state.cfg)
    (counted : ∀ ticket actual, ticket.reservation.live = true →
      settled ticket = some actual →
      usedTokens (operation ticket state.cfg).2 =
        Function.update (usedTokens state.cfg) ticket.reservation.id
          (max 0 (word (usedTokens state.cfg ticket.reservation.id +
            (actual.val - ticket.reservation.reservedTokens.toInt))))) :
    (state.settle index operation).ledger =
      postStored word state.ledger (state.ticketPosting index settled) := by
  unfold UsageState.settle UsageState.ticketPosting
  cases found : state.tickets[index]? with
  | none => rfl
  | some ticket =>
      have held : state.ledger.holds[index]? = some ticket.hold := by
        simp [UsageState.ledger, found]
      have unchanged : (state.tickets.map Ticket.hold).set index ticket.hold =
          state.tickets.map Ticket.hold := by
        rcases List.getElem?_eq_some_iff.mp held with ⟨inside, value⟩
        rw [← value]
        exact List.set_getElem_self inside
      dsimp only
      cases open_ : ticket.reservation.live with
      | false =>
          simp [closed ticket open_, UsageState.ledger, postStored, post, List.map_set, unchanged]
      | true =>
          have opened := live_open ticket open_
          simp only [if_true, live ticket open_]
          cases outcome : settled ticket with
          | none =>
              have same : (ticket.close none).hold = ticket.hold := by
                simp [Ticket.hold, Ticket.close, opened]
              simp [settlePosting, postStored, post, UsageState.ledger,
                refused ticket open_ outcome, List.map_set, same, unchanged]
          | some actual =>
              have unsettled : ticket.hold.actual = none := opened
              simp only [settlePosting, postStored, held, unsettled, if_true,
                post_settle state.ledger index ticket.hold actual held opened]
              simp only [UsageState.ledger, counted ticket actual open_ outcome,
                List.map_set, settledBalance]
              rfl

theorem finalize_posts (index : Nat) (actualTokens : Int64) (actualCredits : Credit)
    (now : Int) (saveErr : SaveResult) :
    (state.step (.finalize index actualTokens actualCredits now saveErr)).ledger =
      postStored word state.ledger (state.posting
        (.usage (.finalize index actualTokens actualCredits now saveErr))) := by
  apply settle_posts
  · intro ticket closed
    simp [Ticket.finalize, closed, finalize_closed]
  · intro ticket live
    simp [Ticket.finalize, live]
  · intro ticket live unsettled
    rw [finalize_live ticket.reservation live] at unsettled
    simp only [Ticket.finalize, live, if_true, finalize_live ticket.reservation live]
    rcases finalize_outcome state.cfg ticket.reservation.id ticket.reservation.reservedTokens
      saveErr ticket.reservation.reservedCredits actualTokens actualCredits now with
      ⟨err, _, refused⟩ | ⟨entry, nonneg, _, _, made⟩
    · rw [refused]
    · rw [made, settled_saved saveErr actualTokens nonneg] at unsettled
      simp at unsettled
  · intro ticket actual live settled
    rw [finalize_live ticket.reservation live] at settled
    simp only [Ticket.finalize, live, if_true, finalize_live ticket.reservation live]
    rcases finalize_outcome state.cfg ticket.reservation.id ticket.reservation.reservedTokens
      saveErr ticket.reservation.reservedCredits actualTokens actualCredits now with
      ⟨err, final, refused⟩ | ⟨entry, nonneg, _, found, made⟩
    · rw [refused, settled_refused err final] at settled
      simp at settled
    · rw [made, settled_saved saveErr actualTokens nonneg, Option.some.injEq] at settled
      have counter := used_tokens_change state.cfg ticket.reservation.id
        (finalizeUsage ticket.reservation.reservedTokens ticket.reservation.reservedCredits
          actualTokens actualCredits now) entry found (fun _ same => same)
      rw [made, counter, used_tokens_found _ _ entry found, ← settled]
      simp only [finalizeUsage, settleUsage, clamp_tokens_eq, finalized_word]

theorem release_posts (index : Nat) (saveErr : SaveResult) :
    (state.step (.release index saveErr)).ledger =
      postStored word state.ledger (state.posting (.usage (.release index saveErr))) := by
  apply settle_posts
  · intro ticket closed
    simp [Ticket.release, closed, release_closed]
  · intro ticket live
    simp [Ticket.release, live]
  · intro ticket live unsettled
    simp only [Ticket.release, live, if_true, release_live ticket.reservation live]
    rcases release_outcome state.cfg ticket.reservation.id ticket.reservation.reservedTokens
      saveErr ticket.reservation.reservedCredits with
      ⟨err, _, refused⟩ | ⟨entry, _, made⟩
    · rw [refused]
    · rw [made, settled_saved saveErr 0 (Int64.le_refl 0)] at unsettled
      simp at unsettled
  · intro ticket actual live settled
    simp only [Ticket.release, live, if_true, release_live ticket.reservation live]
    rcases release_outcome state.cfg ticket.reservation.id ticket.reservation.reservedTokens
      saveErr ticket.reservation.reservedCredits with
      ⟨err, final, refused⟩ | ⟨entry, found, made⟩
    · rw [refused, settled_refused err final] at settled
      simp at settled
    · rw [made, settled_saved saveErr 0 (Int64.le_refl 0), Option.some.injEq] at settled
      have counter := used_tokens_change state.cfg ticket.reservation.id
        (releaseReserved ticket.reservation.reservedTokens
          ticket.reservation.reservedCredits) entry found (fun _ same => same)
      rw [made, counter, used_tokens_found _ _ entry found, ← settled]
      simp only [releaseReserved, clamp_tokens_eq, released_word, Int64.toInt_zero]

theorem reset_posts (id : GoString) (saveErr : SaveResult) :
    (state.reset id saveErr).ledger =
      postStored word state.ledger (state.posting (.reset id saveErr)) := by
  simp only [UsageState.reset, UsageState.posting]
  rcases reset_outcome state.cfg id saveErr with missing | ⟨entry, found, made⟩
  · rw [missing]
    rfl
  · have counter := used_tokens_change state.cfg id resetUsage entry found
      (fun _ same => same)
    have flags : ∀ ticket : Ticket Credit,
        (ticket.reset id).hold = ticket.hold.wiped id := by
      intro ticket
      by_cases same : ticket.reservation.id = id
      · cases settled : ticket.settled with
        | none => simp [Ticket.reset, Hold.wiped, Ticket.hold, same, settled]
        | some actual => simp [Ticket.reset, Hold.wiped, Ticket.hold, same, settled]
      · simp [Ticket.reset, Hold.wiped, Ticket.hold, same]
    rw [made]
    simp [reaches_saved, postStored, post, UsageState.ledger, counter, resetUsage,
      Function.comp_def, flags]

/-- The faithful system refines the ledger, step by step. -/
theorem key_step_posts (event : KeyEvent Credit) :
    (state.keyStep event).ledger = postStored word state.ledger (state.posting event) := by
  cases event with
  | usage event =>
      cases event with
      | reserve id key tokens saveErr => exact reserve_posts state id key tokens saveErr
      | finalize index actualTokens actualCredits now saveErr =>
          exact finalize_posts state index actualTokens actualCredits now saveErr
      | release index saveErr => exact release_posts state index saveErr
  | reset id saveErr => exact reset_posts state id saveErr

end Simulation

end KiroProxy.UsageAccounting
