import KiroProxy.Proxy.UsageLedger
import Mathlib.Algebra.Order.Group.Int

/-!
# Runs of reserve, finalize, release and reset

What the ledger says of every interleaving: without resets the stored counter is
the starting value plus finalized plus outstanding tokens, as long as these fit a
signed word; when a finalize that disables its key has the settled usage to show for
it; and which settlements after a reset leave later usage counted.
-/

namespace KiroProxy.UsageAccounting

open ApiKeys Foundation.Runs Foundation.ReservationLedger Foundation.Words

set_option autoImplicit false

variable {Credit : Type} [CreditAmount Credit]

/-- A store whose usage counters are not negative, before any request. -/
structure AccountedStart (Credit : Type) [CreditAmount Credit] where
  cfg : Config Credit
  tokens_nonneg : ∀ id, 0 ≤ usedTokens cfg id
  credits_nonneg : ∀ id entry, getApiKeyEntry cfg id = some entry →
    (0 : Credit) ≤ entry.creditsUsed

def AccountedStart.of (cfg : Config Credit)
    (nonneg : ∀ entry ∈ cfg.apiKeys, 0 ≤ entry.tokensUsed ∧ (0 : Credit) ≤ entry.creditsUsed) :
    AccountedStart Credit where
  cfg := cfg
  tokens_nonneg := by
    intro id
    cases found : getApiKeyEntry cfg id with
    | none => simp [usedTokens, found]
    | some entry =>
        rw [used_tokens_found cfg id entry found]
        exact Int64.le_iff_toInt_le.mp (nonneg entry (List.mem_of_find?_eq_some found)).1
  credits_nonneg := fun _ entry found =>
    (nonneg entry (List.mem_of_find?_eq_some found)).2

def AccountedStart.state (start : AccountedStart Credit) : UsageState Credit where
  cfg := start.cfg
  tickets := []

def AccountedStart.used (start : AccountedStart Credit) (id : GoString) : NonNeg Int :=
  ⟨usedTokens start.cfg id, start.tokens_nonneg id⟩

section Figures

def Ticket.settledTokens (ticket : Ticket Credit) : Int :=
  (ticket.settled.map Subtype.val).getD 0

def Ticket.openTokens (ticket : Ticket Credit) : Int :=
  if ticket.settled = none then ticket.reservation.reservedTokens.toInt else 0

/-- The actual tokens of every finalized request of the key. -/
def finalizedTokens (tickets : List (Ticket Credit)) (id : GoString) : Int :=
  (tickets.map (fun ticket =>
    if ticket.reservation.id = id then ticket.settledTokens else 0)).sum

/-- The reserved tokens of every reservation of the key that is not settled. -/
def outstandingTokens (tickets : List (Ticket Credit)) (id : GoString) : Int :=
  (tickets.map (fun ticket =>
    if ticket.reservation.id = id then ticket.openTokens else 0)).sum

def finalizedSinceReset (tickets : List (Ticket Credit)) (id : GoString) : Int :=
  finalizedTokens (tickets.filter (fun ticket => !ticket.forgotten)) id

def outstandingSinceReset (tickets : List (Ticket Credit)) (id : GoString) : Int :=
  outstandingTokens (tickets.filter (fun ticket => !ticket.stale)) id

theorem finalized_counted (state : UsageState Credit) (id : GoString) :
    finalizedSinceReset state.tickets id = state.ledger.counted id := by
  unfold finalizedSinceReset finalizedTokens Ledger.counted UsageState.ledger
  induction state.tickets with
  | nil => rfl
  | cons ticket tickets ih =>
      cases forgotten : ticket.forgotten with
      | false =>
          simpa [forgotten, Hold.countedAmount, Ticket.hold, Ticket.settledTokens] using ih
      | true =>
          simpa [forgotten, Hold.countedAmount, Ticket.hold] using ih

theorem outstanding_pending (state : UsageState Credit) (id : GoString) :
    outstandingSinceReset state.tickets id = state.ledger.pending id := by
  unfold outstandingSinceReset outstandingTokens Ledger.pending UsageState.ledger
  induction state.tickets with
  | nil => rfl
  | cons ticket tickets ih =>
      cases stale : ticket.stale with
      | false =>
          by_cases same : ticket.reservation.id = id
          · simpa [stale, same, Hold.pendingAmount, Ticket.hold, Ticket.openTokens] using ih
          · simpa [stale, same, Hold.pendingAmount, Ticket.hold] using ih
      | true =>
          simpa [stale, Hold.pendingAmount, Ticket.hold] using ih

theorem finalized_unreset (tickets : List (Ticket Credit)) (id : GoString)
    (remembered : ∀ ticket ∈ tickets, ticket.forgotten = false) :
    finalizedSinceReset tickets id = finalizedTokens tickets id := by
  unfold finalizedSinceReset
  rw [List.filter_eq_self.mpr]
  intro ticket member
  simp [remembered ticket member]

theorem outstanding_unreset (tickets : List (Ticket Credit)) (id : GoString)
    (fresh : ∀ ticket ∈ tickets, ticket.stale = false) :
    outstandingSinceReset tickets id = outstandingTokens tickets id := by
  unfold outstandingSinceReset
  rw [List.filter_eq_self.mpr]
  intro ticket member
  simp [fresh ticket member]

end Figures

section Settlements

/-- The reservation of the ticket is settled by the operation: it is live and the
store finds its key. -/
def Settling (state : UsageState Credit) (index : Nat) (ticket : Ticket Credit)
    (entry : ApiKeyEntry Credit) : Prop :=
  state.tickets[index]? = some ticket ∧ ticket.reservation.live = true ∧
    getApiKeyEntry state.cfg ticket.reservation.id = some entry

/-- The actual tokens a step settles the ticket with, if the store carries it out. -/
def Settles (state : UsageState Credit) (event : KeyEvent Credit)
    (ticket : Ticket Credit) (actualTokens : Int) : Prop :=
  match event with
  | .usage (.finalize index tokens actualCredits _ _) =>
      (∃ entry, Settling state index ticket entry) ∧
        actualTokens = tokens.toInt ∧ 0 ≤ tokens ∧ (0 : Credit) ≤ actualCredits
  | .usage (.release index _) =>
      (∃ entry, Settling state index ticket entry) ∧ actualTokens = 0
  | _ => False

theorem ticket_posting_settle (state : UsageState Credit) (index at_ : Nat)
    (settled : Ticket Credit → Option (NonNeg Int)) (actual : NonNeg Int) :
    state.ticketPosting index settled = .settle at_ actual ↔
      at_ = index ∧ ∃ ticket, state.tickets[index]? = some ticket ∧
        ticket.reservation.live = true ∧ settled ticket = some actual := by
  unfold UsageState.ticketPosting
  cases present : state.tickets[index]? with
  | none => simp
  | some ticket =>
      cases live : ticket.reservation.live with
      | false => simp [live]
      | true =>
          cases outcome : settled ticket with
          | none => simp [live, outcome, settlePosting]
          | some amount =>
              simp only [live, outcome, settlePosting, if_true, Posting.settle.injEq,
                Option.some.injEq, exists_eq_left', true_and]
              exact and_congr_left' eq_comm

theorem finalize_settled_iff (ticket : Ticket Credit) (cfg : Config Credit)
    (live : ticket.reservation.live = true) (tokens : Int64) (credits : Credit) (now : Int)
    (saveErr : SaveResult) (actual : NonNeg Int) :
    settledWith (ticket.reservation.finalize cfg tokens credits now saveErr).1 tokens =
        some actual ↔
      (∃ entry, getApiKeyEntry cfg ticket.reservation.id = some entry) ∧
        actual.val = tokens.toInt ∧ 0 ≤ tokens ∧ (0 : Credit) ≤ credits := by
  rw [finalize_live ticket.reservation live]
  constructor
  · intro settled
    rcases finalize_outcome cfg ticket.reservation.id ticket.reservation.reservedTokens
      saveErr ticket.reservation.reservedCredits tokens credits now with
      ⟨err, final, refused⟩ | ⟨entry, nonneg, paid, found, made⟩
    · rw [refused, settled_refused err final] at settled
      simp at settled
    · rw [made, settled_saved saveErr tokens nonneg, Option.some.injEq] at settled
      exact ⟨⟨entry, found⟩, by rw [← settled], nonneg, paid⟩
  · intro facts
    rcases facts with ⟨⟨entry, found⟩, same, nonneg, paid⟩
    have held : (0 : Credit) ≤ ticket.reservation.reservedCredits := by
      rw [ticket.free]
      exact CreditAmount.zero_nonneg
    rw [finalize_applied cfg _ _ saveErr _ tokens credits now entry found
      ticket.reserved_nonneg held nonneg paid, settled_saved saveErr tokens nonneg,
      Option.some.injEq]
    exact Subtype.ext same.symm

theorem release_settled_iff (ticket : Ticket Credit) (cfg : Config Credit)
    (saveErr : SaveResult) (actual : NonNeg Int) :
    settledWith (releaseApiKeyUsageReservation cfg ticket.reservation.id
        ticket.reservation.reservedTokens ticket.reservation.reservedCredits saveErr).1 0 =
        some actual ↔
      (∃ entry, getApiKeyEntry cfg ticket.reservation.id = some entry) ∧
        actual.val = 0 := by
  have accepted : ¬(ticket.reservation.reservedTokens < 0 ∨
      ticket.reservation.reservedCredits < 0) := by
    rw [ticket.free]
    intro negative
    rcases negative with below | below
    · exact Int64.not_lt.mpr ticket.reserved_nonneg below
    · exact (CreditAmount.not_negative_iff (0 : Credit)).mpr CreditAmount.zero_nonneg below
  simp only [releaseApiKeyUsageReservation, if_neg accepted]
  cases found : getApiKeyEntry cfg ticket.reservation.id with
  | none => simp [settledWith, reachesEntry]
  | some entry =>
      rw [settled_saved saveErr 0 (Int64.le_refl 0), Option.some.injEq, Subtype.ext_iff]
      simp [eq_comm]

/-- The steps that settle a ticket are those whose posting settles its hold. -/
theorem settles_iff_posting (state : UsageState Credit) (event : KeyEvent Credit)
    (ticket : Ticket Credit) (actual : NonNeg Int) :
    Settles state event ticket actual.val ↔ ∃ index,
      state.tickets[index]? = some ticket ∧ state.posting event = .settle index actual := by
  cases event with
  | reset id saveErr =>
      simp only [Settles, UsageState.posting, false_iff, not_exists]
      intro index
      split_ifs <;> simp
  | usage event =>
      cases event with
      | reserve id key tokens saveErr =>
          simp only [Settles, UsageState.posting, UsageState.reservePosting, false_iff,
            not_exists]
          intro index
          split <;> simp
      | finalize index tokens credits now saveErr =>
          simp only [Settles, Settling, UsageState.posting, ticket_posting_settle]
          constructor
          · intro settles
            rcases settles with ⟨⟨entry, present, live, found⟩, same, nonneg, paid⟩
            exact ⟨index, present, rfl, ticket, present, live,
              (finalize_settled_iff ticket state.cfg live tokens credits now saveErr
                actual).mpr ⟨⟨entry, found⟩, same, nonneg, paid⟩⟩
          · intro posted
            rcases posted with ⟨place, present, same, other, held, live, settled⟩
            subst same
            rw [present, Option.some.injEq] at held
            subst held
            rcases (finalize_settled_iff ticket state.cfg live tokens credits now saveErr
              actual).mp settled with ⟨⟨entry, found⟩, amount⟩
            exact ⟨⟨entry, present, live, found⟩, amount⟩
      | release index saveErr =>
          simp only [Settles, Settling, UsageState.posting, ticket_posting_settle]
          constructor
          · intro settles
            rcases settles with ⟨⟨entry, present, live, found⟩, same⟩
            exact ⟨index, present, rfl, ticket, present, live,
              (release_settled_iff ticket state.cfg saveErr actual).mpr
                ⟨⟨entry, found⟩, same⟩⟩
          · intro posted
            rcases posted with ⟨place, present, same, other, held, live, settled⟩
            subst same
            rw [present, Option.some.injEq] at held
            subst held
            rcases (release_settled_iff ticket state.cfg saveErr actual).mp settled with
              ⟨⟨entry, found⟩, amount⟩
            exact ⟨⟨entry, present, live, found⟩, amount⟩

theorem settles_live (state : UsageState Credit) (event : KeyEvent Credit)
    (ticket : Ticket Credit) (actualTokens : Int)
    (settles : Settles state event ticket actualTokens) :
    ticket.reservation.live = true := by
  unfold Settles at settles
  split at settles
  · rcases settles.1 with ⟨entry, _, live, _⟩
    exact live
  · rcases settles.1 with ⟨entry, _, live, _⟩
    exact live
  · exact settles.elim

theorem settles_nonneg (state : UsageState Credit) (event : KeyEvent Credit)
    (ticket : Ticket Credit) (actualTokens : Int)
    (settles : Settles state event ticket actualTokens) : 0 ≤ actualTokens := by
  unfold Settles at settles
  split at settles
  · rw [settles.2.1]
    exact Int64.le_iff_toInt_le.mp settles.2.2.1
  · exact settles.2.ge
  · exact settles.elim

theorem settles_word (state : UsageState Credit) (event : KeyEvent Credit)
    (ticket : Ticket Credit) (actualTokens : Int)
    (settles : Settles state event ticket actualTokens) : actualTokens < 2 ^ 63 := by
  unfold Settles at settles
  split at settles
  · rw [settles.2.1]
    exact Int64.toInt_lt _
  · rw [settles.2]
    decide
  · exact settles.elim

theorem ticket_posting_cases (state : UsageState Credit) (index : Nat)
    (settled : Ticket Credit → Option (NonNeg Int)) :
    state.ticketPosting index settled = .idle ∨
      ∃ actual, state.ticketPosting index settled = .settle index actual := by
  unfold UsageState.ticketPosting
  cases state.tickets[index]? with
  | none => exact Or.inl rfl
  | some ticket =>
      dsimp only
      split_ifs
      · cases settled ticket with
        | none => exact Or.inl rfl
        | some actual => exact Or.inr ⟨actual, rfl⟩
      · exact Or.inl rfl

theorem ticket_posting_unreserved (state : UsageState Credit) (index : Nat)
    (settled : Ticket Credit → Option (NonNeg Int)) (key : GoString) (amount : NonNeg Int) :
    state.ticketPosting index settled ≠ .reserve key amount := by
  rcases ticket_posting_cases state index settled with idle | ⟨actual, posted⟩
  · simp [idle]
  · simp [posted]

theorem reserves_word (state : UsageState Credit) (event : KeyEvent Credit) (key : GoString)
    (amount : NonNeg Int) (posted : state.posting event = .reserve key amount) :
    amount.val < 2 ^ 63 := by
  cases event with
  | reset id saveErr =>
      simp only [UsageState.posting] at posted
      split_ifs at posted
  | usage event =>
      cases event with
      | finalize index actualTokens actualCredits now saveErr =>
          exact absurd posted (ticket_posting_unreserved state index _ key amount)
      | release index saveErr =>
          exact absurd posted (ticket_posting_unreserved state index _ key amount)
      | reserve id name tokens saveErr =>
          simp only [UsageState.posting, UsageState.reservePosting] at posted
          split at posted
          · simp at posted
          · rw [Posting.reserve.injEq] at posted
            rw [← posted.2]
            exact Int64.toInt_lt tokens

end Settlements

section Sums

/-- What the step adds to the counter of the key fits a signed word: a reservation that would be
made, and the settlement of a reservation that the store finds. -/
def StaysInWord (id : GoString) (state : UsageState Credit) : KeyEvent Credit → Prop
  | .usage (.reserve key _ tokens saveErr) => key = id → ∀ entry,
      getApiKeyEntry state.cfg id = some entry → entry.enabled = true → 0 ≤ tokens →
      ¬creditsSpent entry → saveErr = none → entry.tokensUsed.toInt + tokens.toInt < 2 ^ 63
  | event => ∀ ticket actualTokens, Settles state event ticket actualTokens →
      ticket.reservation.id = id →
        usedTokens state.cfg id +
          (actualTokens - ticket.reservation.reservedTokens.toInt) < 2 ^ 63

/-- A sum that passes the largest word is negative, and passes every limit. -/
theorem reserve_passes (state : UsageState Credit) (id key : GoString) (tokens : Int64)
    (entry : ApiKeyEntry Credit) (found : getApiKeyEntry state.cfg id = some entry)
    (enabled : entry.enabled = true) (nonneg : 0 ≤ tokens) (unspent : ¬creditsSpent entry)
    (beyond : 2 ^ 63 ≤ entry.tokensUsed.toInt + tokens.toInt) :
    state.posting (.usage (.reserve id key tokens none)) =
      .reserve id ⟨tokens.toInt, Int64.le_iff_toInt_le.mp nonneg⟩ := by
  have passed : reserveCheck entry tokens (0 : Credit) = none := by
    have wrapped : (entry.tokensUsed + tokens).toInt < 0 := by
      have first := Int64.toInt_lt entry.tokensUsed
      have second := Int64.toInt_lt tokens
      rw [reserved_word]
      exact word_passes _ beyond (by omega)
    have within : ¬(0 < entry.tokenLimit ∧
        entry.tokenLimit < (entry.tokensUsed + tokens).toInt) := by omega
    have credits : ¬(0 < entry.creditLimit ∧
        entry.creditLimit < entry.creditsUsed + 0) := by
      rw [CreditAmount.add_zero]
      exact fun above => unspent ⟨above.1, CreditAmount.le_of_lt _ _ above.2⟩
    simp only [reserveCheck, enabled, Bool.not_true, Bool.false_eq_true, if_false, if_neg within,
      if_neg credits]
  have made : reserveApiKeyRequestUsage state.cfg id tokens none =
      (.ok (0 : Credit), state.cfg.change id (fun _ => addReserved tokens 0 entry)) := by
    simp only [reserveApiKeyRequestUsage, if_neg (Int64.not_lt.mpr nonneg), found,
      if_neg unspent, reserveApiKeyUsageAtIndexLocked, passed]
  exact (reserve_made state id key tokens none _ nonneg made).2

theorem settle_word (state : UsageState Credit) (id : GoString) (index : Nat)
    (ticket : Ticket Credit) (actual : NonNeg Int)
    (present : state.tickets[index]? = some ticket) (opened : ticket.settled = none) :
    (post state.ledger (.settle index actual)).counter id < 2 ^ 63 ↔
      (ticket.reservation.id = id → usedTokens state.cfg id +
        (actual.val - ticket.reservation.reservedTokens.toInt) < 2 ^ 63) := by
  have held : state.ledger.holds[index]? = some ticket.hold := by
    simp [UsageState.ledger, present]
  by_cases same : ticket.reservation.id = id
  · have figure := counter_settle_same state.ledger index ticket.hold actual held opened
    subst same
    rw [show ticket.hold.key = ticket.reservation.id from rfl] at figure
    rw [figure, max_lt_iff]
    simp [settledBalance, Ticket.hold, UsageState.ledger]
  · rw [counter_settle_other state.ledger id index ticket.hold actual held opened same]
    exact iff_of_true (used_tokens_word state.cfg id).2 (fun keyed => absurd keyed same)

theorem settles_word_iff (state : UsageState Credit) (id : GoString) (event : KeyEvent Credit)
    (unreserved : ∀ key amount, state.posting event ≠ .reserve key amount) :
    (∀ ticket actualTokens, Settles state event ticket actualTokens →
      ticket.reservation.id = id → usedTokens state.cfg id +
        (actualTokens - ticket.reservation.reservedTokens.toInt) < 2 ^ 63) ↔
      (post state.ledger (state.posting event)).counter id < 2 ^ 63 := by
  have within : state.ledger.counter id < 2 ^ 63 := (used_tokens_word state.cfg id).2
  constructor
  · intro fits
    cases posted : state.posting event with
    | reserve key amount => exact absurd posted (unreserved key amount)
    | wipe key =>
        by_cases same : id = key
        · simp [post, same]
        · simpa [post, Function.update_of_ne same] using within
    | idle => exact within
    | settle index actual =>
        cases present : state.tickets[index]? with
        | none =>
            rw [post_settle_noop state.ledger index actual
              (by simp [UsageState.ledger, present])]
            exact within
        | some ticket =>
            have settles := (settles_iff_posting state event ticket actual).mpr
              ⟨index, present, posted⟩
            have opened := live_open ticket (settles_live state event ticket _ settles)
            exact (settle_word state id index ticket actual present opened).mpr
              (fits ticket actual.val settles)
  · intro fits ticket actualTokens settles keyed
    have nonneg := settles_nonneg state event ticket actualTokens settles
    rcases (settles_iff_posting state event ticket ⟨actualTokens, nonneg⟩).mp settles with
      ⟨index, present, posted⟩
    have opened := live_open ticket (settles_live state event ticket _ settles)
    rw [posted] at fits
    exact (settle_word state id index ticket _ present opened).mp fits keyed

/-- The sums of a step fit exactly where the exact posting leaves a word in the counter. -/
theorem stays_in_word_iff (state : UsageState Credit) (id : GoString) (event : KeyEvent Credit) :
    StaysInWord id state event ↔
      (post state.ledger (state.posting event)).counter id < 2 ^ 63 := by
  have within : state.ledger.counter id < 2 ^ 63 := (used_tokens_word state.cfg id).2
  cases event with
  | reset key saveErr =>
      apply settles_word_iff
      intro other amount
      simp only [UsageState.posting]
      split_ifs <;> simp
  | usage event =>
      cases event with
      | finalize index actualTokens actualCredits now saveErr =>
          exact settles_word_iff state id _ (ticket_posting_unreserved state index _)
      | release index saveErr =>
          exact settles_word_iff state id _ (ticket_posting_unreserved state index _)
      | reserve key name tokens saveErr =>
          simp only [StaysInWord]
          rcases reserve_outcome state.cfg key tokens saveErr with
            ⟨err, refused⟩ | ⟨entry, nonneg, found, passed, unspent, succeeds, made⟩
          · have idle : state.posting (.usage (.reserve key name tokens saveErr)) = .idle :=
              (reserve_refused state key name tokens saveErr err refused).2
            refine iff_of_true ?_ (by rw [idle]; exact within)
            intro same entry found enabled nonneg unspent succeeds
            subst same succeeds
            by_contra beyond
            rw [reserve_passes state key name tokens entry found enabled nonneg unspent
              (Int.not_lt.mp beyond)] at idle
            simp at idle
          · have posted : state.posting (.usage (.reserve key name tokens saveErr)) =
                .reserve key ⟨tokens.toInt, Int64.le_iff_toInt_le.mp nonneg⟩ :=
              (reserve_made state key name tokens saveErr _ nonneg made).2
            rw [posted, counter_reserve]
            by_cases same : key = id
            · subst same
              have enabled := (reserve_check_none tokens entry 0 passed).1
              simp [found, enabled, nonneg, unspent, succeeds, UsageState.ledger,
                used_tokens_found state.cfg key entry found]
            · rw [if_neg same, add_zero]
              exact iff_of_true (fun keyed => absurd keyed same) within

/-- A counter that is not negative keeps the exact sum of a step that fits. -/
theorem fitting_sum_stored (state : UsageState Credit) (id : GoString) (event : KeyEvent Credit)
    (nonneg : 0 ≤ usedTokens state.cfg id) (fits : StaysInWord id state event) :
    StoresSum word state.ledger id (state.posting event) := by
  rw [stays_in_word_iff] at fits
  cases posted : state.posting event with
  | reserve key amount =>
      intro same
      rw [posted, counter_reserve, if_pos same] at fits
      exact word_fits _ (le_trans (by decide) (add_nonneg nonneg amount.property)) fits
  | settle index actual =>
      intro hold found opened same
      subst same
      rw [posted, counter_settle_same state.ledger index hold actual found opened] at fits
      have reserved : hold.reserved.val < 2 ^ 63 := by
        rcases List.mem_map.mp (List.mem_of_getElem? found) with ⟨ticket, -, held⟩
        rw [← held]
        exact Int64.toInt_lt _
      have counter : 0 ≤ state.ledger.counter hold.key := nonneg
      have paid := actual.property
      exact word_fits _ (by unfold settledBalance; omega) (max_lt_iff.mp fits).2
  | wipe key => trivial
  | idle => trivial

end Sums

section Accounting

/-- What holds of every state a run without resets reaches, and of a key whose sums fit. -/
structure Accounted (start : AccountedStart Credit) (id : GoString)
    (state : UsageState Credit) : Prop where
  unwiped : Unwiped state.ledger
  balanced : Foundation.ReservationLedger.Balanced start.used state.ledger id
  credits : ∀ key entry, getApiKeyEntry state.cfg key = some entry →
    (0 : Credit) ≤ entry.creditsUsed

def CounterBalances (start : AccountedStart Credit) (id : GoString)
    (state : UsageState Credit) : Prop :=
  usedTokens state.cfg id = usedTokens start.cfg id +
    finalizedTokens state.tickets id + outstandingTokens state.tickets id

/-- The step takes a counter of the key below zero before the clamp. -/
def ClampFires (id : GoString) (state : UsageState Credit) : UsageEvent Credit → Prop
  | .reserve _ _ _ _ => False
  | .finalize index actualTokens actualCredits _ _ =>
      ∃ ticket entry, Settling state index ticket entry ∧ ticket.reservation.id = id ∧
        0 ≤ actualTokens ∧ (0 : Credit) ≤ actualCredits ∧
        (entry.tokensUsed + (actualTokens - ticket.reservation.reservedTokens) < 0 ∨
          entry.creditsUsed + (actualCredits - ticket.reservation.reservedCredits) < 0)
  | .release index _ =>
      ∃ ticket entry, Settling state index ticket entry ∧ ticket.reservation.id = id ∧
        (entry.tokensUsed - ticket.reservation.reservedTokens < 0 ∨
          entry.creditsUsed - ticket.reservation.reservedCredits < 0)

/-- A reservation that is made on the key stays within a positive token limit. -/
def AdmittedWithinLimit (id : GoString) (state : UsageState Credit) :
    UsageEvent Credit → Prop
  | .reserve key _ tokens saveErr => key = id → ∀ credits after entry,
      reserveApiKeyRequestUsage state.cfg id tokens saveErr = (.ok credits, after) →
      getApiKeyEntry state.cfg id = some entry → 0 < entry.tokenLimit →
      entry.tokensUsed.toInt + tokens.toInt ≤ entry.tokenLimit
  | _ => True

theorem unwiped_figures (state : UsageState Credit) (unwiped : Unwiped state.ledger)
    (id : GoString) :
    state.ledger.counted id = finalizedTokens state.tickets id ∧
      state.ledger.pending id = outstandingTokens state.tickets id := by
  have flags : ∀ ticket ∈ state.tickets, ticket.stale = false ∧ ticket.forgotten = false := by
    intro ticket member
    exact unwiped ticket.hold (List.mem_map_of_mem member)
  rw [← finalized_counted, ← outstanding_pending,
    finalized_unreset _ _ (fun ticket member => (flags ticket member).2),
    outstanding_unreset _ _ (fun ticket member => (flags ticket member).1)]
  exact ⟨rfl, rfl⟩

theorem balanced_iff (start : AccountedStart Credit) (state : UsageState Credit)
    (unwiped : Unwiped state.ledger) (id : GoString) :
    Foundation.ReservationLedger.Balanced start.used state.ledger id ↔
      CounterBalances start id state := by
  have figures := unwiped_figures state unwiped id
  unfold Foundation.ReservationLedger.Balanced CounterBalances
  rw [figures.1, figures.2]
  rfl

/-- A balanced counter is not negative. -/
theorem balanced_nonneg (start : AccountedStart Credit) (state : UsageState Credit)
    (id : GoString) (balanced : Foundation.ReservationLedger.Balanced start.used state.ledger id) :
    0 ≤ usedTokens state.cfg id := by
  have sum : usedTokens state.cfg id = _ := balanced
  have settled := add_nonneg (start.used id).property (counted_nonneg state.ledger id)
  rw [sum]
  exact add_nonneg settled (pending_nonneg state.ledger id)

theorem usage_posting_keeps (state : UsageState Credit) (event : UsageEvent Credit) :
    ¬Wipes (state.posting (.usage event)) := by
  have settle : ∀ index settled, ¬Wipes (state.ticketPosting index settled) := by
    intro index settled
    rcases ticket_posting_cases state index settled with idle | ⟨actual, posted⟩
    · simp [idle, Wipes]
    · simp [posted, Wipes]
  cases event with
  | reserve id key tokens saveErr =>
      simp only [UsageState.posting, UsageState.reservePosting]
      split <;> exact fun wipes => wipes
  | finalize index actualTokens actualCredits now saveErr => exact settle index _
  | release index saveErr => exact settle index _

/-- The step is a finalize of the ticket that the store carries out on the entry. -/
def Finalizes (state : UsageState Credit) (event : UsageEvent Credit)
    (ticket : Ticket Credit) (entry : ApiKeyEntry Credit) (actualTokens : Int64) : Prop :=
  ∃ index actualCredits now saveErr,
    event = .finalize index actualTokens actualCredits now saveErr ∧
      Settling state index ticket entry ∧ 0 ≤ actualTokens ∧ (0 : Credit) ≤ actualCredits

/-- What every usage operation keeps of the entry it changes. -/
structure KeepsEntry (id : GoString) (entry : ApiKeyEntry Credit)
    (change : ApiKeyEntry Credit → ApiKeyEntry Credit) : Prop where
  keyed : ∀ other, other.id = id → (change other).id = id
  tokenLimit : (change entry).tokenLimit = entry.tokenLimit
  creditLimit : (change entry).creditLimit = entry.creditLimit
  credits : (0 : Credit) ≤ entry.creditsUsed → (0 : Credit) ≤ (change entry).creditsUsed

theorem clamp_credits_nonneg (credits : Credit) : (0 : Credit) ≤ clampCredits credits := by
  unfold clampCredits
  split_ifs with negative
  · exact CreditAmount.zero_nonneg
  · exact (CreditAmount.not_negative_iff credits).mp negative

theorem step_store (state : UsageState Credit) (event : UsageEvent Credit) :
    (state.step event).cfg = state.cfg ∨
      ∃ id entry change, getApiKeyEntry state.cfg id = some entry ∧
        KeepsEntry id entry change ∧ (state.step event).cfg = state.cfg.change id change ∧
        ((change entry).enabled = entry.enabled ∨ ∃ ticket actualTokens,
          ticket.reservation.id = id ∧ Finalizes state event ticket entry actualTokens) := by
  cases event with
  | reserve id key tokens saveErr =>
      rcases reserve_outcome state.cfg id tokens saveErr with
        ⟨err, refused⟩ | ⟨entry, nonneg, found, _, _, _, made⟩
      · left
        simp only [UsageState.step]
        rw [(reserve_refused state id key tokens saveErr err refused).1]
      · right
        have same := get_entry_id state.cfg id entry found
        refine ⟨id, entry, fun _ => addReserved tokens 0 entry, found,
          ⟨fun _ _ => same, rfl, rfl, ?_⟩, ?_, Or.inl rfl⟩
        · intro credits
          simpa [addReserved, CreditAmount.add_zero] using credits
        · simp only [UsageState.step]
          rw [(reserve_made state id key tokens saveErr _ nonneg made).1]
  | finalize index actualTokens actualCredits now saveErr =>
      simp only [UsageState.step, UsageState.settle]
      cases present : state.tickets[index]? with
      | none => exact Or.inl rfl
      | some ticket =>
          cases live : ticket.reservation.live with
          | false => simp [Ticket.finalize, live, finalize_closed]
          | true =>
              simp only [Ticket.finalize, live, if_true, finalize_live ticket.reservation live]
              rcases finalize_outcome state.cfg ticket.reservation.id
                ticket.reservation.reservedTokens saveErr ticket.reservation.reservedCredits
                actualTokens actualCredits now with
                ⟨err, _, refused⟩ | ⟨entry, tokens, credits, found, made⟩
              · rw [refused]
                exact Or.inl rfl
              · rw [made]
                exact Or.inr ⟨_, entry, finalizeUsage _ _ _ _ _, found,
                  ⟨fun _ same => same, rfl, rfl, fun _ => clamp_credits_nonneg _⟩, rfl,
                  Or.inr ⟨ticket, actualTokens, rfl, index, actualCredits, now, saveErr, rfl,
                    ⟨present, live, found⟩, tokens, credits⟩⟩
  | release index saveErr =>
      simp only [UsageState.step, UsageState.settle]
      cases present : state.tickets[index]? with
      | none => exact Or.inl rfl
      | some ticket =>
          cases live : ticket.reservation.live with
          | false => simp [Ticket.release, live, release_closed]
          | true =>
              simp only [Ticket.release, live, if_true, release_live ticket.reservation live]
              rcases release_outcome state.cfg ticket.reservation.id
                ticket.reservation.reservedTokens saveErr
                ticket.reservation.reservedCredits with
                ⟨err, _, refused⟩ | ⟨entry, found, made⟩
              · rw [refused]
                exact Or.inl rfl
              · rw [made]
                exact Or.inr ⟨_, entry, releaseReserved _ _, found,
                  ⟨fun _ same => same, rfl, rfl, fun _ => clamp_credits_nonneg _⟩, rfl,
                  Or.inl rfl⟩

/-- The entry a key has after a step keeps its limits and its counters' sign. -/
theorem step_entry (state : UsageState Credit) (event : UsageEvent Credit)
    (id : GoString) (after : ApiKeyEntry Credit)
    (found : getApiKeyEntry (state.step event).cfg id = some after) :
    ∃ before, getApiKeyEntry state.cfg id = some before ∧
      after.tokenLimit = before.tokenLimit ∧ after.creditLimit = before.creditLimit ∧
      ((0 : Credit) ≤ before.creditsUsed → (0 : Credit) ≤ after.creditsUsed) := by
  rcases step_store state event with same | ⟨key, entry, change, present, keeps, changed, _⟩
  · rw [same] at found
    exact ⟨after, found, rfl, rfl, fun nonneg => nonneg⟩
  · rw [changed] at found
    by_cases same : id = key
    · subst same
      rw [get_change state.cfg id change keeps.keyed, present, Option.map_some,
        Option.some.injEq] at found
      rw [← found]
      exact ⟨entry, present, keeps.tokenLimit, keeps.creditLimit, keeps.credits⟩
    · rw [get_change_other state.cfg key change keeps.keyed id same] at found
      exact ⟨after, found, rfl, rfl, fun nonneg => nonneg⟩

variable (start : AccountedStart Credit) (id : GoString)

theorem accounted_start : Accounted start id start.state := by
  constructor
  · intro hold member
    simp [UsageState.ledger, AccountedStart.state] at member
  · simp [Foundation.ReservationLedger.Balanced, UsageState.ledger, AccountedStart.state,
      Ledger.counted, Ledger.pending, AccountedStart.used]
  · exact start.credits_nonneg

theorem unwiped_step (state : UsageState Credit) (event : UsageEvent Credit)
    (unwiped : Unwiped state.ledger) : Unwiped (state.step event).ledger := by
  have posted := key_step_posts state (.usage event)
  rw [UsageState.keyStep] at posted
  rw [posted]
  exact unwiped_post state.ledger unwiped _ (usage_posting_keeps state event)

/-- The exact posting of a step is balanced; the counter is, where it holds its sum. -/
theorem posting_balanced (state : UsageState Credit) (event : UsageEvent Credit)
    (inv : Accounted start id state) :
    Foundation.ReservationLedger.Balanced start.used
      (post state.ledger (state.posting (.usage event))) id :=
  balanced_post start.used state.ledger inv.unwiped _ (usage_posting_keeps state event) id
    inv.balanced

theorem accounted_step (state : UsageState Credit) (event : UsageEvent Credit)
    (inv : Accounted start id state) (fits : StaysInWord id state (.usage event)) :
    Accounted start id (state.step event) := by
  constructor
  · exact unwiped_step state event inv.unwiped
  · have posted := key_step_posts state (.usage event)
    rw [UsageState.keyStep] at posted
    have stored := stored_counter word state.ledger id _ (fitting_sum_stored state id
      (.usage event) (balanced_nonneg start state id inv.balanced) fits)
    rw [posted, Foundation.ReservationLedger.Balanced, stored]
    exact posting_balanced start id state event inv
  · intro key after found
    rcases step_entry state event key after found with ⟨before, present, _, _, credits⟩
    exact credits (inv.credits key before present)

/-- A counter that balances after a step holds the sum of the step. -/
theorem balance_needs_word (state : UsageState Credit) (event : UsageEvent Credit)
    (inv : Accounted start id state)
    (after : CounterBalances start id (state.step event)) :
    StaysInWord id state (.usage event) := by
  have posted := key_step_posts state (.usage event)
  rw [UsageState.keyStep] at posted
  rw [stays_in_word_iff, posting_balanced start id state event inv]
  have balance := (balanced_iff start _ (unwiped_step state event inv.unwiped) id).mpr after
  rw [Foundation.ReservationLedger.Balanced, posted] at balance
  have sum := (used_tokens_word (state.step event).cfg id).2
  rw [show usedTokens (state.step event).cfg id = (state.step event).ledger.counter id from rfl,
    posted, balance] at sum
  exact sum

/-- A settlement of a counter that is balanced never needs the clamp. -/
theorem balanced_clamp_idle (state : UsageState Credit) (inv : Accounted start id state)
    (event : UsageEvent Credit) (fits : StaysInWord id state (.usage event)) :
    ¬ClampFires id state event := by
  have exactly : ∀ index ticket entry, Settling state index ticket entry →
      ticket.reservation.id = id → ∀ actual : NonNeg Int,
        0 ≤ entry.tokensUsed.toInt + (actual.val - ticket.reservation.reservedTokens.toInt) := by
    intro index ticket entry settling same actual
    rcases settling with ⟨present, live, found⟩
    subst same
    have held : state.ledger.holds[index]? = some ticket.hold := by
      simp [UsageState.ledger, present]
    have settled := balanced_settles_exactly start.used state.ledger inv.unwiped index ticket.hold
      actual held (live_open ticket live) inv.balanced
    rw [← used_tokens_found state.cfg _ entry found]
    exact settled
  intro fires
  cases event with
  | reserve id key tokens saveErr => exact fires
  | finalize index actualTokens actualCredits now saveErr =>
      rcases fires with ⟨ticket, entry, settling, same, tokens, credits, below | below⟩
      · have sum := exactly index ticket entry settling same
          ⟨actualTokens.toInt, Int64.le_iff_toInt_le.mp tokens⟩
        have bound := fits ticket actualTokens.toInt
          ⟨⟨entry, settling⟩, rfl, tokens, credits⟩ same
        rw [← same, used_tokens_found state.cfg _ entry settling.2.2] at bound
        rw [Int64.lt_iff_toInt_lt, finalized_word,
          word_fits _ (le_trans (by decide) sum) bound] at below
        exact Int.not_lt.mpr sum below
      · rw [ticket.free, CreditAmount.sub_zero] at below
        exact (CreditAmount.not_negative_iff _).mpr (CreditAmount.add_nonneg _ _
          (inv.credits _ entry settling.2.2) credits) below
  | release index saveErr =>
      rcases fires with ⟨ticket, entry, settling, same, below | below⟩
      · have sum := exactly index ticket entry settling same ⟨0, le_refl 0⟩
        have used := Int64.toInt_lt entry.tokensUsed
        have held : 0 ≤ ticket.reservation.reservedTokens.toInt :=
          Int64.le_iff_toInt_le.mp ticket.reserved_nonneg
        rw [Int64.lt_iff_toInt_lt, released_word,
          word_fits _ (le_trans (by decide) sum)
            (lt_of_le_of_lt (by simpa using held) used)] at below
        exact Int.not_lt.mpr sum below
      · rw [ticket.free, CreditAmount.sub_zero] at below
        exact (CreditAmount.not_negative_iff _).mpr
          (inv.credits _ entry settling.2.2) below

theorem reserve_admitted (state : UsageState Credit) (inv : Accounted start id state)
    (event : UsageEvent Credit) (fits : StaysInWord id state (.usage event)) :
    AdmittedWithinLimit id state event := by
  cases event with
  | reserve key name tokens saveErr =>
      intro same credits after entry reserved found positive
      subst same
      rcases reserve_outcome state.cfg key tokens saveErr with
        ⟨err, refused⟩ | ⟨other, nonneg, present, passed, unspent, succeeds, _⟩
      · rw [refused] at reserved
        simp at reserved
      · rw [found, Option.some.injEq] at present
        rw [← present] at passed unspent
        have check := reserve_check_none tokens entry 0 passed
        have sum := fits rfl entry found check.1 nonneg unspent succeeds
        have used := balanced_nonneg start state key inv.balanced
        rw [used_tokens_found state.cfg key entry found] at used
        have held : 0 ≤ tokens.toInt := Int64.le_iff_toInt_le.mp nonneg
        have within := check.2 positive
        rw [reserved_word, word_fits _ (by omega) sum] at within
        exact within
  | finalize index actualTokens actualCredits now saveErr => trivial
  | release index saveErr => trivial

/-- One enabled key with a limit of 100 tokens, no credit limit and no usage yet. -/
def limitedKey : ApiKeyEntry Int where
  id := lit "k"
  name := lit "shared"
  key := lit "sk-1"
  enabled := true
  createdAt := 0
  lastUsedAt := 0
  tokenLimit := 100
  creditLimit := 0
  tokensUsed := 0
  creditsUsed := 0
  requestsCount := 0

/-- The same key with the largest limit and all but 7 of its tokens used. -/
def fullStart : AccountedStart Int :=
  AccountedStart.of ⟨true, [{ limitedKey with
    tokenLimit := 2 ^ 63 - 1
    tokensUsed := 9223372036854775800 }]⟩ (by decide)

def wrappingEvents : List (UsageEvent Int) :=
  [.reserve (lit "k") (lit "sk-1") 10 none, .finalize 0 10 0 0 none]

end Accounting

section AutoDisable

variable (start : AccountedStart Credit) (id : GoString)

/-- The key is under a token limit only, enabled and with usage to spare. -/
structure TokenLimited (cfg : Config Credit) (id : GoString) (entry : ApiKeyEntry Credit) :
    Prop where
  found : getApiKeyEntry cfg id = some entry
  enabled : entry.enabled = true
  limited : 0 < entry.tokenLimit
  below : entry.tokensUsed.toInt < entry.tokenLimit
  uncredited : ¬(0 : Credit) < entry.creditLimit

def settledUsage (id : GoString) (state : UsageState Credit) : Int :=
  usedTokens start.cfg id + finalizedTokens state.tickets id

/-- The step turns the enabled key off. -/
def Disables (state : UsageState Credit) (event : UsageEvent Credit) (id : GoString) : Prop :=
  ∃ before after, getApiKeyEntry state.cfg id = some before ∧ before.enabled = true ∧
    getApiKeyEntry (state.step event).cfg id = some after ∧ after.enabled = false

/-- A step disables the key only when its settled usage has reached the limit. -/
def DisablesSoundly (id : GoString) (limit : Int) (state : UsageState Credit)
    (event : UsageEvent Credit) : Prop :=
  Disables state event id → limit ≤ settledUsage start id (state.step event)

/-- At a finalize of the enabled key, the usage settled with this request reaches
the limit by itself, or stays below it together with all other reservations. -/
def LimitUndisputed (id : GoString) (limit : Int) (state : UsageState Credit)
    (event : UsageEvent Credit) : Prop :=
  ∀ ticket entry actualTokens, Finalizes state event ticket entry actualTokens →
    ticket.reservation.id = id → entry.enabled = true →
      limit ≤ settledUsage start id state + actualTokens.toInt ∨
      settledUsage start id state + actualTokens.toInt +
        (outstandingTokens state.tickets id - ticket.reservation.reservedTokens.toInt) < limit

theorem finalizes_store (state : UsageState Credit) (event : UsageEvent Credit)
    (ticket : Ticket Credit) (entry : ApiKeyEntry Credit) (actualTokens : Int64)
    (finalizes : Finalizes state event ticket entry actualTokens) :
    ∃ index actualCredits now, ∃ nonneg : 0 ≤ actualTokens,
      state.tickets[index]? = some ticket ∧ ticket.reservation.live = true ∧
      state.posting (.usage event) =
        .settle index ⟨actualTokens.toInt, Int64.le_iff_toInt_le.mp nonneg⟩ ∧
      getApiKeyEntry (state.step event).cfg ticket.reservation.id =
        some (finalizeUsage ticket.reservation.reservedTokens
          ticket.reservation.reservedCredits actualTokens actualCredits now entry) := by
  rcases finalizes with ⟨index, actualCredits, now, saveErr, same, settling, tokens, credits⟩
  rcases settling with ⟨present, live, found⟩
  have held : (0 : Credit) ≤ ticket.reservation.reservedCredits := by
    rw [ticket.free]
    exact CreditAmount.zero_nonneg
  have applied := finalize_applied state.cfg ticket.reservation.id
    ticket.reservation.reservedTokens saveErr ticket.reservation.reservedCredits actualTokens
    actualCredits now entry found ticket.reserved_nonneg held tokens credits
  refine ⟨index, actualCredits, now, tokens, present, live, ?_, ?_⟩
  · rw [same]
    simp only [UsageState.posting, UsageState.ticketPosting, present, live, if_true,
      finalize_live ticket.reservation live, applied, settled_saved saveErr actualTokens tokens,
      settlePosting]
  · rw [same]
    simp only [UsageState.step, UsageState.settle, present, Ticket.finalize, live, if_true,
      finalize_live ticket.reservation live, applied]
    rw [get_change state.cfg _ (finalizeUsage _ _ _ _ _) (fun _ same => same), found,
      Option.map_some]

/-- A finalize moves the tokens of one request from outstanding to finalized. -/
theorem finalize_figures (state : UsageState Credit) (unwiped : Unwiped state.ledger)
    (event : UsageEvent Credit) (ticket : Ticket Credit) (entry : ApiKeyEntry Credit)
    (actualTokens : Int64) (finalizes : Finalizes state event ticket entry actualTokens) :
    finalizedTokens (state.step event).tickets ticket.reservation.id =
        finalizedTokens state.tickets ticket.reservation.id + actualTokens.toInt ∧
      outstandingTokens (state.step event).tickets ticket.reservation.id =
        outstandingTokens state.tickets ticket.reservation.id -
          ticket.reservation.reservedTokens.toInt := by
  rcases finalizes_store state event ticket entry actualTokens finalizes with
    ⟨index, _, _, nonneg, present, live, posted, _⟩
  have before := unwiped_figures state unwiped ticket.reservation.id
  have after := unwiped_figures (state.step event) (unwiped_step state event unwiped)
    ticket.reservation.id
  have refined := key_step_posts state (.usage event)
  rw [UsageState.keyStep, posted] at refined
  have held : state.ledger.holds[index]? = some ticket.hold := by
    simp [UsageState.ledger, present]
  have opened := live_open ticket live
  have flags := unwiped ticket.hold (List.mem_of_getElem? held)
  rw [← after.1, ← after.2, ← before.1, ← before.2, refined]
  change (post state.ledger (.settle index _)).counted _ = _ ∧
    (post state.ledger (.settle index _)).pending _ = _
  rw [counted_settle _ _ index ticket.hold _ held opened flags.2,
    pending_settle _ _ index ticket.hold _ held opened]
  have pending : ticket.hold.pendingAmount ticket.reservation.id =
      ticket.reservation.reservedTokens.toInt := by
    simp only [Hold.pendingAmount, flags.1]
    simp [Ticket.hold, opened]
  rw [pending]
  simp [Ticket.hold]

/-- A step turns off a key without a credit limit exactly when it is a finalize
after which settled and outstanding tokens together reach the token limit. -/
theorem disables_iff (state : UsageState Credit) (inv : Accounted start id state)
    (event : UsageEvent Credit) (fits : StaysInWord id state (.usage event)) (limit : Int)
    (limits : ∀ entry, getApiKeyEntry state.cfg id = some entry →
      entry.tokenLimit = limit ∧ 0 < limit ∧ ¬(0 : Credit) < entry.creditLimit) :
    Disables state event id ↔ ∃ ticket entry actualTokens,
      Finalizes state event ticket entry actualTokens ∧ ticket.reservation.id = id ∧
        entry.enabled = true ∧
        limit ≤ settledUsage start id (state.step event) +
          outstandingTokens (state.step event).tickets id := by
  have reached := accounted_step start id state event inv fits
  have after_counter : CounterBalances start id (state.step event) :=
    (balanced_iff start _ reached.unwiped id).mp reached.balanced
  unfold CounterBalances at after_counter
  have decided : ∀ ticket entry actualTokens,
      Finalizes state event ticket entry actualTokens → ticket.reservation.id = id →
      entry.enabled = true → ∃ after,
        getApiKeyEntry (state.step event).cfg id = some after ∧
        (after.enabled = false ↔ limit ≤ settledUsage start id (state.step event) +
          outstandingTokens (state.step event).tickets id) := by
    intro ticket entry actualTokens finalizes same enabled
    subst same
    rcases finalizes_store state event ticket entry actualTokens finalizes with
      ⟨index, actualCredits, now, _, _, _, _, found⟩
    rcases finalizes with ⟨_, _, _, _, _, settling, _, _⟩
    have bounds := limits entry settling.2.2
    refine ⟨_, found, ?_⟩
    rw [settledUsage, ← after_counter, used_tokens_found _ _ _ found]
    simp [finalizeUsage, settleUsage, tokenLimitReached, creditLimitReached, bounds.1,
      bounds.2.1, bounds.2.2, enabled]
  constructor
  · intro disables
    rcases disables with ⟨before, after, found, enabled, present, disabled⟩
    rcases step_store state event with same | ⟨key, entry, change, held, keeps, changed, cause⟩
    · rw [same, found, Option.some.injEq] at present
      rw [← present, enabled] at disabled
      simp at disabled
    · by_cases same : id = key
      · subst same
        rw [found, Option.some.injEq] at held
        subst held
        rcases cause with kept | ⟨ticket, actualTokens, same, finalizes⟩
        · rw [changed, get_change state.cfg id change keeps.keyed, found, Option.map_some,
            Option.some.injEq] at present
          rw [← present, kept, enabled] at disabled
          simp at disabled
        · rcases decided ticket before actualTokens finalizes same enabled with
            ⟨other, reached, outcome⟩
          rw [present, Option.some.injEq] at reached
          subst reached
          exact ⟨ticket, before, actualTokens, finalizes, same, enabled,
            outcome.mp disabled⟩
      · rw [changed, get_change_other state.cfg key change keeps.keyed id same, found,
          Option.some.injEq] at present
        rw [← present, enabled] at disabled
        simp at disabled
  · intro reached
    rcases reached with ⟨ticket, entry, actualTokens, finalizes, same, enabled, full⟩
    rcases decided ticket entry actualTokens finalizes same enabled with
      ⟨after, present, outcome⟩
    rcases finalizes with ⟨_, _, _, _, _, settling, _, _⟩
    exact ⟨entry, after, same ▸ settling.2.2, enabled, present, outcome.mpr full⟩

/-- What soundness of one step asks for, read in the state before it. -/
theorem disables_soundly_iff (state : UsageState Credit) (inv : Accounted start id state)
    (event : UsageEvent Credit) (fits : StaysInWord id state (.usage event)) (limit : Int)
    (limits : ∀ entry, getApiKeyEntry state.cfg id = some entry →
      entry.tokenLimit = limit ∧ 0 < limit ∧ ¬(0 : Credit) < entry.creditLimit) :
    DisablesSoundly start id limit state event ↔ LimitUndisputed start id limit state event := by
  unfold DisablesSoundly LimitUndisputed
  rw [disables_iff start id state inv event fits limit limits]
  constructor
  · intro sound ticket entry actualTokens finalizes same enabled
    subst same
    have figures := finalize_figures state inv.unwiped event ticket entry actualTokens finalizes
    by_cases full : limit ≤ settledUsage start ticket.reservation.id (state.step event) +
        outstandingTokens (state.step event).tickets ticket.reservation.id
    · have reached := sound ⟨ticket, entry, actualTokens, finalizes, rfl, enabled, full⟩
      simp only [settledUsage, figures.1] at reached ⊢
      omega
    · simp only [settledUsage, figures.1, figures.2] at full ⊢
      omega
  · intro undisputed reached
    rcases reached with ⟨ticket, entry, actualTokens, finalizes, same, enabled, full⟩
    have decided := undisputed ticket entry actualTokens finalizes same enabled
    subst same
    have figures := finalize_figures state inv.unwiped event ticket entry actualTokens finalizes
    simp only [settledUsage, figures.1, figures.2] at full decided ⊢
    omega

def limitedStart : AccountedStart Int :=
  AccountedStart.of ⟨true, [limitedKey]⟩ (by decide)

theorem limited_key_limited : TokenLimited limitedStart.cfg (lit "k") limitedKey := by
  constructor <;> decide

/-- Two requests share the limit; the first to finish settles 60 of its tokens
while the 40 of the other are only reserved. -/
def sharedLimitEvents : List (UsageEvent Int) :=
  [.reserve (lit "k") (lit "sk-1") 60 none, .reserve (lit "k") (lit "sk-1") 40 none,
    .finalize 0 60 0 0 none]

theorem shared_limit_fits : StepsMeet UsageState.step
    (fun state event => StaysInWord (lit "k") state (.usage event)) limitedStart.state
    sharedLimitEvents := by
  simp only [sharedLimitEvents, steps_meet_cons, stays_in_word_iff]
  exact ⟨by decide, by decide, by decide, steps_meet_nil _ _ _⟩

end AutoDisable

section Resets

/-- What was settled or is reserved on the key since its last reset is counted. -/
def UsageCovered (state : UsageState Credit) : Prop :=
  ∀ id, finalizedSinceReset state.tickets id + outstandingSinceReset state.tickets id ≤
    usedTokens state.cfg id

/-- A reservation older than the last reset of its key is settled only if it had
reserved nothing, or while nothing has been settled or reserved since the reset. -/
def StaleSettlesHarmless (state : UsageState Credit) (event : KeyEvent Credit) : Prop :=
  ∀ ticket actualTokens, Settles state event ticket actualTokens → ticket.stale = true →
    ticket.reservation.reservedTokens.toInt = 0 ∨
      finalizedSinceReset state.tickets ticket.reservation.id +
        outstandingSinceReset state.tickets ticket.reservation.id + actualTokens = 0

/-- Once every reservation of a key is settled, what was finalized since the last
reset is counted. -/
def LaterUsageKept (state : UsageState Credit) : Prop :=
  ∀ id, (∀ ticket ∈ state.tickets, ticket.reservation.id = id → ticket.settled ≠ none) →
    finalizedSinceReset state.tickets id ≤ usedTokens state.cfg id

theorem usage_covered_iff (state : UsageState Credit) :
    UsageCovered state ↔ ∀ id, Covered state.ledger id := by
  unfold UsageCovered Covered
  simp only [finalized_counted, outstanding_pending]
  rfl

theorem settles_harmless_iff (state : UsageState Credit) (event : KeyEvent Credit) :
    StaleSettlesHarmless state event ↔
      StaleSettlesIdle state.ledger (state.posting event) := by
  constructor
  · intro harmless
    cases posted : state.posting event with
    | settle index actual =>
        intro hold held opened stale
        simp only [UsageState.ledger, List.getElem?_map, Option.map_eq_some_iff] at held
        rcases held with ⟨ticket, present, same⟩
        subst same
        have settles := (settles_iff_posting state event ticket actual).mpr
          ⟨index, present, posted⟩
        rw [← finalized_counted, ← outstanding_pending]
        exact harmless ticket actual.val settles stale
    | reserve id amount => trivial
    | wipe id => trivial
    | idle => trivial
  · intro idle ticket actualTokens settles stale
    have nonneg := settles_nonneg state event ticket actualTokens settles
    rcases (settles_iff_posting state event ticket ⟨actualTokens, nonneg⟩).mp settles with
      ⟨index, present, posted⟩
    have live := settles_live state event ticket actualTokens settles
    rw [posted] at idle
    have held : state.ledger.holds[index]? = some ticket.hold := by
      simp [UsageState.ledger, present]
    rw [finalized_counted, outstanding_pending]
    exact idle ticket.hold held (live_open ticket live) stale

variable (start : AccountedStart Credit)

theorem covered_start : CoveredLedger start.state.ledger := by
  constructor
  · intro hold member
    simp [UsageState.ledger, AccountedStart.state] at member
  · intro id
    simpa [Covered, UsageState.ledger, AccountedStart.state, Ledger.counted,
      Ledger.pending] using start.tokens_nonneg id
  · intro hold member
    simp [UsageState.ledger, AccountedStart.state] at member

theorem usage_covered_kept (state : UsageState Credit) (covered : UsageCovered state) :
    LaterUsageKept state := by
  intro id settled
  have nothing := pending_nonneg state.ledger id
  rw [← outstanding_pending] at nothing
  have total := covered id
  omega

/-- A counter that covers its key after a step holds the sum of the step: one that wrapped is
not positive. -/
theorem covered_needs_word (state : UsageState Credit) (event : KeyEvent Credit)
    (inv : CoveredLedger state.ledger) (id : GoString)
    (covered : Covered (postStored word state.ledger (state.posting event)) id) :
    StaysInWord id state event := by
  have used := used_tokens_word state.cfg id
  have within : state.ledger.counter id < 2 ^ 63 := used.2
  rw [stays_in_word_iff]
  by_contra beyond
  rw [Int.not_lt] at beyond
  have counted := counted_nonneg (post state.ledger (state.posting event)) id
  have pending := pending_nonneg (post state.ledger (state.posting event)) id
  change (post state.ledger (state.posting event)).counted id +
    (post state.ledger (state.posting event)).pending id ≤ _ at covered
  cases posted : state.posting event with
  | wipe key =>
      rw [posted] at beyond
      by_cases same : id = key
      · simp [post, same] at beyond
      · simp only [post, Function.update_of_ne same] at beyond
        exact absurd within (Int.not_lt.mpr beyond)
  | idle =>
      rw [posted] at beyond
      exact absurd within (Int.not_lt.mpr beyond)
  | reserve key amount =>
      have small := reserves_word state event key amount posted
      rw [posted] at beyond covered counted pending
      rw [counter_reserve] at beyond
      by_cases same : key = id
      · subst same
        rw [if_pos rfl] at beyond
        have wrapped := word_passes _ beyond (by omega)
        simp only [postStored, Function.update_self] at covered
        omega
      · rw [if_neg same, add_zero] at beyond
        exact absurd within (Int.not_lt.mpr beyond)
  | settle index actual =>
      cases present : state.tickets[index]? with
      | none =>
          rw [posted, post_settle_noop state.ledger index actual
            (by simp [UsageState.ledger, present])] at beyond
          exact absurd within (Int.not_lt.mpr beyond)
      | some ticket =>
          have settles := (settles_iff_posting state event ticket actual).mpr
            ⟨index, present, posted⟩
          have opened := live_open ticket (settles_live state event ticket _ settles)
          have held : state.ledger.holds[index]? = some ticket.hold := by
            simp [UsageState.ledger, present]
          have remembered := inv.remembered ticket.hold (List.mem_of_getElem? held) opened
          have small := settles_word state event ticket actual.val settles
          rw [posted] at beyond covered counted pending
          by_cases same : ticket.hold.key = id
          · subst same
            have reserved := ticket.hold.reserved.property
            have unsettled : ticket.hold.actual = none := opened
            rw [counter_settle_same state.ledger index ticket.hold actual held opened,
              le_max_iff] at beyond
            have sum := beyond.resolve_left (by decide)
            have wrapped := word_passes _ sum (by unfold settledBalance; omega)
            simp only [postStored, held, unsettled, if_true, Function.update_self,
              max_eq_left wrapped.le] at covered
            rw [counted_settle state.ledger _ index ticket.hold actual held opened remembered,
              if_pos rfl] at covered
            have before := counted_nonneg state.ledger ticket.hold.key
            unfold settledBalance at sum
            omega
          · rw [counter_settle_other state.ledger id index ticket.hold actual held opened
              same] at beyond
            exact absurd within (Int.not_lt.mpr beyond)

theorem covered_stored (state : UsageState Credit) (event : KeyEvent Credit)
    (inv : CoveredLedger state.ledger) (fits : ∀ id, StaysInWord id state event) :
    postStored word state.ledger (state.posting event) =
      post state.ledger (state.posting event) := by
  apply post_stored
  intro id
  have nonneg : 0 ≤ usedTokens state.cfg id :=
    (add_nonneg (counted_nonneg state.ledger id) (pending_nonneg state.ledger id)).trans
      (inv.covered id)
  exact fitting_sum_stored state id event nonneg (fits id)

/-- Resets and settlements in any order: usage after the last reset stays counted in every state
exactly when every sum of the run fits a signed word and every settlement of an older
reservation is harmless, and then nothing finalized after the reset is lost. -/
theorem later_usage_kept (events : List (KeyEvent Credit)) :
    (Always UsageState.keyStep UsageCovered start.state events ↔
      StepsMeet UsageState.keyStep (fun state event =>
        (∀ id, StaysInWord id state event) ∧ StaleSettlesHarmless state event)
        start.state events) ∧
    (StepsMeet UsageState.keyStep (fun state event =>
        (∀ id, StaysInWord id state event) ∧ StaleSettlesHarmless state event)
        start.state events →
      Always UsageState.keyStep LaterUsageKept start.state events) := by
  have exactly := always_iff_steps_meet UsageState.keyStep
    (fun state event => (∀ id, StaysInWord id state event) ∧ StaleSettlesHarmless state event)
    (fun state : UsageState Credit => CoveredLedger state.ledger) UsageCovered
    (fun state inv => (usage_covered_iff state).mpr inv.covered)
    (fun state event inv guard => by
      rw [key_step_posts, covered_stored state event inv guard.1]
      exact covered_ledger_kept state.ledger _ inv
        ((settles_harmless_iff state event).mp guard.2))
    (fun state event inv covered => by
      rw [usage_covered_iff, key_step_posts] at covered
      have fits : ∀ id, StaysInWord id state event :=
        fun id => covered_needs_word state event inv id (covered id)
      rw [covered_stored state event inv fits] at covered
      exact ⟨fits, (settles_harmless_iff state event).mpr
        (stale_settles_idle_needed state.ledger _ inv covered)⟩)
    start.state (covered_start start) events
  refine ⟨exactly, fun guards earlier later same => ?_⟩
  exact usage_covered_kept _ (exactly.mpr guards earlier later same)

/-- A reservation of 10 tokens outlives a reset; another request settles 10 tokens
before the first one is released. -/
def resetEvents : List (KeyEvent Int) :=
  [.usage (.reserve (lit "k") (lit "sk-1") 10 none), .reset (lit "k") none,
    .usage (.reserve (lit "k") (lit "sk-1") 10 none),
    .usage (.finalize 1 10 0 0 none), .usage (.release 0 none)]

/-- After the release the counter is back at zero. -/
theorem later_usage_lost :
    ¬Always UsageState.keyStep LaterUsageKept limitedStart.state resetEvents := by
  intro kept
  have counted := run_of_always _ _ _ _ kept (lit "k") (by decide)
  exact absurd counted (by decide)

end Resets

end KiroProxy.UsageAccounting
