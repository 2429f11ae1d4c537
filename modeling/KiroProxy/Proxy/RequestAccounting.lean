import KiroProxy.Proxy.Responders

/-!
# The accounting of a request

However a request goes on over its accounts and attempts, it is recorded once, its reservation
is settled once, and no account is picked twice. Before the handler returns it books only picks,
calls and failed attempts; every return adds one closing.
-/

namespace KiroProxy.RequestHandling

open Accounts
open ApiKeys (CreditAmount)
open ClaudeStream ClaudeUsage FollowupPayloads GoStrings Pool UpstreamCalls
open UsageAccounting (ApiKeyUsageReservation)

set_option autoImplicit false

variable {Credit : Type}

namespace Booking

/-- Written before the handler returns. -/
def interim : Booking Credit → Bool
  | .picked _ => true
  | .called _ _ => true
  | .attemptError _ _ => true
  | _ => false

def record : Booking Credit → Option (RequestRecord Credit)
  | .request record => some record
  | _ => none

def isOutcome : Booking Credit → Bool
  | .recordOutcome _ _ _ _ => true
  | _ => false

def settles : Booking Credit → Bool
  | .finalized _ _ _ _ _ => true
  | .released _ _ _ => true
  | _ => false

def pickedID : Booking Credit → Option GoString
  | .picked accountID => some accountID
  | _ => none

def isCall : Booking Credit → Bool
  | .called _ _ => true
  | _ => false

def isCallTo (id : GoString) : Booking Credit → Bool
  | .called accountID _ => accountID == id
  | _ => false

end Booking

section Statement

def records (bookings : List (Booking Credit)) : List (RequestRecord Credit) :=
  bookings.filterMap Booking.record

/-- The accounts that were picked, in order. -/
def picks (bookings : List (Booking Credit)) : List GoString :=
  bookings.filterMap Booking.pickedID

/-- A call ended without an error. -/
def Answered (bookings : List (Booking Credit)) : Prop := ∃ id, Booking.called id true ∈ bookings

/-- Every booking of a request once. An account without an id has no outcome. -/
structure AccountedOnce (plan : RequestRetryPlan)
    (reservation : Option (ApiKeyUsageReservation Credit)) (bookings : List (Booking Credit)) :
    Prop where
  recorded : ∃ record, records bookings = [record] ∧
    (record.success = true ↔ Answered bookings)
  outcomes : bookings.countP Booking.isOutcome ≤ 1
  tried : picks bookings ≠ [] → [] ∉ picks bookings →
    bookings.countP Booking.isOutcome = 1
  finalized : ∀ held ∈ reservation, held.live = true → Answered bookings →
    ∃ record, records bookings = [record] ∧ bookings.filter Booking.settles =
      [.finalized held.id held.reservedTokens held.reservedCredits
        (record.inputTokens + record.outputTokens) record.credits]
  released : ∀ held ∈ reservation, held.live = true → ¬ Answered bookings →
    bookings.filter Booking.settles =
      [.released held.id held.reservedTokens held.reservedCredits]
  calls : bookings.countP Booking.isCall ≤ plan.maxPerRequest
  accountCalls : ∀ id, bookings.countP (Booking.isCallTo id) ≤ plan.maxPerAccount
  picked : (picks bookings).Nodup

end Statement

section Closings

/-- Bookings of a request that has not ended yet. -/
structure Interim (plan : RequestRetryPlan) (bookings : List (Booking Credit)) : Prop where
  interim : ∀ booking ∈ bookings, booking.interim = true
  picked : (picks bookings).Nodup
  calls : bookings.countP Booking.isCall ≤ plan.maxPerRequest
  accountCalls : ∀ id, bookings.countP (Booking.isCallTo id) ≤ plan.maxPerAccount

variable [CreditAmount Credit] {Event : Type} (plan : RequestRetryPlan)
  (request : HandledRequest Credit)

/-- How a handler returns: the bookings before, and one closing. -/
inductive Closed (run : RequestRun Credit Event) : Prop where
  | failed (earlier : List (Booking Credit)) (account : Option (Account Credit)) (status : Nat)
      (message : GoString) (interim : Interim plan earlier) (unanswered : ¬ Answered earlier)
      (untried : account = none → picks earlier = [])
      (known : ∀ tried ∈ account, tried.id ∈ picks earlier)
      (bookings : run.bookings = earlier ++ recordFinalRequest request account status message)
      (reservation : run.reservation = request.reservation)
  | succeeded (earlier : List (Booking Credit)) (account : Account Credit) (bill : Bill Credit)
      (interim : Interim plan earlier) (answered : Booking.called account.id true ∈ earlier)
      (bookings : run.bookings = earlier ++
        (settle (finalizeBooking (bill.inputTokens + bill.outputTokens) bill.credits)
          request.reservation).2 ++ recordObservedSuccess request account bill)
      (reservation : run.reservation =
        (settle (finalizeBooking (bill.inputTokens + bill.outputTokens) bill.credits)
          request.reservation).1)

omit [CreditAmount Credit] in
/-- No interim booking is of a kind that only a closing has. -/
theorem interim_lacks (earlier : List (Booking Credit)) (interim : Interim plan earlier) :
    records earlier = [] ∧ earlier.countP Booking.isOutcome = 0 ∧
      earlier.filter Booking.settles = [] := by
  refine ⟨?_, ?_, ?_⟩
  · apply List.filterMap_eq_nil_iff.mpr
    intro booking member
    have kind := interim.interim booking member
    cases booking <;> first | rfl | exact absurd kind.symm Bool.noConfusion
  · apply List.countP_eq_zero.mpr
    intro booking member
    have kind := interim.interim booking member
    cases booking <;> first | exact Bool.noConfusion | exact absurd kind.symm Bool.noConfusion
  · apply List.filter_eq_nil_iff.mpr
    intro booking member
    have kind := interim.interim booking member
    cases booking <;> first | exact Bool.noConfusion | exact absurd kind.symm Bool.noConfusion

omit [CreditAmount Credit] in
/-- A closing holds no pick and no call. -/
theorem closing_lacks (closing : List (Booking Credit))
    (final : ∀ booking ∈ closing, booking.interim = false) :
    picks closing = [] ∧ closing.countP Booking.isCall = 0 ∧
      (∀ id, closing.countP (Booking.isCallTo id) = 0) ∧ ¬ Answered closing := by
  refine ⟨?_, ?_, ?_, ?_⟩
  · apply List.filterMap_eq_nil_iff.mpr
    intro booking member
    have kind := final booking member
    cases booking <;> first | rfl | exact absurd kind.symm Bool.noConfusion
  · apply List.countP_eq_zero.mpr
    intro booking member
    have kind := final booking member
    cases booking <;> first | exact Bool.noConfusion | exact absurd kind.symm Bool.noConfusion
  · intro id
    apply List.countP_eq_zero.mpr
    intro booking member
    have kind := final booking member
    cases booking <;> first | exact Bool.noConfusion | exact absurd kind.symm Bool.noConfusion
  · rintro ⟨id, member⟩
    exact absurd (final _ member).symm Bool.noConfusion

omit [CreditAmount Credit] in
/-- A settled reservation is booked by one settlement, and settled again by none. -/
theorem settle_books (operation : ApiKeyUsageReservation Credit → Booking Credit)
    (reservation : Option (ApiKeyUsageReservation Credit)) :
    (∀ held ∈ reservation, held.live = true →
      (settle operation reservation).2 = [operation held]) ∧
    (∀ booking ∈ (settle operation reservation).2, ∃ held, booking = operation held) ∧
    ∀ again : ApiKeyUsageReservation Credit → Booking Credit,
      (settle again (settle operation reservation).1).2 = [] := by
  cases reservation with
  | none => exact ⟨nofun, nofun, fun _ => rfl⟩
  | some held =>
      cases done : held.done || held.id == [] with
      | true =>
          refine ⟨?_, ?_, ?_⟩
          · rintro other ⟨⟩ live
            rw [ApiKeyUsageReservation.live, done] at live
            exact absurd live Bool.false_ne_true
          · rw [settle, if_pos done]
            exact nofun
          · intro again
            rw [settle, if_pos done, settle, if_pos done]
      | false =>
          have open_ := Bool.eq_false_iff.mp done
          refine ⟨?_, ?_, ?_⟩
          · rintro other ⟨⟩ _
            rw [settle, if_neg open_]
          · rw [settle, if_neg open_]
            intro booking member
            exact ⟨held, List.mem_singleton.mp member⟩
          · intro again
            rw [settle, if_neg open_]
            rfl

omit [CreditAmount Credit] in
/-- Settlements record nothing and have no outcome. -/
theorem settlement_lacks (bookings : List (Booking Credit))
    (settles : ∀ booking ∈ bookings, booking.settles = true) :
    records bookings = [] ∧ bookings.countP Booking.isOutcome = 0 ∧
      bookings.filter Booking.settles = bookings ∧
      ∀ booking ∈ bookings, booking.interim = false := by
  refine ⟨?_, ?_, List.filter_eq_self.mpr settles, ?_⟩
  · apply List.filterMap_eq_nil_iff.mpr
    intro booking member
    have kind := settles booking member
    cases booking <;> first | rfl | exact absurd kind.symm Bool.noConfusion
  · apply List.countP_eq_zero.mpr
    intro booking member
    have kind := settles booking member
    cases booking <;> first | exact Bool.noConfusion | exact absurd kind.symm Bool.noConfusion
  · intro booking member
    have kind := settles booking member
    cases booking <;> first | rfl | exact absurd kind.symm Bool.noConfusion

omit [CreditAmount Credit] in
/-- A closing that records, counts and settles once completes what was booked before. -/
theorem closing_completes (reservation : Option (ApiKeyUsageReservation Credit))
    (earlier closing : List (Booking Credit)) (record : RequestRecord Credit)
    (interim : Interim plan earlier)
    (final : ∀ booking ∈ closing, booking.interim = false)
    (recorded : records closing = [record])
    (success : record.success = true ↔ Answered earlier)
    (outcomes : closing.countP Booking.isOutcome ≤ 1)
    (tried : picks earlier ≠ [] → [] ∉ picks earlier → closing.countP Booking.isOutcome = 1)
    (finalized : ∀ held ∈ reservation, held.live = true → Answered earlier →
      closing.filter Booking.settles =
        [.finalized held.id held.reservedTokens held.reservedCredits
          (record.inputTokens + record.outputTokens) record.credits])
    (released : ∀ held ∈ reservation, held.live = true → ¬ Answered earlier →
      closing.filter Booking.settles =
        [.released held.id held.reservedTokens held.reservedCredits]) :
    AccountedOnce plan reservation (earlier ++ closing) := by
  obtain ⟨unrecorded, silent, unsettled⟩ := interim_lacks plan earlier interim
  obtain ⟨unpicked, uncalled, uncalledTo, unanswered⟩ := closing_lacks closing final
  have one : records (earlier ++ closing) = [record] := by
    unfold records at *
    rw [List.filterMap_append, unrecorded, recorded, List.nil_append]
  have count : (earlier ++ closing).countP Booking.isOutcome =
      closing.countP Booking.isOutcome := by
    rw [List.countP_append, silent, Nat.zero_add]
  have settled : (earlier ++ closing).filter Booking.settles =
      closing.filter Booking.settles := by
    rw [List.filter_append, unsettled, List.nil_append]
  have samePicks : picks (earlier ++ closing) = picks earlier := by
    unfold picks at *
    rw [List.filterMap_append, unpicked, List.append_nil]
  have answered : Answered (earlier ++ closing) ↔ Answered earlier := by
    constructor
    · rintro ⟨id, member⟩
      rcases List.mem_append.mp member with before | after
      · exact ⟨id, before⟩
      · exact absurd ⟨id, after⟩ unanswered
    · rintro ⟨id, member⟩
      exact ⟨id, List.mem_append_left _ member⟩
  constructor
  · exact ⟨record, one, success.trans answered.symm⟩
  · rw [count]
    exact outcomes
  · rw [samePicks, count]
    exact tried
  · intro held member live answered_
    rw [settled]
    exact ⟨record, one, finalized held member live (answered.mp answered_)⟩
  · intro held member live open_
    rw [settled]
    exact released held member live (fun before => open_ (answered.mpr before))
  · rw [List.countP_append, uncalled]
    exact interim.calls
  · intro id
    rw [List.countP_append, uncalledTo]
    exact interim.accountCalls id
  · rw [samePicks]
    exact interim.picked

theorem final_request_books (account : Option (Account Credit)) (status : Nat)
    (message : GoString) :
    ∃ record, records (recordFinalRequest request account status message) = [record] ∧
      record.success = false ∧
      (recordFinalRequest request account status message).countP Booking.isOutcome =
        (if (account.map fun account => account.id).getD [] = [] then 0 else 1) ∧
      (recordFinalRequest request account status message).filter Booking.settles = [] ∧
      ∀ booking ∈ recordFinalRequest request account status message,
        booking.interim = false := by
  unfold recordFinalRequest
  simp only
  split_ifs with unnamed
  · refine ⟨_, rfl, rfl, rfl, rfl, ?_⟩
    intro booking member
    rw [List.mem_singleton.mp member]
    rfl
  · refine ⟨_, rfl, rfl, rfl, rfl, ?_⟩
    intro booking member
    simp only [List.mem_cons, List.not_mem_nil, or_false] at member
    rcases member with rfl | rfl <;> rfl

omit [CreditAmount Credit] in
theorem observed_success_books (account : Account Credit) (bill : Bill Credit) :
    ∃ record, records (recordObservedSuccess request account bill) = [record] ∧
      record.success = true ∧
      record.inputTokens = bill.inputTokens ∧ record.outputTokens = bill.outputTokens ∧
      record.credits = bill.credits ∧
      (recordObservedSuccess request account bill).countP Booking.isOutcome = 1 ∧
      (recordObservedSuccess request account bill).filter Booking.settles = [] ∧
      ∀ booking ∈ recordObservedSuccess request account bill, booking.interim = false := by
  refine ⟨_, rfl, rfl, rfl, rfl, rfl, rfl, rfl, ?_⟩
  intro booking member
  simp only [recordObservedSuccess, List.mem_cons, List.not_mem_nil, or_false] at member
  rcases member with rfl | rfl | rfl | rfl <;> rfl

/-- A run that returned is accounted for once the reservation is released. -/
theorem closed_accounts (run : RequestRun Credit Event) (closed : Closed plan request run) :
    AccountedOnce plan request.reservation (run.settle releaseBooking).bookings := by
  cases closed with
  | failed earlier account status message interim unanswered untried known bookings reservation =>
      obtain ⟨settled, kinds, _⟩ := settle_books releaseBooking request.reservation
      obtain ⟨record, recorded, failed, outcomes, unsettled, final⟩ :=
        final_request_books request account status message
      have settles : ∀ booking ∈ (settle releaseBooking request.reservation).2,
          booking.settles = true := by
        intro booking member
        obtain ⟨held, rfl⟩ := kinds booking member
        rfl
      obtain ⟨none_, silent, all, late⟩ := settlement_lacks _ settles
      change AccountedOnce plan _ (run.bookings ++ (settle releaseBooking run.reservation).2)
      rw [bookings, reservation, List.append_assoc]
      have filtered : (recordFinalRequest request account status message ++
          (settle releaseBooking request.reservation).2).filter Booking.settles =
            (settle releaseBooking request.reservation).2 := by
        rw [List.filter_append, unsettled, all, List.nil_append]
      have count : (recordFinalRequest request account status message ++
          (settle releaseBooking request.reservation).2).countP Booking.isOutcome =
            if (account.map fun account => account.id).getD [] = [] then 0 else 1 := by
        rw [List.countP_append, silent, outcomes]
        rfl
      apply closing_completes plan request.reservation earlier _ record interim
      · intro booking member
        rcases List.mem_append.mp member with closing | settlement
        · exact final booking closing
        · exact late booking settlement
      · unfold records at *
        rw [List.filterMap_append, recorded, none_]
        rfl
      · rw [failed]
        exact ⟨fun success => absurd success Bool.false_ne_true,
          fun answered => absurd answered unanswered⟩
      · rw [count]
        split_ifs <;> decide
      · intro picked named
        rw [count]
        cases account with
        | none => exact absurd (untried rfl) picked
        | some account =>
            apply if_neg
            intro unnamed
            exact named (unnamed ▸ known account rfl)
      · intro held member live answered
        exact absurd answered unanswered
      · intro held member live _
        rw [filtered, settled held member live]
        rfl
  | succeeded earlier account bill interim answered bookings reservation =>
      obtain ⟨settled, kinds, again⟩ := settle_books
        (finalizeBooking (bill.inputTokens + bill.outputTokens) bill.credits) request.reservation
      obtain ⟨record, recorded, success, input, output, credits, outcomes, unsettled, final⟩ :=
        observed_success_books request account bill
      have settles : ∀ booking ∈ (settle (finalizeBooking
          (bill.inputTokens + bill.outputTokens) bill.credits) request.reservation).2,
          booking.settles = true := by
        intro booking member
        obtain ⟨held, rfl⟩ := kinds booking member
        rfl
      obtain ⟨none_, silent, all, late⟩ := settlement_lacks _ settles
      change AccountedOnce plan _ (run.bookings ++ (settle releaseBooking run.reservation).2)
      rw [bookings, reservation, again, List.append_nil, List.append_assoc]
      have count : ((settle (finalizeBooking (bill.inputTokens + bill.outputTokens)
          bill.credits) request.reservation).2 ++
            recordObservedSuccess request account bill).countP Booking.isOutcome = 1 := by
        rw [List.countP_append, silent, outcomes]
      apply closing_completes plan request.reservation earlier _ record interim
      · intro booking member
        rcases List.mem_append.mp member with settlement | closing
        · exact late booking settlement
        · exact final booking closing
      · unfold records at *
        rw [List.filterMap_append, recorded, none_]
        rfl
      · exact ⟨fun _ => ⟨account.id, answered⟩, fun _ => success⟩
      · exact Nat.le_of_eq count
      · exact fun _ _ => count
      · intro held member live _
        rw [List.filter_append, all, unsettled, List.append_nil, settled held member live, input,
          output, credits]
        rfl
      · intro held member live open_
        exact absurd ⟨account.id, answered⟩ open_

end Closings

section Loops

variable {Answer Event : Type} (surroundings : Surroundings Credit)
  (request : HandledRequest Credit)

/-- A run that has not returned, with the accounts that were picked. -/
structure Underway (picked : List GoString) (run : RequestRun Credit Event) : Prop where
  interim : ∀ booking ∈ run.bookings, booking.interim = true
  unanswered : ¬ Answered run.bookings
  picks : picks run.bookings = picked
  nodup : picked.Nodup
  attempts : run.totalAttempts ≤ surroundings.plan.maxPerRequest
  calls : run.bookings.countP Booking.isCall ≤ run.totalAttempts
  accountCalls : ∀ id,
    run.bookings.countP (Booking.isCallTo id) ≤ surroundings.plan.maxPerAccount
  others : ∀ id, id ∉ picked → run.bookings.countP (Booking.isCallTo id) = 0
  reservation : run.reservation = request.reservation
  known : ∀ account, run.lastAccount = some account → account.id ∈ picked
  failed : run.lastErr ≠ none → run.lastAccount ≠ none

variable {surroundings request} {picked : List GoString} {run : RequestRun Credit Event}

theorem Underway.interimBookings (underway : Underway surroundings request picked run) :
    Interim surroundings.plan run.bookings where
  interim := underway.interim
  picked := underway.picks ▸ underway.nodup
  calls := Nat.le_trans underway.calls underway.attempts
  accountCalls := underway.accountCalls

/-- One more interim booking, that is no pick and no answer. -/
theorem booked_underway (underway : Underway surroundings request picked run)
    (next : RequestRun Credit Event) (booking : Booking Credit)
    (bookings : next.bookings = run.bookings ++ [booking])
    (reservation : next.reservation = run.reservation)
    (interim : booking.interim = true) (unpicked : booking.pickedID = none)
    (unanswered : ∀ id, booking ≠ .called id true)
    (attempts : next.totalAttempts ≤ surroundings.plan.maxPerRequest)
    (calls : run.totalAttempts + [booking].countP Booking.isCall ≤ next.totalAttempts)
    (accountCalls : ∀ id, run.bookings.countP (Booking.isCallTo id) +
      [booking].countP (Booking.isCallTo id) ≤ surroundings.plan.maxPerAccount)
    (others : ∀ id, id ∉ picked → [booking].countP (Booking.isCallTo id) = 0)
    (known : ∀ account, next.lastAccount = some account → account.id ∈ picked)
    (failed : next.lastErr ≠ none → next.lastAccount ≠ none) :
    Underway surroundings request picked next where
  interim := by
    intro other member
    rw [bookings] at member
    rcases List.mem_append.mp member with before | last
    · exact underway.interim other before
    · rw [List.mem_singleton.mp last]
      exact interim
  unanswered := by
    rintro ⟨id, member⟩
    rw [bookings] at member
    rcases List.mem_append.mp member with before | last
    · exact underway.unanswered ⟨id, before⟩
    · exact unanswered id (List.mem_singleton.mp last).symm
  picks := by
    rw [bookings, RequestHandling.picks, List.filterMap_append,
      List.filterMap_cons_none unpicked, List.filterMap_nil, List.append_nil]
    exact underway.picks
  nodup := underway.nodup
  attempts := attempts
  calls := by
    rw [bookings, List.countP_append]
    exact Nat.le_trans (Nat.add_le_add_right underway.calls _) calls
  accountCalls := by
    intro id
    rw [bookings, List.countP_append]
    exact accountCalls id
  others := by
    intro id other
    rw [bookings, List.countP_append, underway.others id other, others id other]
  reservation := reservation.trans underway.reservation
  known := known
  failed := failed

/-- A failed attempt leaves the run as it was, but for the error. -/
theorem failed_underway (underway : Underway surroundings request picked run)
    (account : Account Credit) (member : account.id ∈ picked) (accountAttempt : Nat)
    (error : CallFault) :
    let failed := (attemptFailed surroundings account accountAttempt error run).1
    Underway surroundings request picked failed ∧
      failed.bookings.countP (Booking.isCallTo account.id) =
        run.bookings.countP (Booking.isCallTo account.id) := by
  refine ⟨booked_underway underway _ (.attemptError account.id _) rfl rfl rfl rfl nofun
    underway.attempts (Nat.le_refl _) underway.accountCalls (fun _ _ => rfl) ?_ nofun, ?_⟩
  · rintro last ⟨⟩
    exact member
  · change (run.bookings ++ [_]).countP _ = _
    rw [List.countP_append]
    rfl

/-- The start of an attempt. -/
theorem attempt_underway (underway : Underway surroundings request picked run)
    (left : run.totalAttempts < surroundings.plan.maxPerRequest) :
    Underway surroundings request picked { run with totalAttempts := run.totalAttempts + 1 } :=
  { underway with
    attempts := left
    calls := Nat.le_succ_of_le underway.calls }

/-- The run in which a call was made and has failed. -/
theorem called_underway (underway : Underway surroundings request picked run)
    (left : run.totalAttempts < surroundings.plan.maxPerRequest)
    (account : Account Credit) (member : account.id ∈ picked)
    (room : run.bookings.countP (Booking.isCallTo account.id) <
      surroundings.plan.maxPerAccount)
    (next : RequestRun Credit Event)
    (bookings : next.bookings = run.bookings ++ [.called account.id false])
    (attempts : next.totalAttempts = run.totalAttempts + 1)
    (reservation : next.reservation = run.reservation)
    (lastAccount : next.lastAccount = run.lastAccount) (lastErr : next.lastErr = run.lastErr) :
    Underway surroundings request picked next := by
  apply booked_underway underway next (.called account.id false) bookings reservation rfl rfl
    (by rintro id ⟨⟩)
  · rw [attempts]
    exact left
  · rw [attempts]
    exact Nat.le_refl _
  · intro id
    by_cases same : account.id = id
    · have one : [(Booking.called account.id false : Booking Credit)].countP
          (Booking.isCallTo id) = 1 := List.countP_eq_length.mpr (by simp [Booking.isCallTo, same])
      rw [one, ← same]
      exact room
    · have none_ : [(Booking.called account.id false : Booking Credit)].countP
          (Booking.isCallTo id) = 0 := List.countP_eq_zero.mpr (by simp [Booking.isCallTo, same])
      rw [none_]
      exact underway.accountCalls id
  · intro id other
    apply List.countP_eq_zero.mpr
    intro booking only
    rw [List.mem_singleton.mp only, Booking.isCallTo, beq_iff_eq]
    rintro rfl
    exact other member
  · rw [lastAccount]
    exact underway.known
  · rw [lastErr, lastAccount]
    exact underway.failed

theorem answered_interim (underway : Underway surroundings request picked run)
    (left : run.totalAttempts < surroundings.plan.maxPerRequest)
    (account : Account Credit) (member : account.id ∈ picked)
    (room : run.bookings.countP (Booking.isCallTo account.id) <
      surroundings.plan.maxPerAccount) :
    Interim surroundings.plan (run.bookings ++ [.called account.id true]) := by
  have failed := called_underway underway left account member room
    { run with
      bookings := run.bookings ++ [.called account.id false]
      totalAttempts := run.totalAttempts + 1 } rfl rfl rfl rfl rfl
  have interim := failed.interimBookings
  have calls := interim.calls
  have accountCalls := interim.accountCalls
  have picked := interim.picked
  constructor
  · intro booking member
    rcases List.mem_append.mp member with before | last
    · exact underway.interim booking before
    · rw [List.mem_singleton.mp last]
      rfl
  · rw [picks, List.filterMap_append] at picked ⊢
    exact picked
  · rw [List.countP_append] at calls ⊢
    exact calls
  · intro id
    have count := accountCalls id
    rw [List.countP_append] at count ⊢
    exact count

/-- A pick of an account that was not picked before. -/
theorem pick_underway (underway : Underway surroundings request picked run)
    (account : Account Credit) (fresh : account.id ∉ picked) :
    Underway surroundings request (picked ++ [account.id])
      (run.book [.picked account.id]) := by
  constructor
  · intro booking member
    rcases List.mem_append.mp member with before | last
    · exact underway.interim booking before
    · rw [List.mem_singleton.mp last]
      rfl
  · rintro ⟨id, member⟩
    rcases List.mem_append.mp member with before | last
    · exact underway.unanswered ⟨id, before⟩
    · exact nomatch List.mem_singleton.mp last
  · change List.filterMap _ (run.bookings ++ [_]) = _
    rw [List.filterMap_append]
    exact congrArg (· ++ [account.id]) underway.picks
  · apply List.nodup_append.mpr
    refine ⟨underway.nodup, List.nodup_singleton _, ?_⟩
    rintro id before other last rfl
    exact fresh (List.mem_singleton.mp last ▸ before)
  · exact underway.attempts
  · change (run.bookings ++ [_]).countP _ ≤ _
    rw [List.countP_append]
    exact underway.calls
  · intro id
    change (run.bookings ++ [_]).countP _ ≤ _
    rw [List.countP_append]
    exact underway.accountCalls id
  · intro id other
    change (run.bookings ++ [_]).countP _ = _
    rw [List.countP_append]
    exact underway.others id (fun before => other (List.mem_append_left _ before))
  · exact underway.reservation
  · intro last found
    exact List.mem_append_left _ (underway.known last found)
  · exact underway.failed

variable [CreditAmount Credit]

/-- A pass over an account that had some calls: it returns, or the run goes on. -/
structure Passed (surroundings : Surroundings Credit) (request : HandledRequest Credit)
    (picked : List GoString) (account : Account Credit) (used : Nat)
    (run : RequestRun Credit Event) (result : RequestRun Credit Event × Exit) : Prop where
  returned : result.2 = .returned → Closed surroundings.plan request result.1
  underway : result.2 ≠ .returned → Underway surroundings request picked result.1
  calls : result.2 ≠ .returned →
    result.1.bookings.countP (Booking.isCallTo account.id) ≤ used + 1
  failed : result.2 ≠ .returned → result.1.lastErr ≠ none
  excluded : result.1.excluded = run.excluded

theorem failed_passed (underway : Underway surroundings request picked run)
    (account : Account Credit) (member : account.id ∈ picked) (used accountAttempt : Nat)
    (calls : run.bookings.countP (Booking.isCallTo account.id) ≤ used + 1)
    (error : CallFault) :
    Passed surroundings request picked account used run
      (attemptFailed surroundings account accountAttempt error run) := by
  obtain ⟨after, count⟩ := failed_underway underway account member accountAttempt error
  constructor
  · intro returned
    unfold attemptFailed at returned
    simp only at returned
    split_ifs at returned
  · exact fun _ => after
  · intro _
    rw [count]
    exact calls
  · exact fun _ => nofun
  · rfl

/-- A return that books a failure. -/
theorem failed_closed (underway : Underway surroundings request picked run)
    (account : Account Credit) (member : account.id ∈ picked) (status : Nat)
    (message : GoString) (next : RequestRun Credit Event)
    (bookings : next.bookings =
      run.bookings ++ recordFinalRequest request (some account) status message)
    (reservation : next.reservation = run.reservation) :
    Closed surroundings.plan request next := by
  apply Closed.failed run.bookings (some account) status message underway.interimBookings
    underway.unanswered nofun ?_ bookings (reservation.trans underway.reservation)
  rintro tried ⟨⟩
  rw [underway.picks]
  exact member

theorem returned_passed (account : Account Credit) (used : Nat)
    (result : RequestRun Credit Event × Exit) (returned : result.2 = .returned)
    (closed : Closed surroundings.plan request result.1)
    (excluded : result.1.excluded = run.excluded) :
    Passed surroundings request picked account used run result where
  returned := fun _ => closed
  underway := fun open_ => absurd returned open_
  calls := fun open_ => absurd returned open_
  failed := fun open_ => absurd returned open_
  excluded := excluded

variable (responder : Responder Credit Answer Event) (call : KiroPayload → Nat → Called Credit)

/-- A call with its booking, before its end is handled. -/
structure CallBooked (account : Account Credit) (answered : Bool) (run next : RequestRun Credit Event) :
    Prop where
  bookings : next.bookings = run.bookings ++ [.called account.id answered]
  attempts : next.totalAttempts = run.totalAttempts + 1
  reservation : next.reservation = run.reservation
  lastAccount : next.lastAccount = run.lastAccount
  lastErr : next.lastErr = run.lastErr
  excluded : next.excluded = run.excluded

theorem ended_passed (underway : Underway surroundings request picked run)
    (left : run.totalAttempts < surroundings.plan.maxPerRequest)
    (account : Account Credit) (member : account.id ∈ picked) (used accountAttempt : Nat)
    (calls : run.bookings.countP (Booking.isCallTo account.id) ≤ used)
    (room : used < surroundings.plan.maxPerAccount) (answer : Answer)
    (error : Option CallFault) (next : RequestRun Credit Event)
    (called : CallBooked account error.isNone run next) :
    Passed surroundings request picked account used run
      (callEnded surroundings request responder account accountAttempt answer error next) := by
  have free := Nat.lt_of_le_of_lt calls room
  have excluded := called.excluded
  cases error with
  | none =>
      have settled : next.reservation = request.reservation :=
        called.reservation.trans underway.reservation
      refine returned_passed account used _ rfl ?_ excluded
      apply Closed.succeeded (run.bookings ++ [.called account.id true]) account
        (responder.bill answer) (answered_interim underway left account member free)
        (List.mem_append_right _ List.mem_cons_self)
      · change (next.bookings ++ (settle _ next.reservation).2) ++ _ = _
        rw [called.bookings, settled]
        rfl
      · change (settle _ next.reservation).1 = _
        rw [settled]
  | some error =>
      have after := called_underway underway left account member free next called.bookings
        called.attempts called.reservation called.lastAccount called.lastErr
      have count : next.bookings.countP (Booking.isCallTo account.id) ≤ used + 1 := by
        rw [called.bookings, List.countP_append]
        exact Nat.add_le_add calls List.countP_le_length
      unfold callEnded
      simp only
      split_ifs with canceled silent
      · exact returned_passed account used _ rfl
          (failed_closed after account member _ _ _ rfl rfl) excluded
      · have passed := failed_passed after account member used accountAttempt count error
        exact { passed with excluded := passed.excluded.trans excluded }
      · have failed := (failed_underway after account member accountAttempt error).1
        exact returned_passed account used _ rfl
          (failed_closed failed account member _ _ _ rfl rfl) excluded

/-- One pass of the inner loop: every exit books its closing, and nothing else does. -/
theorem try_passed (underway : Underway surroundings request picked run)
    (left : run.totalAttempts < surroundings.plan.maxPerRequest)
    (account : Account Credit) (member : account.id ∈ picked) (used accountAttempt : Nat)
    (calls : run.bookings.countP (Booking.isCallTo account.id) ≤ used)
    (room : used < surroundings.plan.maxPerAccount) :
    Passed surroundings request picked account used run
      (tryAccount surroundings request responder call account accountAttempt run) := by
  have begun := attempt_underway underway left
  unfold tryAccount
  simp only
  cases tokenErr : (surroundings.attempt run.totalAttempts).tokenErr with
  | some error =>
      simp only
      cases contextErr : (surroundings.attempt run.totalAttempts).contextErr with
      | some gone =>
          exact returned_passed account used _ rfl
            (failed_closed begun account member _ _ _ rfl rfl) rfl
      | none =>
          have passed := failed_passed begun account member used accountAttempt
            (Nat.le_succ_of_le calls) error
          exact { passed with excluded := passed.excluded }
  | none =>
      exact ended_passed responder underway left account member used accountAttempt calls room _
        _ _ ⟨rfl, rfl, rfl, rfl, rfl, rfl⟩

/-- The loop over an account returns, or gives the account up. -/
theorem account_loop_passed (account : Account Credit) (member : account.id ∈ picked)
    (left : Nat) (run : RequestRun Credit Event)
    (underway : Underway surroundings request picked run) (used : Nat)
    (calls : run.bookings.countP (Booking.isCallTo account.id) ≤ used)
    (room : used + left = surroundings.plan.maxPerAccount) :
    let result := accountLoop surroundings request responder call account left run
    (result.2 = true → Closed surroundings.plan request result.1) ∧
      (result.2 = false → Underway surroundings request picked result.1 ∧
        result.1.excluded = run.excluded ∧
        (0 < left → run.totalAttempts < surroundings.plan.maxPerRequest →
          result.1.lastErr ≠ none) ∧ (run.lastErr ≠ none → result.1.lastErr ≠ none)) := by
  induction left generalizing run used with
  | zero =>
      exact ⟨nofun,
        fun _ => ⟨underway, rfl, fun none_ => absurd none_ (Nat.lt_irrefl 0), id⟩⟩
  | succ left ih =>
      simp only [accountLoop]
      split_ifs with spent
      · exact ⟨nofun,
          fun _ => ⟨underway, rfl, fun _ free => absurd free (Nat.not_lt.mpr spent), id⟩⟩
      · have passed := try_passed responder call underway (Nat.not_le.mp spent) account member
          used (surroundings.plan.maxPerAccount - (left + 1)) calls (by omega)
        cases tried : tryAccount surroundings request responder call account
            (surroundings.plan.maxPerAccount - (left + 1)) run with
        | mk next exit =>
            rw [tried] at passed
            cases exit with
            | returned =>
                exact ⟨fun _ => passed.returned rfl, fun open_ => absurd open_.symm nofun⟩
            | nextAccount =>
                exact ⟨nofun,
                  fun _ => ⟨passed.underway nofun, passed.excluded,
                    fun _ _ => passed.failed nofun, fun _ => passed.failed nofun⟩⟩
            | sameAccount =>
                have rest := ih next (passed.underway nofun) (used + 1) (passed.calls nofun)
                  (by omega)
                refine ⟨rest.1, fun open_ => ?_⟩
                obtain ⟨after, excluded, _, keeps⟩ := rest.2 open_
                exact ⟨after, excluded.trans passed.excluded,
                  fun _ _ => keeps (passed.failed nofun), fun _ => keeps (passed.failed nofun)⟩

/-- A picked account was not given up before. -/
theorem picked_fresh (account : Account Credit)
    (picks : pickAccount surroundings request run = some account) :
    account.id ∉ run.excluded := by
  have serves := preferred_serves (surroundings.pick run.excluded.length).pool
    (surroundings.pick run.excluded.length).preferred _ account picks
  exact serves_not_excluded _ account _ serves.2

/-- The outer loop returns, or ends with all that was picked given up. -/
theorem request_loop_passed (rounds : Nat) (run : RequestRun Credit Event)
    (underway : Underway surroundings request run.excluded run)
    (tried : run.lastErr = none → run.excluded = []) :
    let result := requestLoop surroundings request responder call rounds run
    (result.2 = true → Closed surroundings.plan request result.1) ∧
      (result.2 = false → Underway surroundings request result.1.excluded result.1 ∧
        (result.1.lastErr = none → result.1.excluded = [])) := by
  induction rounds generalizing run with
  | zero =>
      exact ⟨nofun, fun _ => ⟨underway, tried⟩⟩
  | succ rounds ih =>
      simp only [requestLoop]
      split_ifs with stop
      · exact ⟨nofun, fun _ => ⟨underway, tried⟩⟩
      · cases pick : pickAccount surroundings request run with
        | none =>
            exact ⟨nofun,
              fun _ => ⟨underway, tried⟩⟩
        | some account =>
            have fresh := picked_fresh account pick
            have begun := pick_underway underway account fresh
            have free : run.totalAttempts < surroundings.plan.maxPerRequest :=
              Nat.not_le.mp (fun spent => stop (Or.inl spent))
            have unused : (run.book [.picked account.id]).bookings.countP
                (Booking.isCallTo account.id) ≤ 0 := by
              change (run.bookings ++ [_]).countP _ ≤ 0
              rw [List.countP_append, underway.others account.id fresh]
              exact Nat.le_refl _
            have loop := account_loop_passed responder call account
              (List.mem_append_right _ List.mem_cons_self) surroundings.plan.maxPerAccount _
              begun 0 unused (Nat.zero_add _)
            simp only
            cases looped : accountLoop surroundings request responder call account
                surroundings.plan.maxPerAccount (run.book [.picked account.id]) with
            | mk next returned =>
                rw [looped] at loop
                cases returned with
                | true =>
                    exact ⟨fun _ => loop.1 rfl, fun open_ => absurd open_.symm Bool.false_ne_true⟩
                | false =>
                    obtain ⟨after, excluded, failed, _⟩ := loop.2 rfl
                    have error := failed surroundings.plan.account free
                    apply ih
                    · have same : next.excluded ++ [account.id] = run.excluded ++ [account.id] :=
                        congrArg (· ++ [account.id]) excluded
                      change Underway surroundings request (next.excluded ++ [account.id]) _
                      rw [same]
                      exact { after with }
                    · exact fun none_ => absurd none_ error

end Loops

section Rounds

variable [CreditAmount Credit] {Answer Event : Type} (surroundings : Surroundings Credit)
  (request : HandledRequest Credit) (responder : Responder Credit Answer Event)
  (call : KiroPayload → Nat → Called Credit)

/-- Every pass of the inner loop is an attempt. -/
theorem try_attempts (account : Account Credit) (accountAttempt : Nat)
    (run : RequestRun Credit Event) :
    (tryAccount surroundings request responder call account accountAttempt run).1.totalAttempts =
      run.totalAttempts + 1 := by
  unfold tryAccount
  simp only
  cases (surroundings.attempt run.totalAttempts).tokenErr with
  | some error =>
      cases (surroundings.attempt run.totalAttempts).contextErr with
      | some gone => rfl
      | none => rfl
  | none =>
      unfold callEnded
      cases (call run.payload run.upstreamAttempts).error with
      | none => rfl
      | some error =>
          simp only
          split_ifs <;> rfl

theorem account_loop_attempts (account : Account Credit) (left : Nat)
    (run : RequestRun Credit Event) :
    run.totalAttempts ≤
      (accountLoop surroundings request responder call account left run).1.totalAttempts ∧
    (0 < left → run.totalAttempts < surroundings.plan.maxPerRequest → run.totalAttempts <
      (accountLoop surroundings request responder call account left run).1.totalAttempts) := by
  induction left generalizing run with
  | zero => exact ⟨Nat.le_refl _, fun none_ => absurd none_ (Nat.lt_irrefl 0)⟩
  | succ left ih =>
      simp only [accountLoop]
      split_ifs with spent
      · exact ⟨Nat.le_refl _, fun _ free => absurd free (Nat.not_lt.mpr spent)⟩
      · have attempts := try_attempts surroundings request responder call account
          (surroundings.plan.maxPerAccount - (left + 1)) run
        cases tried : tryAccount surroundings request responder call account
            (surroundings.plan.maxPerAccount - (left + 1)) run with
        | mk next exit =>
            rw [tried] at attempts
            cases exit with
            | sameAccount =>
                have rest := (ih next).1
                simp only at attempts ⊢
                exact ⟨by omega, fun _ _ => by omega⟩
            | nextAccount =>
                simp only at attempts ⊢
                exact ⟨by omega, fun _ _ => by omega⟩
            | returned =>
                simp only at attempts ⊢
                exact ⟨by omega, fun _ _ => by omega⟩

/-- The outer loop never runs out of rounds. -/
theorem rounds_enough (rounds extra : Nat) (run : RequestRun Credit Event)
    (enough : surroundings.plan.maxPerRequest ≤ run.totalAttempts + rounds) :
    requestLoop surroundings request responder call (rounds + extra) run =
      requestLoop surroundings request responder call rounds run := by
  induction rounds generalizing run with
  | zero =>
      cases extra with
      | zero => rfl
      | succ extra =>
          rw [Nat.zero_add]
          exact if_pos (Or.inl enough)
  | succ rounds ih =>
      rw [Nat.succ_add_eq_add_succ, Nat.add_succ, requestLoop, requestLoop]
      split_ifs with stop
      · rfl
      · cases pickAccount surroundings request run with
        | none => rfl
        | some account =>
            have free : run.totalAttempts < surroundings.plan.maxPerRequest :=
              Nat.not_le.mp (fun spent => stop (Or.inl spent))
            have more := (account_loop_attempts surroundings request responder call account
              surroundings.plan.maxPerAccount (run.book [.picked account.id])).2
                surroundings.plan.account free
            simp only
            cases looped : accountLoop surroundings request responder call account
                surroundings.plan.maxPerAccount (run.book [.picked account.id]) with
            | mk next returned =>
                rw [looped] at more
                cases returned with
                | true => rfl
                | false =>
                    apply ih
                    change run.totalAttempts < next.totalAttempts at more
                    change _ ≤ next.totalAttempts + rounds
                    omega

end Rounds

section Handlers

variable [CreditAmount Credit] {Answer Event : Type} (surroundings : Surroundings Credit)
  (request : HandledRequest Credit) (responder : Responder Credit Answer Event)
  (call : KiroPayload → Nat → Called Credit)

omit [CreditAmount Credit] in
theorem start_underway :
    Underway surroundings request [] (startRun request : RequestRun Credit Event) where
  interim := fun _ member => absurd member List.not_mem_nil
  unanswered := fun ⟨_, member⟩ => absurd member List.not_mem_nil
  picks := rfl
  nodup := List.nodup_nil
  attempts := Nat.zero_le _
  calls := Nat.le_refl _
  accountCalls := fun _ => Nat.zero_le _
  others := fun _ _ => rfl
  reservation := rfl
  known := fun account found => absurd found.symm (Option.some_ne_none account)
  failed := fun none_ => absurd rfl none_

theorem failed_request_closed (errors : ErrorTypes) (run : RequestRun Credit Event)
    (underway : Underway surroundings request run.excluded run)
    (tried : run.lastErr = none → run.excluded = []) :
    Closed surroundings.plan request (requestFailed surroundings request errors run) := by
  unfold requestFailed
  cases error : run.lastErr with
  | none =>
      have unpicked : picks run.bookings = [] := underway.picks.trans (tried error)
      exact Closed.failed run.bookings none _ _ underway.interimBookings underway.unanswered
        (fun _ => unpicked) (fun tried member => absurd member (Option.not_mem_none tried)) rfl
        underway.reservation
  | some last =>
      obtain ⟨account, lastAccount⟩ := Option.ne_none_iff_exists'.mp
        (underway.failed (by rw [error]; nofun))
      refine Closed.failed run.bookings run.lastAccount _ _ underway.interimBookings
        underway.unanswered ?_ ?_ rfl underway.reservation
      · rw [lastAccount]
        nofun
      · rw [lastAccount]
        rintro found ⟨⟩
        rw [underway.picks]
        exact underway.known account lastAccount

/-- A handler books a request once, whatever its calls do. -/
theorem request_accounted (errors : ErrorTypes) :
    AccountedOnce surroundings.plan request.reservation
      (handleRequest surroundings request responder call errors).bookings := by
  have begun := @start_underway Credit Event surroundings request
  unfold handleRequest
  apply closed_accounts
  split_ifs with flushes
  · exact Closed.failed [] none _ _ begun.interimBookings begun.unanswered (fun _ => rfl)
      (fun tried member => absurd member (Option.not_mem_none tried)) rfl rfl
  · have loop := request_loop_passed responder call surroundings.plan.maxPerRequest
      (startRun request) begun (fun _ => rfl)
    cases looped : requestLoop surroundings request responder call
        surroundings.plan.maxPerRequest (startRun request) with
    | mk run returned =>
        rw [looped] at loop
        cases returned with
        | true => exact loop.1 rfl
        | false =>
            obtain ⟨underway, tried⟩ := loop.2 rfl
            exact failed_request_closed surroundings request errors run underway tried

variable (options : HandlerOptions Credit) (claude : ClaudeOptions)

/-- Over every pool, every sequence of credentials and every call, a Claude request is booked
once. -/
theorem claude_requests_accounted_once :
    AccountedOnce surroundings.plan request.reservation
      (handleClaudeStream surroundings request call options claude).bookings ∧
    AccountedOnce surroundings.plan request.reservation
      (handleClaudeNonStream surroundings request call options claude).bookings := by
  unfold handleClaudeStream handleClaudeNonStream
  exact ⟨request_accounted surroundings request (claudeStreamResponder options claude) call
      claudeErrors,
    request_accounted surroundings { request with flushes := true }
      (claudeNonStreamResponder options claude) call claudeErrors⟩

end Handlers

end KiroProxy.RequestHandling
