import KiroProxy.Foundation.ReservationLedger
import KiroProxy.Config.ApiKeys

/-!
# Usage reservations of client requests

A transcription of the reservation handling in `proxy/auth.go`, and the runs of
any number of requests over it. Each request holds at most one reservation; the
store operations it makes run under the store's lock, so an interleaving of
requests is a list of these operations. A ticket pairs a reservation with what
it was settled with, and with the resets of its key that came after it.
-/

namespace KiroProxy.UsageAccounting

open ApiKeys Foundation.Runs Foundation.ReservationLedger

set_option autoImplicit false

section Reservations

structure ApiKeyUsageReservation (Credit : Type) where
  id : GoString
  key : GoString
  reservedTokens : Int64
  reservedCredits : Credit
  done : Bool
  deriving DecidableEq

variable {Credit : Type} [CreditAmount Credit]

/-- The reservation still has to be settled: neither method returns at once. -/
def ApiKeyUsageReservation.live (reservation : ApiKeyUsageReservation Credit) : Bool :=
  !(reservation.done || reservation.id == [])

/-- The error of the store operation is dropped. -/
def ApiKeyUsageReservation.release (reservation : ApiKeyUsageReservation Credit)
    (cfg : Config Credit) (saveErr : SaveResult) :
    ApiKeyUsageReservation Credit × Config Credit :=
  if reservation.done || reservation.id == [] then (reservation, cfg)
  else ({ reservation with done := true },
    (releaseApiKeyUsageReservation cfg reservation.id reservation.reservedTokens
      reservation.reservedCredits saveErr).2)

def ApiKeyUsageReservation.finalize (reservation : ApiKeyUsageReservation Credit)
    (cfg : Config Credit) (actualTokens : Int64) (actualCredits : Credit) (now : Int)
    (saveErr : SaveResult) :
    Option ApiKeyError × ApiKeyUsageReservation Credit × Config Credit :=
  if reservation.done || reservation.id == [] then (none, reservation, cfg)
  else
    let result := finalizeApiKeyUsageReservation cfg reservation.id
      reservation.reservedTokens reservation.reservedCredits actualTokens actualCredits
      now saveErr
    (result.1, { reservation with done := true }, result.2)

end Reservations

section Runs

variable {Credit : Type} [CreditAmount Credit]

/-- A store operation settles when it reaches the stored entry: the change stays
in memory even if the save after it fails. -/
def reachesEntry : Option ApiKeyError → Bool
  | none => true
  | some (.saveFailed _) => true
  | some _ => false

def settledWith (result : Option ApiKeyError) (actualTokens : Int64) : Option (NonNeg Int) :=
  if reached : reachesEntry result = true ∧ 0 ≤ actualTokens then
    some ⟨actualTokens.toInt, Int64.le_iff_toInt_le.mp reached.2⟩
  else none

/-- `settled` is `some 0` after a release. `stale` and `forgotten` record a reset
of the key while the reservation was open, and after it was settled. -/
structure Ticket (Credit : Type) [CreditAmount Credit] where
  reservation : ApiKeyUsageReservation Credit
  settled : Option (NonNeg Int)
  stale : Bool
  forgotten : Bool
  reserved_nonneg : 0 ≤ reservation.reservedTokens
  free : reservation.reservedCredits = 0
  opened : reservation.done = false → settled = none

def Ticket.issue (reservation : ApiKeyUsageReservation Credit)
    (valid : 0 ≤ reservation.reservedTokens ∧ reservation.reservedCredits = 0) :
    Ticket Credit where
  reservation := reservation
  settled := none
  stale := false
  forgotten := false
  reserved_nonneg := valid.1
  free := valid.2
  opened := fun _ => rfl

def Ticket.close (ticket : Ticket Credit) (settled : Option (NonNeg Int)) :
    Ticket Credit :=
  { ticket with
    reservation := { ticket.reservation with done := true }
    settled := settled
    opened := by simp }

def Ticket.finalize (ticket : Ticket Credit) (cfg : Config Credit) (actualTokens : Int64)
    (actualCredits : Credit) (now : Int) (saveErr : SaveResult) :
    Ticket Credit × Config Credit :=
  let result := ticket.reservation.finalize cfg actualTokens actualCredits now saveErr
  if ticket.reservation.live then
    (ticket.close (settledWith result.1 actualTokens), result.2.2)
  else (ticket, result.2.2)

def Ticket.release (ticket : Ticket Credit) (cfg : Config Credit) (saveErr : SaveResult) :
    Ticket Credit × Config Credit :=
  if ticket.reservation.live then
    (ticket.close (settledWith (releaseApiKeyUsageReservation cfg ticket.reservation.id
        ticket.reservation.reservedTokens ticket.reservation.reservedCredits saveErr).1 0),
      (ticket.reservation.release cfg saveErr).2)
  else (ticket, (ticket.reservation.release cfg saveErr).2)

/-- The flags of a ticket after a reset of the key. -/
def Ticket.reset (id : GoString) (ticket : Ticket Credit) : Ticket Credit :=
  if ticket.reservation.id = id then
    match ticket.settled with
    | none => { ticket with stale := true }
    | some _ => { ticket with forgotten := true }
  else ticket

structure UsageState (Credit : Type) [CreditAmount Credit] where
  cfg : Config Credit
  tickets : List (Ticket Credit)

def UsageState.reserve (state : UsageState Credit) (id key : GoString) (tokens : Int64)
    (saveErr : SaveResult) : UsageState Credit :=
  match outcome : reserveApiKeyRequestUsage state.cfg id tokens saveErr with
  | (.error _, cfg) => { state with cfg := cfg }
  | (.ok reservedCredits, cfg) =>
      { cfg := cfg
        tickets := state.tickets ++
          [Ticket.issue ⟨id, key, tokens, reservedCredits, false⟩
            (reserve_ok state.cfg id tokens saveErr cfg _ outcome)] }

def UsageState.settle (state : UsageState Credit) (index : Nat)
    (operation : Ticket Credit → Config Credit → Ticket Credit × Config Credit) :
    UsageState Credit :=
  match state.tickets[index]? with
  | none => state
  | some ticket =>
      { cfg := (operation ticket state.cfg).2
        tickets := state.tickets.set index (operation ticket state.cfg).1 }

def UsageState.reset (state : UsageState Credit) (id : GoString) (saveErr : SaveResult) :
    UsageState Credit :=
  let result := resetApiKeyUsage state.cfg id saveErr
  { cfg := result.2
    tickets := if reachesEntry result.1 then state.tickets.map (Ticket.reset id)
      else state.tickets }

inductive UsageEvent (Credit : Type) where
  | reserve (id key : GoString) (tokens : Int64) (saveErr : SaveResult)
  | finalize (index : Nat) (actualTokens : Int64) (actualCredits : Credit) (now : Int)
      (saveErr : SaveResult)
  | release (index : Nat) (saveErr : SaveResult)

inductive KeyEvent (Credit : Type) where
  | usage (event : UsageEvent Credit)
  | reset (id : GoString) (saveErr : SaveResult)

def UsageState.step (state : UsageState Credit) : UsageEvent Credit → UsageState Credit
  | .reserve id key tokens saveErr => state.reserve id key tokens saveErr
  | .finalize index actualTokens actualCredits now saveErr =>
      state.settle index (fun ticket cfg =>
        ticket.finalize cfg actualTokens actualCredits now saveErr)
  | .release index saveErr =>
      state.settle index (fun ticket cfg => ticket.release cfg saveErr)

def UsageState.keyStep (state : UsageState Credit) : KeyEvent Credit → UsageState Credit
  | .usage event => state.step event
  | .reset id saveErr => state.reset id saveErr

end Runs

end KiroProxy.UsageAccounting
