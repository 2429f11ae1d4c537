import KiroProxy.Foundation.Runs
import KiroProxy.Pool.AccountPool

/-!
# Cooldowns under failures

Five calls of the pool cool an account. A run of them is a list of calls, each
with its clock reading. Quota and throttle failures compare with the cooldown in
force; the plain error from the third on, `MarkOverLimit` and `DisableAccount`
write theirs over it.
-/

namespace KiroProxy.Pool

open Accounts
open ApiKeys (CreditAmount)
open Foundation.Runs

set_option autoImplicit false

inductive Failure (Credit : Type) where
  | error (isQuotaError : Bool)
  | quotaError (retryAfter : Int)
  | throttleError (retryAfter : Int)
  | overLimit (enabled : List (Account Credit)) (allowOverUsage : Bool)
  | disabled (enabled : List (Account Credit)) (allowOverUsage : Bool)

/-- A failure call on an account. The last two reload the rotation and carry what
the store then answers. -/
structure FailureCall (Credit : Type) where
  id : GoString
  now : Time
  failure : Failure Credit

section Writes

variable {Credit : Type}

@[simp] theorem cooldown_until_count (pool : AccountPool Credit) (counted id : GoString) :
    cooldownUntil (countError pool counted) id = cooldownUntil pool id := rfl

@[simp] theorem error_count_counted (pool : AccountPool Credit) (id : GoString) :
    (countError pool id).errorCounts id = pool.errorCounts id + 1 := by
  simp [countError]

theorem cooldown_until_set (pool : AccountPool Credit) (written id : GoString)
    (deadline : Time) :
    cooldownUntil (setCooldown pool written deadline) id =
      if id = written then deadline else cooldownUntil pool id := by
  unfold cooldownUntil setCooldown
  by_cases same : id = written <;> simp [same]

theorem set_rises_iff (pool : AccountPool Credit) (written id : GoString) (deadline : Time) :
    cooldownUntil pool id ≤ cooldownUntil (setCooldown pool written deadline) id ↔
      (written = id → cooldownUntil pool id ≤ deadline) := by
  rw [cooldown_until_set]
  by_cases same : id = written
  · simp [same]
  · simp [same, Ne.symm same]

theorem extend_rises (pool : AccountPool Credit) (written id : GoString) (deadline : Time) :
    cooldownUntil pool id ≤ cooldownUntil (extendCooldown pool written deadline) id := by
  unfold extendCooldown
  by_cases longer : cooldownUntil pool written < deadline
  · rw [if_pos longer, set_rises_iff]
    intro same
    rw [← same]
    exact le_of_lt longer
  · rw [if_neg longer]

theorem plain_error_rises_iff (pool : AccountPool Credit) (failed id : GoString)
    (now : Time) :
    cooldownUntil pool id ≤ cooldownUntil (recordError pool failed false now) id ↔
      (failed = id → 2 ≤ pool.errorCounts id → cooldownUntil pool id ≤ now + minute) := by
  unfold recordError recordErrorAfter
  simp only [Bool.false_eq_true, if_false, error_count_counted]
  by_cases third : 3 ≤ pool.errorCounts failed + 1
  · rw [if_pos third]
    have rises := set_rises_iff (countError pool failed) failed id (now + minute)
    simp only [cooldown_until_count] at rises
    rw [rises]
    constructor
    · intro outlasts same _
      exact outlasts same
    · intro outlasts same
      apply outlasts same
      rw [← same]
      omega
  · rw [if_neg third]
    simp only [cooldown_until_count, le_refl, true_iff]
    intro same second
    rw [← same] at second
    omega

end Writes

section Runs

variable {Credit : Type} [CreditAmount Credit]

def recordFailure (pool : AccountPool Credit) (call : FailureCall Credit) :
    AccountPool Credit :=
  match call.failure with
  | .error isQuotaError => recordError pool call.id isQuotaError call.now
  | .quotaError retryAfter => recordQuotaError pool call.id retryAfter call.now
  | .throttleError retryAfter => recordThrottleError pool call.id retryAfter call.now
  | .overLimit enabled allowOverUsage =>
      markOverLimit pool call.id call.now enabled allowOverUsage
  | .disabled enabled allowOverUsage =>
      disableAccount pool call.id call.now enabled allowOverUsage

@[simp] theorem cooldown_until_reload (pool : AccountPool Credit)
    (enabled : List (Account Credit)) (allowOverUsage : Bool) (id : GoString) :
    cooldownUntil (reload pool enabled allowOverUsage) id = cooldownUntil pool id := rfl

/-- A call that writes its cooldown over the one in force does not end before it:
a plain error that is at least the third failure since the last success writes one
minute, `MarkOverLimit` an hour, `DisableAccount` a day. -/
def OutlastsCooldown (id : GoString) (pool : AccountPool Credit) (call : FailureCall Credit) :
    Prop :=
  match call.failure with
  | .error false =>
      call.id = id → 2 ≤ pool.errorCounts id → cooldownUntil pool id ≤ call.now + minute
  | .error true => True
  | .quotaError _ => True
  | .throttleError _ => True
  | .overLimit _ _ => call.id = id → cooldownUntil pool id ≤ call.now + hour
  | .disabled _ _ => call.id = id → cooldownUntil pool id ≤ call.now + 24 * hour

theorem record_failure_rises_iff (id : GoString) (pool : AccountPool Credit)
    (call : FailureCall Credit) :
    cooldownUntil pool id ≤ cooldownUntil (recordFailure pool call) id ↔
      OutlastsCooldown id pool call := by
  obtain ⟨failed, now, failure⟩ := call
  cases failure with
  | error isQuotaError =>
      cases isQuotaError with
      | false => exact plain_error_rises_iff pool failed id now
      | true =>
          simp only [OutlastsCooldown, iff_true]
          exact extend_rises (countError pool failed) failed id _
  | quotaError retryAfter =>
      simp only [OutlastsCooldown, iff_true]
      exact extend_rises (countError pool failed) failed id _
  | throttleError retryAfter =>
      simp only [OutlastsCooldown, iff_true]
      exact extend_rises (countError pool failed) failed id _
  | overLimit enabled allowOverUsage =>
      simp only [recordFailure, OutlastsCooldown, markOverLimit, cooldown_until_reload]
      exact set_rises_iff pool failed id _
  | disabled enabled allowOverUsage =>
      simp only [recordFailure, OutlastsCooldown, disableAccount, cooldown_until_reload]
      exact set_rises_iff pool failed id _

/-- Along a run of failures the end of an account's cooldown never moves to an
earlier time exactly when every call that overwrites it outlasts it. -/
theorem cooldown_never_shortened_iff (pool : AccountPool Credit) (id : GoString)
    (calls : List (FailureCall Credit)) :
    Rises recordFailure (fun reached => cooldownUntil reached id) pool calls ↔
      StepsMeet recordFailure (OutlastsCooldown id) pool calls := by
  apply rises_iff_steps_meet
  exact record_failure_rises_iff id

end Runs

section OverLimit

/-- 1 January 2026. -/
def start : Time := (unixEpoch + 1767225600) * second

/-- Upstream asks to wait three days; a second later the account is over its limit. -/
def quotaThenOverLimit : List (FailureCall Int) :=
  [{ id := lit "a", now := start, failure := .quotaError (72 * hour) },
    { id := lit "a", now := start + second, failure := .overLimit [] false }]

theorem over_limit_shortens_quota_cooldown :
    ¬∀ (pool : AccountPool Int) (id : GoString) (calls : List (FailureCall Int)),
      calls.Pairwise (fun earlier later => earlier.now ≤ later.now) →
        Rises recordFailure (fun reached => cooldownUntil reached id) pool calls := by
  intro always
  have rises := always newPool (lit "a") quotaThenOverLimit (by decide)
    [quotaThenOverLimit.head (by decide)] quotaThenOverLimit.tail [] rfl
  revert rises
  decide

end OverLimit

end KiroProxy.Pool
