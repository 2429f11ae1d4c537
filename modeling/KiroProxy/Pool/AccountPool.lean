import KiroProxy.Config.Accounts

/-!
# The account pool

A transcription of `pool/account.go`: the weighted rotation, the selection of
the next account, and the cooldowns. Each operation runs under the pool's lock.
A time is a number of nanoseconds since the zero `time.Time`, which is what a
missing map entry reads as.
-/

namespace KiroProxy.Pool

open Accounts
open ApiKeys (CreditAmount)
open GoStrings

set_option autoImplicit false

abbrev Time := Int

def second : Int := 1000000000

def minute : Int := 60 * second

def hour : Int := 60 * minute

/-- 1 January 1970 on this clock, in seconds. -/
def unixEpoch : Int := 62135596800

def unix (now : Time) : Int := now / second - unixEpoch

section Dates

def digit (byte : UInt8) : Option Nat :=
  if 0x30 ≤ byte ∧ byte ≤ 0x39 then some (byte.toNat - 0x30) else none

def isLeap (year : Nat) : Bool :=
  year % 4 = 0 && (year % 100 != 0 || year % 400 = 0)

def daysIn (month year : Nat) : Nat :=
  if month = 2 then (if isLeap year then 29 else 28)
  else if month = 4 ∨ month = 6 ∨ month = 9 ∨ month = 11 then 30
  else 31

/-- The days from 1 January of the year 1 to 1 January of the year. -/
def daysBeforeYear (year : Nat) : Int :=
  let past : Int := year - 1
  365 * past + past / 4 - past / 100 + past / 400

def daysBeforeMonth (month year : Nat) : Nat :=
  (List.range (month - 1)).foldl (fun days earlier => days + daysIn (earlier + 1) year) 0

/-- `time.Parse` with the layout `2006-01-02`. -/
def parseDate (text : GoString) : Option Time :=
  match text with
  | [y1, y2, y3, y4, dash1, m1, m2, dash2, d1, d2] => do
      let y1 ← digit y1
      let y2 ← digit y2
      let y3 ← digit y3
      let y4 ← digit y4
      let m1 ← digit m1
      let m2 ← digit m2
      let d1 ← digit d1
      let d2 ← digit d2
      let year := 1000 * y1 + 100 * y2 + 10 * y3 + y4
      let month := 10 * m1 + m2
      let day := 10 * d1 + d2
      if dash1 = 0x2D ∧ dash2 = 0x2D ∧ 1 ≤ month ∧ month ≤ 12 ∧
          1 ≤ day ∧ day ≤ daysIn month year then
        some ((daysBeforeYear year + daysBeforeMonth month year + (day - 1 : Nat)) *
          (24 * hour))
      else none
  | _ => none

example : (parseDate (lit "1970-01-01")).map unix = some 0 := by decide

end Dates

structure AccountPool (Credit : Type) where
  accounts : List (Account Credit)
  totalAccounts : Nat
  currentIndex : Nat
  lastSelected : GoString
  cooldowns : GoString → Option Time
  errorCounts : GoString → Nat
  modelLists : GoString → Option (List GoString)
  enabledIDs : List GoString

/-- The pool before its first `Reload`. -/
def newPool {Credit : Type} : AccountPool Credit where
  accounts := []
  totalAccounts := 0
  currentIndex := 0
  lastSelected := []
  cooldowns := fun _ => none
  errorCounts := fun _ => 0
  modelLists := fun _ => none
  enabledIDs := []

section Rotation

variable {Credit : Type} [CreditAmount Credit]

def inRotation (allowOverUsage : Bool) (account : Account Credit) : Bool :=
  !(isOverUsageLimit account && !isUpstreamOverageEnabled account && !allowOverUsage)

/-- The rotation: every account as often as its weight, its copies together. -/
def weighted (accounts : List (Account Credit)) : List (Account Credit) :=
  accounts.flatMap fun account =>
    List.replicate (effectiveWeight account.weight) account

/-- `Reload`, given what the store answers: the enabled accounts and whether
accounts over their limit may serve. -/
def reload (pool : AccountPool Credit) (enabled : List (Account Credit))
    (allowOverUsage : Bool) : AccountPool Credit :=
  let rotation := weighted (enabled.filter (inRotation allowOverUsage))
  let restarted := rotation.isEmpty
  { pool with
    accounts := rotation
    enabledIDs := enabled.map (fun account => account.id)
    totalAccounts := enabled.length
    currentIndex :=
      if restarted then 0
      else if rotation.length ≤ pool.currentIndex then pool.currentIndex % rotation.length
      else pool.currentIndex
    lastSelected := if restarted then [] else pool.lastSelected }

/-- What one selection is given: the model, the excluded accounts, the clock and
the over-usage setting; `toLower` is `strings.ToLower`. -/
structure Request where
  toLower : GoString → GoString
  model : GoString
  excluded : List GoString
  now : Time
  allowOverUsage : Bool

def accountHasModel (pool : AccountPool Credit) (toLower : GoString → GoString)
    (accountID model : GoString) : Bool :=
  match pool.modelLists accountID with
  | none => true
  | some models => models.isEmpty || models.contains (toLower (trimSpace model))

def tokenRefreshSkewSeconds : Int := 120

def tokenUnavailableForSelection (account : Account Credit) (nowUnix : Int) : Bool :=
  if account.expiresAt = 0 then false
  else if nowUnix ≤ account.expiresAt - tokenRefreshSkewSeconds then false
  else account.refreshToken == []

def cooldownUntil (pool : AccountPool Credit) (id : GoString) : Time :=
  (pool.cooldowns id).getD 0

def isCooling (pool : AccountPool Credit) (id : GoString) (now : Time) : Bool :=
  match pool.cooldowns id with
  | none => false
  | some cooldown => decide (now < cooldown)

def canServe (pool : AccountPool Credit) (account : Account Credit) (request : Request) :
    Bool :=
  if request.excluded.contains account.id then false
  else if request.model != [] &&
      !accountHasModel pool request.toLower account.id request.model then false
  else if isCooling pool account.id request.now then false
  else if tokenUnavailableForSelection account (unix request.now) then false
  else inRotation request.allowOverUsage account

/-- The loop of `findNextAvailableLocked` over the offsets still to try, with the
accounts it has seen. It answers the slot found. -/
def findFrom (pool : AccountPool Credit) (request : Request) (avoidLast : Bool) :
    List GoString → List Nat → Option (Nat × Account Credit)
  | _, [] => none
  | seen, offset :: offsets =>
      let slot := (pool.currentIndex + offset) % pool.accounts.length
      match pool.accounts[slot]? with
      | none => none
      | some account =>
          if seen.contains account.id then findFrom pool request avoidLast seen offsets
          else if avoidLast && account.id == pool.lastSelected then
            findFrom pool request avoidLast (account.id :: seen) offsets
          else if !canServe pool account request then
            findFrom pool request avoidLast (account.id :: seen) offsets
          else some (slot, account)

def findNextAvailable (pool : AccountPool Credit) (request : Request) (avoidLast : Bool) :
    Option (Account Credit) × AccountPool Credit :=
  match findFrom pool request avoidLast [] (List.range pool.accounts.length) with
  | none => (none, pool)
  | some (slot, account) =>
      (some account,
        { pool with
          currentIndex := (slot + 1) % pool.accounts.length
          lastSelected := account.id })

/-- `nextAccountLocked`, which is `GetNextForModelExcluding` under the lock. -/
def nextAccount (pool : AccountPool Credit) (request : Request) :
    Option (Account Credit) × AccountPool Credit :=
  if pool.accounts.isEmpty then (none, pool)
  else
    match findNextAvailable pool request true with
    | (some account, next) => (some account, next)
    | (none, _) => findNextAvailable pool request false

/-- A preferred account that can serve leaves the rotation as it is. -/
def getPreferredForModelExcluding (pool : AccountPool Credit) (preferredID : GoString)
    (request : Request) : Option (Account Credit) × AccountPool Credit :=
  if preferredID = [] then nextAccount pool request
  else
    match pool.accounts.find? (hasId preferredID) with
    | some account =>
        if canServe pool account request then (some account, pool) else nextAccount pool request
    | none => nextAccount pool request

/-- The accounts that consecutive selections return. -/
def selections : AccountPool Credit → List Request → List (Option (Account Credit))
  | _, [] => []
  | pool, request :: requests =>
      (nextAccount pool request).1 :: selections (nextAccount pool request).2 requests

/-- A selected account is in rotation and can serve. -/
def Serves (pool : AccountPool Credit) (request : Request)
    (selected : Option (Account Credit)) : Prop :=
  ∀ account ∈ selected, account ∈ pool.accounts ∧ canServe pool account request = true

theorem find_serves (pool : AccountPool Credit) (request : Request) (avoidLast : Bool)
    (seen : List GoString) (offsets : List Nat) :
    Serves pool request
      ((findFrom pool request avoidLast seen offsets).map fun found => found.2) := by
  induction offsets generalizing seen with
  | nil =>
      intro account member
      cases member
  | cons offset offsets ih =>
      rw [findFrom]
      cases slot : pool.accounts[(pool.currentIndex + offset) % pool.accounts.length]? with
      | none =>
          intro account member
          cases member
      | some found =>
          simp only
          split_ifs with known last serves
          · exact ih seen
          · exact ih (found.id :: seen)
          · exact ih (found.id :: seen)
          · intro account member
            cases member
            exact ⟨List.mem_of_getElem? slot, by simpa using serves⟩

theorem find_next_serves (pool : AccountPool Credit) (request : Request) (avoidLast : Bool) :
    Serves pool request (findNextAvailable pool request avoidLast).1 := by
  have serves := find_serves pool request avoidLast [] (List.range pool.accounts.length)
  unfold findNextAvailable
  cases found : findFrom pool request avoidLast [] (List.range pool.accounts.length) with
  | none =>
      intro account member
      cases member
  | some slot =>
      rw [found] at serves
      exact serves

theorem next_serves (pool : AccountPool Credit) (request : Request) :
    Serves pool request (nextAccount pool request).1 := by
  unfold nextAccount
  split_ifs with empty
  · intro account member
    cases member
  · have first := find_next_serves pool request true
    have second := find_next_serves pool request false
    cases found : findNextAvailable pool request true with
    | mk selected next =>
        cases selected with
        | none => exact second
        | some account =>
            rw [found] at first
            exact first

theorem preferred_serves (pool : AccountPool Credit) (preferredID : GoString)
    (request : Request) :
    Serves pool request (getPreferredForModelExcluding pool preferredID request).1 := by
  have next := next_serves pool request
  unfold getPreferredForModelExcluding
  split_ifs with none_
  · exact next
  · cases found : pool.accounts.find? (hasId preferredID) with
    | none => exact next
    | some account =>
        simp only
        split_ifs with serves
        · intro selected member
          cases member
          exact ⟨List.mem_of_find?_eq_some found, serves⟩
        · exact next

/-- An excluded account is not selected. -/
theorem serves_not_excluded (pool : AccountPool Credit) (account : Account Credit)
    (request : Request) (serves : canServe pool account request = true) :
    account.id ∉ request.excluded := by
  intro excluded
  rw [canServe, if_pos (List.contains_iff_mem.mpr excluded)] at serves
  exact absurd serves Bool.false_ne_true

end Rotation

section Cooldowns

variable {Credit : Type}

def setCooldown (pool : AccountPool Credit) (id : GoString) (deadline : Time) :
    AccountPool Credit :=
  { pool with
    cooldowns := fun other => if other = id then some deadline else pool.cooldowns other }

/-- The write of the branches that compare with the cooldown in force. -/
def extendCooldown (pool : AccountPool Credit) (id : GoString) (deadline : Time) :
    AccountPool Credit :=
  if cooldownUntil pool id < deadline then setCooldown pool id deadline else pool

def countError (pool : AccountPool Credit) (id : GoString) : AccountPool Credit :=
  { pool with
    errorCounts := fun other =>
      if other = id then pool.errorCounts id + 1 else pool.errorCounts other }

def throttleBaseCooldown : Int := minute

def throttleMaxCooldown : Int := 10 * minute

/-- The doubling loop, with the passes left. -/
def doubledDelay : Nat → Int → Int
  | 0, delay => delay
  | passes + 1, delay =>
      if delay < throttleMaxCooldown then doubledDelay passes (delay * 2) else delay

def throttleDelay (count : Nat) (retryAfter : Int) : Int :=
  if retryAfter ≤ 0 then
    min (doubledDelay (count - 1) throttleBaseCooldown) throttleMaxCooldown
  else retryAfter

def recordThrottleError (pool : AccountPool Credit) (id : GoString) (retryAfter : Int)
    (now : Time) : AccountPool Credit :=
  let counted := countError pool id
  extendCooldown counted id (now + throttleDelay (counted.errorCounts id) retryAfter)

def calculateQuotaCooldown (pool : AccountPool Credit) (accountID : GoString)
    (now : Time) : Time :=
  let resetDate :=
    ((pool.accounts.find? (hasId accountID)).map fun account => account.nextResetDate).getD []
  match parseDate resetDate with
  | none => now + 24 * hour
  | some date => if now < date + 24 * hour then date + 24 * hour else now + 24 * hour

def recordErrorAfter (pool : AccountPool Credit) (id : GoString) (isQuotaError : Bool)
    (retryAfter : Int) (now : Time) : AccountPool Credit :=
  let counted := countError pool id
  if isQuotaError then
    extendCooldown counted id
      (if 0 < retryAfter then now + retryAfter else calculateQuotaCooldown counted id now)
  else if 3 ≤ counted.errorCounts id then setCooldown counted id (now + minute)
  else counted

def recordError (pool : AccountPool Credit) (id : GoString) (isQuotaError : Bool)
    (now : Time) : AccountPool Credit :=
  recordErrorAfter pool id isQuotaError 0 now

def recordQuotaError (pool : AccountPool Credit) (id : GoString) (retryAfter : Int)
    (now : Time) : AccountPool Credit :=
  recordErrorAfter pool id true retryAfter now

variable [CreditAmount Credit]

/-- `DisableAccount` after the store has recorded the ban. -/
def disableAccount (pool : AccountPool Credit) (id : GoString) (now : Time)
    (enabled : List (Account Credit)) (allowOverUsage : Bool) : AccountPool Credit :=
  reload (setCooldown pool id (now + 24 * hour)) enabled allowOverUsage

def markOverLimit (pool : AccountPool Credit) (id : GoString) (now : Time)
    (enabled : List (Account Credit)) (allowOverUsage : Bool) : AccountPool Credit :=
  reload (setCooldown pool id (now + hour)) enabled allowOverUsage

end Cooldowns

end KiroProxy.Pool
