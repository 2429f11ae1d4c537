import KiroProxy.GoStrings
import KiroProxy.Foundation.Binary64
import KiroProxy.Foundation.KeyedList
import Mathlib.Algebra.Order.Ring.Int

/-!
# The API-key store

A transcription of `config/apikeys.go`. Every operation runs under `cfgLock`,
so it is one atomic function from the stored configuration to an error and a
new configuration. Whether the save at its end succeeds is an argument.
Token counters are the signed 64-bit words of the source, whose sums wrap; credits
are the `float64` operations the store uses, under the laws those operations have
on non-NaN values.
-/

namespace KiroProxy.ApiKeys

open Foundation.Binary64 Foundation.KeyedList GoStrings

set_option autoImplicit false

/-- The `float64` arithmetic of credit amounts. The laws are those of IEEE 754
up to the sign of zero: adding or subtracting zero is exact, and a sum of
non-negative amounts is non-negative. -/
class CreditAmount (Credit : Type) extends Zero Credit, Add Credit, Sub Credit,
    LT Credit, LE Credit where
  decidableLT : DecidableRel (fun left right : Credit => left < right)
  decidableLE : DecidableRel (fun left right : Credit => left ≤ right)
  sub_zero : ∀ amount : Credit, amount - 0 = amount
  add_zero : ∀ amount : Credit, amount + 0 = amount
  zero_nonneg : (0 : Credit) ≤ 0
  add_nonneg : ∀ left right : Credit, 0 ≤ left → 0 ≤ right → 0 ≤ left + right
  not_negative_iff : ∀ amount : Credit, ¬amount < 0 ↔ 0 ≤ amount
  le_of_lt : ∀ left right : Credit, left < right → left ≤ right

-- Whole numbers keep their own zero.
attribute [instance(100)] CreditAmount.toZero

instance creditDecidableLT {Credit : Type} [CreditAmount Credit] :
    DecidableRel (fun left right : Credit => left < right) := CreditAmount.decidableLT

instance creditDecidableLE {Credit : Type} [CreditAmount Credit] :
    DecidableRel (fun left right : Credit => left ≤ right) := CreditAmount.decidableLE

/-- Whole credits, for running the store. -/
instance wholeCredits : CreditAmount Int where
  zero := 0
  decidableLT := inferInstance
  decidableLE := inferInstance
  sub_zero := Int.sub_zero
  add_zero := Int.add_zero
  zero_nonneg := Int.le_refl 0
  add_nonneg := fun _ _ => Int.add_nonneg
  not_negative_iff := fun _ => Int.not_lt
  le_of_lt := fun _ _ => Int.le_of_lt

/-- Finite `float64` credits: a sum or difference is rounded. -/
instance floatCredits : CreditAmount Float64 where
  zero := ⟨0, by decide⟩
  add := fun left right => nearest (left.units + right.units)
  sub := fun left right => nearest (left.units - right.units)
  lt := fun left right => left.units < right.units
  le := fun left right => left.units ≤ right.units
  decidableLT := fun left right => inferInstanceAs (Decidable (left.units < right.units))
  decidableLE := fun left right => inferInstanceAs (Decidable (left.units ≤ right.units))
  sub_zero := fun amount => (congrArg nearest (Int.sub_zero _)).trans (nearest_units amount)
  add_zero := fun amount => (congrArg nearest (Int.add_zero _)).trans (nearest_units amount)
  zero_nonneg := Int.le_refl 0
  add_nonneg := fun _ _ left right => nearest_nonneg _ (Int.add_nonneg left right)
  not_negative_iff := fun _ => Int.not_lt
  le_of_lt := fun _ _ => Int.le_of_lt

@[ext] structure ApiKeyEntry (Credit : Type) where
  id : GoString
  name : GoString
  key : GoString
  enabled : Bool
  createdAt : Int
  lastUsedAt : Int
  tokenLimit : Int
  creditLimit : Credit
  tokensUsed : Int64
  creditsUsed : Credit
  requestsCount : Int
  deriving DecidableEq

structure Config (Credit : Type) where
  requireApiKey : Bool
  apiKeys : List (ApiKeyEntry Credit)
  deriving DecidableEq

inductive ApiKeyError where
  | notFound
  | lockout
  | emptyKey
  | alreadyExists
  | collides
  | negativeTokenLimit
  | negativeCreditLimit
  | negativeReservation
  | negativeUsage
  | disabled
  | tokenLimitExceeded
  | creditLimitExceeded
  | saveFailed (cause : String)
  deriving DecidableEq

def ApiKeyError.message : ApiKeyError → String
  | .notFound => "api key not found"
  | .lockout => "would lock out every client"
  | .emptyKey => "api key value must not be empty"
  | .alreadyExists => "api key already exists"
  | .collides => "api key value collides with existing entry"
  | .negativeTokenLimit => "token limit must be zero or positive"
  | .negativeCreditLimit => "credit limit must be zero or positive"
  | .negativeReservation => "usage reservation must be zero or positive"
  | .negativeUsage => "api key usage must be zero or positive"
  | .disabled => "api key disabled"
  | .tokenLimitExceeded => "token limit exceeded"
  | .creditLimitExceeded => "credit limit exceeded"
  | .saveFailed cause => cause

/-- How the save at the end of an operation went: `none` is success. -/
abbrev SaveResult := Option String

section Store

variable {Credit : Type}

def hasId (id : GoString) (entry : ApiKeyEntry Credit) : Bool := entry.id == id

def getApiKeyEntry (cfg : Config Credit) (id : GoString) : Option (ApiKeyEntry Credit) :=
  cfg.apiKeys.find? (hasId id)

def Config.change (cfg : Config Credit) (id : GoString)
    (change : ApiKeyEntry Credit → ApiKeyEntry Credit) : Config Credit :=
  { cfg with apiKeys := updateFirst (hasId id) change cfg.apiKeys }

def countEnabledApiKeysLocked (cfg : Config Credit) : Nat :=
  cfg.apiKeys.countP (fun entry => entry.enabled)

def removingKeyLocksOutLocked (cfg : Config Credit) (entry : ApiKeyEntry Credit) : Bool :=
  entry.enabled && cfg.requireApiKey && decide (countEnabledApiKeysLocked cfg ≤ 1)

def saved (saveErr : SaveResult) : Option ApiKeyError := saveErr.map .saveFailed

variable [CreditAmount Credit]

def validateApiKeyLimits (tokenLimit : Int) (creditLimit : Credit) : Option ApiKeyError :=
  if tokenLimit < 0 then some .negativeTokenLimit
  else if creditLimit < 0 then some .negativeCreditLimit
  else none

def addApiKey (cfg : Config Credit) (entry : ApiKeyEntry Credit)
    (machineId : GoString) (now : Int) (saveErr : SaveResult) :
    Except ApiKeyError (ApiKeyEntry Credit) × Config Credit :=
  let entry := { entry with name := trimSpace entry.name, key := trimSpace entry.key }
  if entry.key = [] then (.error .emptyKey, cfg)
  else match validateApiKeyLimits entry.tokenLimit entry.creditLimit with
    | some err => (.error err, cfg)
    | none =>
        if cfg.apiKeys.any (fun existing => existing.key == entry.key) then
          (.error .alreadyExists, cfg)
        else
          let entry := { entry with
            id := if entry.id = [] then machineId else entry.id
            createdAt := if entry.createdAt = 0 then now else entry.createdAt }
          match saveErr with
          | some cause => (.error (.saveFailed cause), cfg)
          | none => (.ok entry, { cfg with apiKeys := cfg.apiKeys ++ [entry] })

/-- The key value an update stores: an empty one keeps the current value. -/
def updatedKey (current patchKey : GoString) : GoString :=
  if patchKey = [] then current else trimSpace patchKey

/-- The checks `updateApiKey` makes before its first write. -/
def checkUpdate (cfg : Config Credit) (entry patch : ApiKeyEntry Credit) (guard : Bool) :
    Option ApiKeyError :=
  if guard && !patch.enabled && removingKeyLocksOutLocked cfg entry then some .lockout
  else match validateApiKeyLimits patch.tokenLimit patch.creditLimit with
    | some err => some err
    | none =>
        if patch.key = [] then none
        else if trimSpace patch.key = [] then some .emptyKey
        else if (cfg.apiKeys.eraseP (hasId entry.id)).any
            (fun other => other.key == trimSpace patch.key) then some .collides
        else none

/-- The fields `updateApiKey` writes. -/
def writeUpdate (patch entry : ApiKeyEntry Credit) : ApiKeyEntry Credit :=
  { entry with
    name := trimSpace patch.name
    key := updatedKey entry.key patch.key
    enabled := patch.enabled
    tokenLimit := patch.tokenLimit
    creditLimit := patch.creditLimit }

def updateApiKey (cfg : Config Credit) (id : GoString) (patch : ApiKeyEntry Credit)
    (guard : Bool) (saveErr : SaveResult) : Option ApiKeyError × Config Credit :=
  match getApiKeyEntry cfg id with
  | none => (some .notFound, cfg)
  | some entry =>
      match checkUpdate cfg entry patch guard with
      | some err => (some err, cfg)
      | none => (saved saveErr, cfg.change id (writeUpdate patch))

def updateApiKeyGuarded (cfg : Config Credit) (id : GoString) (patch : ApiKeyEntry Credit)
    (saveErr : SaveResult) : Option ApiKeyError × Config Credit :=
  updateApiKey cfg id patch true saveErr

def deleteApiKey (cfg : Config Credit) (id : GoString) (guard : Bool)
    (saveErr : SaveResult) : Option ApiKeyError × Config Credit :=
  match getApiKeyEntry cfg id with
  | none => (none, cfg)
  | some entry =>
      if guard && removingKeyLocksOutLocked cfg entry then (some .lockout, cfg)
      else (saved saveErr, { cfg with apiKeys := cfg.apiKeys.eraseP (hasId id) })

def reserveCheck (entry : ApiKeyEntry Credit) (tokens : Int64) (credits : Credit) :
    Option ApiKeyError :=
  if !entry.enabled then some .disabled
  else if 0 < entry.tokenLimit ∧ entry.tokenLimit < (entry.tokensUsed + tokens).toInt then
    some .tokenLimitExceeded
  else if 0 < entry.creditLimit ∧ entry.creditLimit < entry.creditsUsed + credits then
    some .creditLimitExceeded
  else none

def addReserved (tokens : Int64) (credits : Credit) (entry : ApiKeyEntry Credit) :
    ApiKeyEntry Credit :=
  { entry with
    tokensUsed := entry.tokensUsed + tokens
    creditsUsed := entry.creditsUsed + credits }

def takeBackReserved (tokens : Int64) (credits : Credit) (entry : ApiKeyEntry Credit) :
    ApiKeyEntry Credit :=
  { entry with
    tokensUsed := entry.tokensUsed - tokens
    creditsUsed := entry.creditsUsed - credits }

/-- A failed save subtracts the reservation again. -/
def reserveApiKeyUsageAtIndexLocked (entry : ApiKeyEntry Credit) (tokens : Int64)
    (credits : Credit) (saveErr : SaveResult) : Option ApiKeyError × ApiKeyEntry Credit :=
  match reserveCheck entry tokens credits with
  | some err => (some err, entry)
  | none =>
      match saveErr with
      | none => (none, addReserved tokens credits entry)
      | some cause => (some (.saveFailed cause),
          takeBackReserved tokens credits (addReserved tokens credits entry))

/-- The credits of the key are used up before anything is reserved. -/
def creditsSpent (entry : ApiKeyEntry Credit) : Prop :=
  0 < entry.creditLimit ∧ entry.creditLimit ≤ entry.creditsUsed

instance (entry : ApiKeyEntry Credit) : Decidable (creditsSpent entry) :=
  inferInstanceAs (Decidable (_ ∧ _))

def reserveApiKeyRequestUsage (cfg : Config Credit) (id : GoString) (tokens : Int64)
    (saveErr : SaveResult) : Except ApiKeyError Credit × Config Credit :=
  if tokens < 0 then (.error .negativeReservation, cfg)
  else match getApiKeyEntry cfg id with
    | none => (.error .notFound, cfg)
    | some entry =>
        let credits : Credit := 0
        if creditsSpent entry then
          (.error .creditLimitExceeded, cfg)
        else match reserveApiKeyUsageAtIndexLocked entry tokens credits saveErr with
          | (some err, entry') => (.error err, cfg.change id (fun _ => entry'))
          | (none, entry') => (.ok credits, cfg.change id (fun _ => entry'))

def clampTokens (tokens : Int64) : Int64 := if tokens < 0 then 0 else tokens

def clampCredits (credits : Credit) : Credit := if credits < 0 then 0 else credits

def releaseReserved (tokens : Int64) (credits : Credit) (entry : ApiKeyEntry Credit) :
    ApiKeyEntry Credit :=
  { entry with
    tokensUsed := clampTokens (entry.tokensUsed - tokens)
    creditsUsed := clampCredits (entry.creditsUsed - credits) }

def releaseApiKeyUsageReservation (cfg : Config Credit) (id : GoString) (tokens : Int64)
    (credits : Credit) (saveErr : SaveResult) : Option ApiKeyError × Config Credit :=
  if tokens < 0 ∨ credits < 0 then (some .negativeReservation, cfg)
  else match getApiKeyEntry cfg id with
    | none => (some .notFound, cfg)
    | some _ => (saved saveErr, cfg.change id (releaseReserved tokens credits))

/-- The counters of a finalized request, before the limits are looked at. -/
def settleUsage (reservedTokens : Int64) (reservedCredits : Credit) (actualTokens : Int64)
    (actualCredits : Credit) (entry : ApiKeyEntry Credit) : ApiKeyEntry Credit :=
  { entry with
    tokensUsed := clampTokens (entry.tokensUsed + (actualTokens - reservedTokens))
    creditsUsed := clampCredits (entry.creditsUsed + (actualCredits - reservedCredits)) }

def tokenLimitReached (entry : ApiKeyEntry Credit) : Bool :=
  decide (0 < entry.tokenLimit) && decide (entry.tokenLimit ≤ entry.tokensUsed.toInt)

def creditLimitReached (entry : ApiKeyEntry Credit) : Bool :=
  decide (0 < entry.creditLimit) && decide (entry.creditLimit ≤ entry.creditsUsed)

def finalizeUsage (reservedTokens : Int64) (reservedCredits : Credit) (actualTokens : Int64)
    (actualCredits : Credit) (now : Int) (entry : ApiKeyEntry Credit) :
    ApiKeyEntry Credit :=
  let settled := settleUsage reservedTokens reservedCredits actualTokens actualCredits entry
  { settled with
    enabled := if tokenLimitReached settled || creditLimitReached settled then false
      else settled.enabled
    requestsCount := settled.requestsCount + 1
    lastUsedAt := now }

def finalizeApiKeyUsageReservation (cfg : Config Credit) (id : GoString)
    (reservedTokens : Int64) (reservedCredits : Credit) (actualTokens : Int64)
    (actualCredits : Credit) (now : Int) (saveErr : SaveResult) :
    Option ApiKeyError × Config Credit :=
  if reservedTokens < 0 ∨ reservedCredits < 0 ∨ actualTokens < 0 ∨ actualCredits < 0 then
    (some .negativeUsage, cfg)
  else match getApiKeyEntry cfg id with
    | none => (some .notFound, cfg)
    | some _ => (saved saveErr, cfg.change id
        (finalizeUsage reservedTokens reservedCredits actualTokens actualCredits now))

def resetUsage (entry : ApiKeyEntry Credit) : ApiKeyEntry Credit :=
  { entry with tokensUsed := 0, creditsUsed := 0, requestsCount := 0 }

def resetApiKeyUsage (cfg : Config Credit) (id : GoString) (saveErr : SaveResult) :
    Option ApiKeyError × Config Credit :=
  match getApiKeyEntry cfg id with
  | none => (some .notFound, cfg)
  | some _ => (saved saveErr, cfg.change id resetUsage)

end Store

section Lookups

variable {Credit : Type} (cfg : Config Credit) (id : GoString)
  (change : ApiKeyEntry Credit → ApiKeyEntry Credit)

theorem get_entry_id (entry : ApiKeyEntry Credit)
    (found : getApiKeyEntry cfg id = some entry) : entry.id = id := by
  have matched := List.find?_some found
  simpa [hasId] using matched

theorem get_change (keeps : ∀ entry, entry.id = id → (change entry).id = id) :
    getApiKeyEntry (cfg.change id change) id = (getApiKeyEntry cfg id).map change := by
  apply find_update_first
  intro entry matched
  simp only [hasId, beq_iff_eq] at matched ⊢
  exact keeps entry matched

theorem get_change_other (keeps : ∀ entry, entry.id = id → (change entry).id = id)
    (other : GoString) (apart : other ≠ id) :
    getApiKeyEntry (cfg.change id change) other = getApiKeyEntry cfg other := by
  apply find_update_first_other
  · intro entry matched
    simp only [hasId, beq_iff_eq] at matched
    simp [hasId, matched, Ne.symm apart]
  · intro entry matched
    simp only [hasId, beq_iff_eq] at matched
    simp [hasId, keeps entry matched, Ne.symm apart]

end Lookups

section Outcomes

variable {Credit : Type} [CreditAmount Credit] (cfg : Config Credit) (id : GoString)
  (tokens : Int64) (saveErr : SaveResult)

theorem take_back_add (credits : Credit) (zero : credits = 0) (entry : ApiKeyEntry Credit) :
    takeBackReserved tokens credits (addReserved tokens credits entry) = entry := by
  cases entry
  simp [takeBackReserved, addReserved, zero, CreditAmount.add_zero, CreditAmount.sub_zero]

/-- An entry is refused however the save would go, or it is added unless the save fails. -/
theorem add_outcome (entry : ApiKeyEntry Credit) (machineId : GoString) (now : Int) :
    (∃ err, ∀ saveErr, addApiKey cfg entry machineId now saveErr = (.error err, cfg)) ∨
      ∃ added, added.key = trimSpace entry.key ∧ added.key ≠ [] ∧
        (∀ existing ∈ cfg.apiKeys, existing.key ≠ added.key) ∧
        (∀ cause, addApiKey cfg entry machineId now (some cause) =
          (.error (.saveFailed cause), cfg)) ∧
        addApiKey cfg entry machineId now none =
          (.ok added, { cfg with apiKeys := cfg.apiKeys ++ [added] }) := by
  unfold addApiKey
  by_cases empty : trimSpace entry.key = []
  · exact .inl ⟨.emptyKey, fun _ => if_pos empty⟩
  · simp only [if_neg empty]
    cases limits : validateApiKeyLimits entry.tokenLimit entry.creditLimit with
    | some err => exact .inl ⟨err, fun _ => rfl⟩
    | none =>
        by_cases taken :
            cfg.apiKeys.any (fun existing => existing.key == trimSpace entry.key) = true
        · exact .inl ⟨.alreadyExists, fun _ => if_pos taken⟩
        · refine .inr ⟨_, rfl, empty, ?_, fun _ => if_neg taken, if_neg taken⟩
          intro existing member same
          exact taken (List.any_eq_true.mpr ⟨existing, member, beq_iff_eq.mpr same⟩)

/-- A reservation is refused and nothing changes, or it is made in full. -/
theorem reserve_outcome :
    (∃ err, reserveApiKeyRequestUsage cfg id tokens saveErr = (.error err, cfg)) ∨
      ∃ entry, 0 ≤ tokens ∧ getApiKeyEntry cfg id = some entry ∧
        reserveCheck entry tokens 0 = none ∧ ¬creditsSpent entry ∧ saveErr = none ∧
        reserveApiKeyRequestUsage cfg id tokens saveErr =
          (.ok 0, cfg.change id (fun _ => addReserved tokens 0 entry)) := by
  unfold reserveApiKeyRequestUsage
  by_cases negative : tokens < 0
  · simp [negative]
  · rw [if_neg negative]
    cases found : getApiKeyEntry cfg id with
    | none => simp
    | some entry =>
        have same : cfg.change id (fun _ => entry) = cfg := by
          unfold Config.change
          rw [update_first_found (hasId id) cfg.apiKeys entry found]
        by_cases spent : creditsSpent entry
        · simp [spent]
        · simp only [if_neg spent, reserveApiKeyUsageAtIndexLocked]
          cases check : reserveCheck entry tokens (0 : Credit) with
          | some err => simp [same]
          | none =>
              cases saveErr with
              | some cause => simp [take_back_add, same]
              | none => exact Or.inr ⟨entry, Int64.not_lt.mp negative, rfl, check, spent, rfl, rfl⟩

theorem reserve_ok (after : Config Credit) (credits : Credit)
    (reserved : reserveApiKeyRequestUsage cfg id tokens saveErr = (.ok credits, after)) :
    0 ≤ tokens ∧ credits = 0 := by
  rcases reserve_outcome cfg id tokens saveErr with ⟨err, refused⟩ | ⟨entry, nonneg, _, _, _, _, made⟩
  · rw [refused] at reserved
    simp at reserved
  · rw [made] at reserved
    simp only [Prod.mk.injEq, Except.ok.injEq] at reserved
    exact ⟨nonneg, reserved.1.symm⟩

/-- A reservation that is made would have failed with its save. -/
theorem reserve_saves (after : Config Credit) (credits : Credit)
    (reserved : reserveApiKeyRequestUsage cfg id tokens saveErr = (.ok credits, after))
    (cause : String) :
    (reserveApiKeyRequestUsage cfg id tokens (some cause)).1 = .error (.saveFailed cause) := by
  unfold reserveApiKeyRequestUsage at reserved ⊢
  by_cases negative : tokens < 0
  · simp [negative] at reserved
  · rw [if_neg negative] at reserved ⊢
    cases found : getApiKeyEntry cfg id with
    | none => simp [found] at reserved
    | some entry =>
        by_cases spent : creditsSpent entry
        · simp [found, spent] at reserved
        · simp only [found, if_neg spent, reserveApiKeyUsageAtIndexLocked] at reserved ⊢
          cases check : reserveCheck entry tokens (0 : Credit) with
          | some err => simp [check] at reserved
          | none => rfl

/-- What a reservation that passes its check leaves room for. -/
theorem reserve_check_none (entry : ApiKeyEntry Credit) (credits : Credit)
    (passed : reserveCheck entry tokens credits = none) :
    entry.enabled = true ∧
      (0 < entry.tokenLimit → (entry.tokensUsed + tokens).toInt ≤ entry.tokenLimit) := by
  unfold reserveCheck at passed
  split_ifs at passed with disabled exceeded
  simp only [Bool.not_eq_true', Bool.not_eq_false] at disabled
  constructor
  · exact disabled
  · intro positive
    by_contra beyond
    exact exceeded ⟨positive, Int.not_le.mp beyond⟩

/-- A release is refused and nothing changes, or it is applied to the entry, even
when the save after it fails. -/
theorem release_outcome (credits : Credit) :
    (∃ err, (∀ cause, err ≠ .saveFailed cause) ∧
      releaseApiKeyUsageReservation cfg id tokens credits saveErr = (some err, cfg)) ∨
      ∃ entry, getApiKeyEntry cfg id = some entry ∧
        releaseApiKeyUsageReservation cfg id tokens credits saveErr =
          (saved saveErr, cfg.change id (releaseReserved tokens credits)) := by
  unfold releaseApiKeyUsageReservation
  by_cases negative : tokens < 0 ∨ credits < 0
  · simp [negative]
  · rw [if_neg negative]
    cases found : getApiKeyEntry cfg id with
    | none => simp
    | some entry => exact Or.inr ⟨entry, rfl, rfl⟩

theorem finalize_outcome (credits : Credit) (actualTokens : Int64) (actualCredits : Credit)
    (now : Int) :
    (∃ err, (∀ cause, err ≠ .saveFailed cause) ∧
      finalizeApiKeyUsageReservation cfg id tokens credits actualTokens actualCredits now
        saveErr = (some err, cfg)) ∨
      ∃ entry, 0 ≤ actualTokens ∧ (0 : Credit) ≤ actualCredits ∧
        getApiKeyEntry cfg id = some entry ∧
        finalizeApiKeyUsageReservation cfg id tokens credits actualTokens actualCredits now
          saveErr = (saved saveErr, cfg.change id
            (finalizeUsage tokens credits actualTokens actualCredits now)) := by
  unfold finalizeApiKeyUsageReservation
  by_cases negative : tokens < 0 ∨ credits < 0 ∨ actualTokens < 0 ∨ actualCredits < 0
  · simp [negative]
  · rw [if_neg negative]
    cases found : getApiKeyEntry cfg id with
    | none => simp
    | some entry =>
        simp only [not_or] at negative
        exact Or.inr ⟨entry, Int64.not_lt.mp negative.2.2.1,
          (CreditAmount.not_negative_iff actualCredits).mp negative.2.2.2, rfl, rfl⟩

theorem finalize_applied (credits : Credit) (actualTokens : Int64) (actualCredits : Credit)
    (now : Int) (entry : ApiKeyEntry Credit) (found : getApiKeyEntry cfg id = some entry)
    (reserved : 0 ≤ tokens) (held : (0 : Credit) ≤ credits) (nonneg : 0 ≤ actualTokens)
    (paid : (0 : Credit) ≤ actualCredits) :
    finalizeApiKeyUsageReservation cfg id tokens credits actualTokens actualCredits now
      saveErr = (saved saveErr, cfg.change id
        (finalizeUsage tokens credits actualTokens actualCredits now)) := by
  have accepted : ¬(tokens < 0 ∨ credits < 0 ∨ actualTokens < 0 ∨ actualCredits < 0) := by
    intro negative
    rcases negative with below | below | below | below
    · exact Int64.not_lt.mpr reserved below
    · exact (CreditAmount.not_negative_iff credits).mpr held below
    · exact Int64.not_lt.mpr nonneg below
    · exact (CreditAmount.not_negative_iff actualCredits).mpr paid below
  simp only [finalizeApiKeyUsageReservation, if_neg accepted, found]

theorem reset_outcome :
    resetApiKeyUsage cfg id saveErr = (some .notFound, cfg) ∨
      ∃ entry, getApiKeyEntry cfg id = some entry ∧
        resetApiKeyUsage cfg id saveErr = (saved saveErr, cfg.change id resetUsage) := by
  unfold resetApiKeyUsage
  cases found : getApiKeyEntry cfg id with
  | none => exact Or.inl rfl
  | some entry => exact Or.inr ⟨entry, rfl, rfl⟩

end Outcomes

end KiroProxy.ApiKeys
