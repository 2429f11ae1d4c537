import KiroProxy.Config.ApiKeys
import KiroProxy.Foundation.Runs

/-!
# Failed saves of the API-key store

Every operation writes the keys in memory and then saves the configuration.
`AddApiKey` and `ReserveApiKeyRequestUsage` take their write back when the save
fails; the others return its error over the keys they have written.
-/

namespace KiroProxy.ApiKeys

open Foundation.KeyedList Foundation.Runs GoStrings

set_option autoImplicit false

inductive KeyOperation (Credit : Type) where
  | add (entry : ApiKeyEntry Credit) (machineId : GoString) (now : Int)
  | update (id : GoString) (patch : ApiKeyEntry Credit) (guard : Bool)
  | delete (id : GoString) (guard : Bool)
  | reserve (id : GoString) (tokens : Int64)
  | release (id : GoString) (tokens : Int64) (credits : Credit)
  | finalize (id : GoString) (reservedTokens : Int64) (reservedCredits : Credit)
      (actualTokens : Int64) (actualCredits : Credit) (now : Int)

section Operations

variable {Credit : Type} [CreditAmount Credit]

def failure {Value : Type} : Except ApiKeyError Value → Option ApiKeyError
  | .error err => some err
  | .ok _ => none

/-- The error of an operation and the configuration in memory after it. -/
def KeyOperation.perform (operation : KeyOperation Credit) (cfg : Config Credit)
    (saveErr : SaveResult) : Option ApiKeyError × Config Credit :=
  match operation with
  | .add entry machineId now =>
      let result := addApiKey cfg entry machineId now saveErr
      (failure result.1, result.2)
  | .update id patch guard => updateApiKey cfg id patch guard saveErr
  | .delete id guard => deleteApiKey cfg id guard saveErr
  | .reserve id tokens =>
      let result := reserveApiKeyRequestUsage cfg id tokens saveErr
      (failure result.1, result.2)
  | .release id tokens credits => releaseApiKeyUsageReservation cfg id tokens credits saveErr
  | .finalize id reservedTokens reservedCredits actualTokens actualCredits now =>
      finalizeApiKeyUsageReservation cfg id reservedTokens reservedCredits actualTokens
        actualCredits now saveErr

/-- An error leaves the keys in memory as they were. -/
def FailsClean (operation : KeyOperation Credit) (cfg : Config Credit) (saveErr : SaveResult) :
    Prop :=
  (operation.perform cfg saveErr).1 ≠ none →
    (operation.perform cfg saveErr).2.apiKeys = cfg.apiKeys

/-- What an operation that does not undo its write makes of the keys, once its arguments have
passed. -/
def KeyOperation.write (cfg : Config Credit) :
    KeyOperation Credit → Option (List (ApiKeyEntry Credit))
  | .add _ _ _ => none
  | .reserve _ _ => none
  | .update id patch guard =>
      match getApiKeyEntry cfg id with
      | none => none
      | some entry =>
          if checkUpdate cfg entry patch guard = none then
            some (cfg.change id (writeUpdate patch)).apiKeys
          else none
  | .delete id guard =>
      match getApiKeyEntry cfg id with
      | none => none
      | some entry =>
          if guard && removingKeyLocksOutLocked cfg entry then none
          else some (cfg.apiKeys.eraseP (hasId id))
  | .release id tokens credits =>
      if tokens < 0 ∨ credits < 0 then none
      else (getApiKeyEntry cfg id).map fun _ =>
        (cfg.change id (releaseReserved tokens credits)).apiKeys
  | .finalize id reservedTokens reservedCredits actualTokens actualCredits now =>
      if reservedTokens < 0 ∨ reservedCredits < 0 ∨ actualTokens < 0 ∨ actualCredits < 0 then none
      else (getApiKeyEntry cfg id).map fun _ =>
        (cfg.change id (finalizeUsage reservedTokens reservedCredits actualTokens actualCredits
          now)).apiKeys

/-- The key already is what the operation would make of it: an update to the values it has, a
release that leaves both counters. A deletion drops the key and a finalize counts a request. -/
def KeyOperation.Idle (cfg : Config Credit) : KeyOperation Credit → Prop
  | .update id patch _ => ∀ entry ∈ getApiKeyEntry cfg id,
      trimSpace patch.name = entry.name ∧ updatedKey entry.key patch.key = entry.key ∧
        patch.enabled = entry.enabled ∧ patch.tokenLimit = entry.tokenLimit ∧
        patch.creditLimit = entry.creditLimit
  | .release id tokens credits => ∀ entry ∈ getApiKeyEntry cfg id,
      clampTokens (entry.tokensUsed - tokens) = entry.tokensUsed ∧
        clampCredits (entry.creditsUsed - credits) = entry.creditsUsed
  | _ => False

/-- The save succeeds, or there is no write to be left behind, or the write changes nothing. -/
def Recovers (operation : KeyOperation Credit) (cfg : Config Credit) (saveErr : SaveResult) :
    Prop :=
  saveErr = none ∨ operation.write cfg = none ∨ operation.Idle cfg

variable (operation : KeyOperation Credit) (cfg : Config Credit) (saveErr : SaveResult)

/-- An operation that does not undo its write returns the error of the save over it. -/
theorem perform_writes (keys : List (ApiKeyEntry Credit))
    (writes : operation.write cfg = some keys) :
    operation.perform cfg saveErr = (saved saveErr, { cfg with apiKeys := keys }) := by
  cases operation with
  | add entry machineId now => exact absurd writes (Option.some_ne_none keys).symm
  | reserve id tokens => exact absurd writes (Option.some_ne_none keys).symm
  | update id patch guard =>
      simp only [KeyOperation.write] at writes
      simp only [KeyOperation.perform, updateApiKey]
      cases found : getApiKeyEntry cfg id with
      | none => simp [found] at writes
      | some entry =>
          simp only [found] at writes ⊢
          cases check : checkUpdate cfg entry patch guard with
          | some err => simp [check] at writes
          | none =>
              rw [check, if_pos rfl, Option.some.injEq] at writes
              rw [← writes]
              rfl
  | delete id guard =>
      simp only [KeyOperation.write] at writes
      simp only [KeyOperation.perform, deleteApiKey]
      cases found : getApiKeyEntry cfg id with
      | none => simp [found] at writes
      | some entry =>
          simp only [found] at writes ⊢
          split_ifs at writes ⊢ with locked
          rw [Option.some.injEq] at writes
          rw [← writes]
  | release id tokens credits =>
      simp only [KeyOperation.write] at writes
      simp only [KeyOperation.perform, releaseApiKeyUsageReservation]
      split_ifs at writes ⊢ with negative
      cases found : getApiKeyEntry cfg id with
      | none => simp [found] at writes
      | some entry =>
          rw [found, Option.map_some, Option.some.injEq] at writes
          rw [← writes]
          rfl
  | finalize id reservedTokens reservedCredits actualTokens actualCredits now =>
      simp only [KeyOperation.write] at writes
      simp only [KeyOperation.perform, finalizeApiKeyUsageReservation]
      split_ifs at writes ⊢ with negative
      cases found : getApiKeyEntry cfg id with
      | none => simp [found] at writes
      | some entry =>
          rw [found, Option.map_some, Option.some.injEq] at writes
          rw [← writes]
          rfl

/-- A write leaves the keys as they are exactly where the key already is what it makes of it. -/
theorem write_same_iff (keys : List (ApiKeyEntry Credit))
    (writes : operation.write cfg = some keys) :
    keys = cfg.apiKeys ↔ operation.Idle cfg := by
  cases operation with
  | add entry machineId now => exact absurd writes (Option.some_ne_none keys).symm
  | reserve id tokens => exact absurd writes (Option.some_ne_none keys).symm
  | update id patch guard =>
      simp only [KeyOperation.write] at writes
      cases found : getApiKeyEntry cfg id with
      | none => simp [found] at writes
      | some entry =>
          simp only [found] at writes
          split_ifs at writes
          rw [Option.some.injEq] at writes
          rw [← writes, Config.change, update_first_same_iff _ _ _ entry found,
            ApiKeyEntry.ext_iff]
          simp [KeyOperation.Idle, found, writeUpdate]
  | delete id guard =>
      simp only [KeyOperation.write] at writes
      cases found : getApiKeyEntry cfg id with
      | none => simp [found] at writes
      | some entry =>
          simp only [found] at writes
          split_ifs at writes
          rw [Option.some.injEq] at writes
          have shorter := List.length_eraseP_add_one (List.mem_of_find?_eq_some found)
            (List.find?_some found)
          rw [← writes]
          refine iff_of_false (fun same => ?_) (fun idle => idle)
          rw [same] at shorter
          exact Nat.succ_ne_self _ shorter
  | release id tokens credits =>
      simp only [KeyOperation.write] at writes
      split_ifs at writes
      cases found : getApiKeyEntry cfg id with
      | none => simp [found] at writes
      | some entry =>
          rw [found, Option.map_some, Option.some.injEq] at writes
          rw [← writes, Config.change, update_first_same_iff _ _ _ entry found,
            ApiKeyEntry.ext_iff]
          simp [KeyOperation.Idle, found, releaseReserved]
  | finalize id reservedTokens reservedCredits actualTokens actualCredits now =>
      simp only [KeyOperation.write] at writes
      split_ifs at writes
      cases found : getApiKeyEntry cfg id with
      | none => simp [found] at writes
      | some entry =>
          rw [found, Option.map_some, Option.some.injEq] at writes
          rw [← writes, Config.change, update_first_same_iff _ _ _ entry found,
            ApiKeyEntry.ext_iff]
          simp [KeyOperation.Idle, finalizeUsage, settleUsage]

/-- The operation gets as far as its save. -/
def KeyOperation.saves : Bool :=
  match (operation.perform cfg (some "")).1 with
  | some (.saveFailed _) => true
  | _ => false

/-- Without such a write the keys stay, or they are saved. -/
theorem perform_spares (writes : operation.write cfg = none) :
    (operation.perform cfg saveErr).2.apiKeys = cfg.apiKeys ∨
      (operation.perform cfg saveErr).1 = none ∧ operation.saves cfg = true := by
  cases operation with
  | add entry machineId now =>
      simp only [KeyOperation.perform, KeyOperation.saves]
      rcases add_outcome cfg entry machineId now with
        ⟨err, refused⟩ | ⟨added, trimmed, some_, apart, fails, succeeds⟩
      · rw [refused saveErr]
        exact .inl rfl
      · cases saveErr with
        | some cause =>
            rw [fails cause]
            exact .inl rfl
        | none =>
            rw [succeeds, fails]
            exact .inr ⟨rfl, rfl⟩
  | reserve id tokens =>
      simp only [KeyOperation.perform, KeyOperation.saves]
      rcases reserve_outcome cfg id tokens saveErr with
        ⟨err, refused⟩ | ⟨entry, nonneg, found, passed, unspent, succeeds, made⟩
      · rw [refused]
        exact .inl rfl
      · rw [made, reserve_saves cfg id tokens saveErr _ _ made]
        exact .inr ⟨rfl, rfl⟩
  | update id patch guard =>
      simp only [KeyOperation.write] at writes
      simp only [KeyOperation.perform, updateApiKey]
      cases found : getApiKeyEntry cfg id with
      | none => exact .inl rfl
      | some entry =>
          simp only [found] at writes ⊢
          cases check : checkUpdate cfg entry patch guard with
          | some err => exact .inl rfl
          | none => simp [check] at writes
  | delete id guard =>
      simp only [KeyOperation.write] at writes
      simp only [KeyOperation.perform, deleteApiKey]
      cases found : getApiKeyEntry cfg id with
      | none => exact .inl rfl
      | some entry =>
          simp only [found] at writes ⊢
          split_ifs at writes ⊢ with locked
          exact .inl rfl
  | release id tokens credits =>
      simp only [KeyOperation.write] at writes
      simp only [KeyOperation.perform, releaseApiKeyUsageReservation]
      split_ifs at writes ⊢ with negative
      · exact .inl rfl
      · rw [Option.map_eq_none_iff.mp writes]
        exact .inl rfl
  | finalize id reservedTokens reservedCredits actualTokens actualCredits now =>
      simp only [KeyOperation.write] at writes
      simp only [KeyOperation.perform, finalizeApiKeyUsageReservation]
      split_ifs at writes ⊢ with negative
      · exact .inl rfl
      · rw [Option.map_eq_none_iff.mp writes]
        exact .inl rfl

/-- An error keeps the keys exactly when the write under it is undone or changes nothing. -/
theorem fails_clean_iff : FailsClean operation cfg saveErr ↔ Recovers operation cfg saveErr := by
  unfold FailsClean Recovers
  cases writes : operation.write cfg with
  | none =>
      have clean : (operation.perform cfg saveErr).1 ≠ none →
          (operation.perform cfg saveErr).2.apiKeys = cfg.apiKeys := by
        intro failed
        rcases perform_spares operation cfg saveErr writes with same | ⟨succeeded, -⟩
        · exact same
        · exact absurd succeeded failed
      exact iff_of_true clean (.inr (.inl rfl))
  | some keys =>
      rw [perform_writes operation cfg saveErr keys writes]
      have same := write_same_iff operation cfg keys writes
      cases saveErr with
      | none => simp [saved]
      | some cause => simpa [saved] using same

end Operations

section Stores

variable {Credit : Type} [CreditAmount Credit]

/-- The keys in memory and in the settings row. -/
structure KeyStore (Credit : Type) where
  memory : Config Credit
  stored : Config Credit

structure KeyCall (Credit : Type) where
  operation : KeyOperation Credit
  saveErr : SaveResult

def KeyStore.call (store : KeyStore Credit) (call : KeyCall Credit) : KeyStore Credit :=
  let result := call.operation.perform store.memory call.saveErr
  { memory := result.2
    stored :=
      if result.1 = none ∧ call.operation.saves store.memory = true then result.2
      else store.stored }

def Agrees (store : KeyStore Credit) : Prop := store.memory.apiKeys = store.stored.apiKeys

theorem write_saves (operation : KeyOperation Credit) (cfg : Config Credit)
    (keys : List (ApiKeyEntry Credit)) (writes : operation.write cfg = some keys) :
    operation.saves cfg = true := by
  unfold KeyOperation.saves
  rw [perform_writes operation cfg (some "") keys writes]
  rfl

/-- A call keeps memory and row together exactly when its write is not left behind. -/
theorem call_agrees_iff (store : KeyStore Credit) (call : KeyCall Credit)
    (agrees : Agrees store) :
    Agrees (store.call call) ↔ Recovers call.operation store.memory call.saveErr := by
  unfold Agrees KeyStore.call Recovers
  simp only
  cases writes : call.operation.write store.memory with
  | none =>
      apply iff_of_true
      · split_ifs with saved_
        · rfl
        · rcases perform_spares call.operation store.memory call.saveErr writes with same | done
          · rw [same]
            exact agrees
          · exact absurd done saved_
      · exact .inr (.inl rfl)
  | some keys =>
      rw [perform_writes call.operation store.memory call.saveErr keys writes,
        write_saves call.operation store.memory keys writes]
      cases call.saveErr with
      | none => simp [saved]
      | some cause =>
          have row : keys = store.stored.apiKeys ↔ keys = store.memory.apiKeys := by
            rw [show store.memory.apiKeys = store.stored.apiKeys from agrees]
          simpa [saved, row] using
            write_same_iff call.operation store.memory keys writes

/-- Failed operations keep the keys, and memory and the stored keys stay together over a run,
exactly where no failed save leaves its write behind. -/
theorem failures_clean_iff :
    (∀ (operation : KeyOperation Credit) (cfg : Config Credit) (saveErr : SaveResult),
      FailsClean operation cfg saveErr ↔ Recovers operation cfg saveErr) ∧
    ∀ (cfg : Config Credit) (calls : List (KeyCall Credit)),
      Always KeyStore.call Agrees ⟨cfg, cfg⟩ calls ↔
        StepsMeet KeyStore.call
          (fun store call => Recovers call.operation store.memory call.saveErr)
          ⟨cfg, cfg⟩ calls :=
  ⟨fails_clean_iff, fun cfg calls =>
    always_iff_steps_meet KeyStore.call _ Agrees Agrees (fun _ agrees => agrees)
      (fun store call agrees recovers => (call_agrees_iff store call agrees).mpr recovers)
      (fun store call agrees after => (call_agrees_iff store call agrees).mp after)
      ⟨cfg, cfg⟩ rfl calls⟩

/-- A key whose deletion cannot be saved is gone from memory. -/
theorem failed_delete_drops :
    ¬FailsClean (.delete (lit "k1") true)
      (⟨false, [⟨lit "k1", [], lit "sk-1", true, 0, 0, 0, (0 : Int), 0, 0, 0⟩]⟩ : Config Int)
      (some "disk full") := by
  intro clean
  exact absurd (clean (by decide)) (by decide)

end Stores

end KiroProxy.ApiKeys
