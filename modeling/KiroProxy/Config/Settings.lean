import KiroProxy.Config.ApiKeys
import KiroProxy.Foundation.Runs

/-!
# Requiring API keys

`updateSettingsPatch` of `config/config.go` beside the guarded operations of the
API-key store. Two switches decide whether a client can still authenticate: the
one that requires keys, and the one of each key. Every operation checks and
writes under `cfgLock`, so an interleaving of them is a list of operations.
-/

namespace KiroProxy.AdminSettings

open ApiKeys Foundation.KeyedList Foundation.Runs GoStrings

set_option autoImplicit false

structure Settings (Credit : Type) extends Config Credit where
  password : GoString
  firstRunPasswordPending : Bool

section Operations

variable {Credit : Type}

def updateSettingsPatch (settings : Settings Credit) (requireApiKey : Option Bool)
    (password : GoString) (guard : Bool) (saveErr : SaveResult) :
    Option ApiKeyError × Settings Credit :=
  if guard && requireApiKey == some true && !settings.requireApiKey &&
      countEnabledApiKeysLocked settings.toConfig == 0 then
    (some .lockout, settings)
  else
    let required := { settings with
      requireApiKey := requireApiKey.getD settings.requireApiKey }
    let changed :=
      if password = [] then required
      else { required with password := password, firstRunPasswordPending := false }
    (saved saveErr, changed)

def updateSettingsPatchGuarded (settings : Settings Credit) (requireApiKey : Option Bool)
    (password : GoString) (saveErr : SaveResult) : Option ApiKeyError × Settings Credit :=
  updateSettingsPatch settings requireApiKey password true saveErr

variable [CreditAmount Credit]

def deleteApiKeyGuarded (cfg : Config Credit) (id : GoString) (saveErr : SaveResult) :
    Option ApiKeyError × Config Credit :=
  deleteApiKey cfg id true saveErr

/-- An operation of an administrator, with how its save goes. -/
inductive AdminOperation (Credit : Type) where
  | addApiKey (entry : ApiKeyEntry Credit) (machineId : GoString) (now : Int)
      (saveErr : SaveResult)
  | updateApiKeyGuarded (id : GoString) (patch : ApiKeyEntry Credit) (saveErr : SaveResult)
  | deleteApiKeyGuarded (id : GoString) (saveErr : SaveResult)
  | updateSettingsPatchGuarded (requireApiKey : Option Bool) (password : GoString)
      (saveErr : SaveResult)

def Settings.withConfig (settings : Settings Credit) (cfg : Config Credit) : Settings Credit :=
  { settings with toConfig := cfg }

def Settings.apply (settings : Settings Credit) : AdminOperation Credit → Settings Credit
  | .addApiKey entry machineId now saveErr =>
      settings.withConfig (addApiKey settings.toConfig entry machineId now saveErr).2
  | .updateApiKeyGuarded id patch saveErr =>
      settings.withConfig (updateApiKeyGuarded settings.toConfig id patch saveErr).2
  | .deleteApiKeyGuarded id saveErr =>
      settings.withConfig (deleteApiKeyGuarded settings.toConfig id saveErr).2
  | .updateSettingsPatchGuarded requireApiKey password saveErr =>
      (updateSettingsPatchGuarded settings requireApiKey password saveErr).2

/-- Some client can authenticate. -/
def Admits (cfg : Config Credit) : Prop :=
  cfg.requireApiKey = true → ∃ entry ∈ cfg.apiKeys, entry.enabled = true

/-- Key values are trimmed, not empty, and each is the value of one key. -/
structure ProperKeys (cfg : Config Credit) : Prop where
  trimmed : ∀ entry ∈ cfg.apiKeys, trimSpace entry.key = entry.key
  nonempty : ∀ entry ∈ cfg.apiKeys, entry.key ≠ []
  distinct : (cfg.apiKeys.map ApiKeyEntry.key).Nodup

end Operations

section Admission

variable {Credit : Type}

theorem admits_iff (cfg : Config Credit) :
    Admits cfg ↔ (cfg.requireApiKey = true → 0 < countEnabledApiKeysLocked cfg) := by
  unfold Admits countEnabledApiKeysLocked
  rw [List.countP_pos_iff]

/-- An entry that may be switched off leaves another one on. -/
theorem switched_off (cfg : Config Credit) (entry : ApiKeyEntry Credit)
    (rest : List (ApiKeyEntry Credit)) (perm : cfg.apiKeys.Perm (entry :: rest))
    (admits : Admits cfg)
    (safe : removingKeyLocksOutLocked cfg entry = false) (required : cfg.requireApiKey = true) :
    0 < rest.countP fun entry => entry.enabled := by
  have counted := perm.countP_eq (fun entry => entry.enabled)
  have some_ := (admits_iff cfg).mp admits required
  unfold removingKeyLocksOutLocked at safe
  unfold countEnabledApiKeysLocked at safe some_
  rw [counted] at safe some_
  rw [List.countP_cons] at safe some_
  cases enabled : entry.enabled with
  | false =>
      simp only [enabled, Bool.false_eq_true, if_false] at some_
      exact some_
  | true =>
      simp only [enabled, required, Bool.true_and, if_true, decide_eq_false_iff_not] at safe
      omega

theorem delete_admits (cfg : Config Credit) (id : GoString) (saveErr : SaveResult)
    (admits : Admits cfg) : Admits (deleteApiKeyGuarded cfg id saveErr).2 := by
  unfold deleteApiKeyGuarded deleteApiKey
  cases found : getApiKeyEntry cfg id with
  | none => exact admits
  | some entry =>
      simp only [Bool.true_and]
      split_ifs with locked
      · exact admits
      · rw [admits_iff]
        exact switched_off cfg entry _ (perm_erase_first (hasId id) cfg.apiKeys entry found)
          admits (Bool.eq_false_iff.mpr locked)

theorem patch_admits (settings : Settings Credit) (requireApiKey : Option Bool)
    (password : GoString) (saveErr : SaveResult) (admits : Admits settings.toConfig) :
    Admits (updateSettingsPatchGuarded settings requireApiKey password saveErr).2.toConfig := by
  have changed : Admits ({ settings.toConfig with
      requireApiKey := requireApiKey.getD settings.requireApiKey } : Config Credit) ∨
      (requireApiKey == some true && !settings.requireApiKey &&
        countEnabledApiKeysLocked settings.toConfig == 0) = true := by
    match requireApiKey with
    | none => exact .inl admits
    | some false => exact .inl fun required => absurd required Bool.false_ne_true
    | some true =>
        cases already : settings.requireApiKey with
        | true =>
            refine .inl fun _ => admits already
        | false =>
            cases none_ : countEnabledApiKeysLocked settings.toConfig with
            | zero => exact .inr rfl
            | succ count =>
                refine .inl ((admits_iff _).mpr fun _ => ?_)
                change 0 < countEnabledApiKeysLocked settings.toConfig
                omega
  unfold updateSettingsPatchGuarded updateSettingsPatch
  simp only [Bool.true_and]
  split_ifs with locked empty
  · exact admits
  · exact changed.resolve_right locked
  · exact changed.resolve_right locked

variable [CreditAmount Credit]

theorem add_admits (cfg : Config Credit) (entry : ApiKeyEntry Credit) (machineId : GoString)
    (now : Int) (saveErr : SaveResult) (admits : Admits cfg) :
    Admits (addApiKey cfg entry machineId now saveErr).2 := by
  rcases add_outcome cfg entry machineId now with
    ⟨err, refused⟩ | ⟨added, trimmed, some_, apart, fails, succeeds⟩
  · rw [refused]
    exact admits
  · cases saveErr with
    | some cause =>
        rw [fails]
        exact admits
    | none =>
        rw [succeeds]
        intro required
        obtain ⟨stored, member, enabled⟩ := admits required
        exact ⟨stored, List.mem_append_left _ member, enabled⟩

/-- What a guarded update leaves: the store as it is, or the entry changed and its guard passed. -/
theorem update_outcome (cfg : Config Credit) (id : GoString) (patch : ApiKeyEntry Credit)
    (saveErr : SaveResult) :
    (updateApiKeyGuarded cfg id patch saveErr).2 = cfg ∨
      ∃ entry, getApiKeyEntry cfg id = some entry ∧ checkUpdate cfg entry patch true = none ∧
        (updateApiKeyGuarded cfg id patch saveErr).2 = cfg.change id (writeUpdate patch) := by
  unfold updateApiKeyGuarded updateApiKey
  cases found : getApiKeyEntry cfg id with
  | none => exact .inl rfl
  | some entry =>
      simp only
      cases check : checkUpdate cfg entry patch true with
      | some err => exact .inl rfl
      | none => exact .inr ⟨entry, rfl, check, rfl⟩

theorem update_admits (cfg : Config Credit) (id : GoString) (patch : ApiKeyEntry Credit)
    (saveErr : SaveResult) (admits : Admits cfg) :
    Admits (updateApiKeyGuarded cfg id patch saveErr).2 := by
  rcases update_outcome cfg id patch saveErr with same | ⟨entry, found, passed, changed⟩
  · rw [same]
    exact admits
  · rw [changed, admits_iff]
    intro required
    have perm := perm_update_first (hasId id) (writeUpdate patch) cfg.apiKeys entry found
    unfold countEnabledApiKeysLocked Config.change
    simp only
    rw [perm.countP_eq, List.countP_cons]
    cases enabled : patch.enabled with
    | true => simp [writeUpdate, enabled]
    | false =>
        have safe : removingKeyLocksOutLocked cfg entry = false := by
          have unlocked :
              ¬(true && !patch.enabled && removingKeyLocksOutLocked cfg entry) = true := by
            intro locked
            unfold checkUpdate at passed
            rw [if_pos locked] at passed
            exact Option.some_ne_none _ passed
          rw [enabled] at unlocked
          simpa using unlocked
        have rest := switched_off cfg entry _
          (perm_erase_first (hasId id) cfg.apiKeys entry found) admits safe required
        omega

end Admission

section KeyValues

variable {Credit : Type}

theorem proper_of_perm (cfg : Config Credit) (required : Bool)
    (keys : List (ApiKeyEntry Credit)) (perm : cfg.apiKeys.Perm keys) :
    ProperKeys cfg ↔ ProperKeys ⟨required, keys⟩ := by
  constructor
  · intro proper
    exact ⟨fun entry member => proper.trimmed entry (perm.mem_iff.mpr member),
      fun entry member => proper.nonempty entry (perm.mem_iff.mpr member),
      (perm.map ApiKeyEntry.key).nodup_iff.mp proper.distinct⟩
  · intro proper
    exact ⟨fun entry member => proper.trimmed entry (perm.mem_iff.mp member),
      fun entry member => proper.nonempty entry (perm.mem_iff.mp member),
      (perm.map ApiKeyEntry.key).nodup_iff.mpr proper.distinct⟩

theorem proper_cons (required : Bool) (entry : ApiKeyEntry Credit)
    (keys : List (ApiKeyEntry Credit)) :
    ProperKeys ⟨required, entry :: keys⟩ ↔
      (trimSpace entry.key = entry.key ∧ entry.key ≠ [] ∧
        ∀ other ∈ keys, other.key ≠ entry.key) ∧ ProperKeys ⟨required, keys⟩ := by
  constructor
  · intro proper
    have distinct := List.nodup_cons.mp proper.distinct
    refine ⟨⟨proper.trimmed entry List.mem_cons_self, proper.nonempty entry List.mem_cons_self,
      fun other member same => distinct.1 (same ▸ List.mem_map_of_mem member)⟩, ?_⟩
    exact ⟨fun other member => proper.trimmed other (List.mem_cons_of_mem _ member),
      fun other member => proper.nonempty other (List.mem_cons_of_mem _ member), distinct.2⟩
  · rintro ⟨⟨trimmed, nonempty, apart⟩, proper⟩
    refine ⟨?_, ?_, List.nodup_cons.mpr ⟨?_, proper.distinct⟩⟩
    · intro other member
      rcases List.mem_cons.mp member with same | later
      · rw [same]
        exact trimmed
      · exact proper.trimmed other later
    · intro other member
      rcases List.mem_cons.mp member with same | later
      · rw [same]
        exact nonempty
      · exact proper.nonempty other later
    · intro member
      obtain ⟨other, later, same⟩ := List.mem_map.mp member
      exact apart other later same

theorem delete_proper (cfg : Config Credit) (id : GoString) (saveErr : SaveResult)
    (proper : ProperKeys cfg) : ProperKeys (deleteApiKeyGuarded cfg id saveErr).2 := by
  unfold deleteApiKeyGuarded deleteApiKey
  cases found : getApiKeyEntry cfg id with
  | none => exact proper
  | some entry =>
      simp only [Bool.true_and]
      split_ifs with locked
      · exact proper
      · exact ((proper_cons _ _ _).mp ((proper_of_perm cfg cfg.requireApiKey _
          (perm_erase_first (hasId id) cfg.apiKeys entry found)).mp proper)).2

variable [CreditAmount Credit]

theorem add_proper (cfg : Config Credit) (entry : ApiKeyEntry Credit) (machineId : GoString)
    (now : Int) (saveErr : SaveResult) (proper : ProperKeys cfg) :
    ProperKeys (addApiKey cfg entry machineId now saveErr).2 := by
  rcases add_outcome cfg entry machineId now with
    ⟨err, refused⟩ | ⟨added, trimmed, some_, apart, fails, succeeds⟩
  · rw [refused]
    exact proper
  · cases saveErr with
    | some cause =>
        rw [fails]
        exact proper
    | none =>
        rw [succeeds]
        have still : trimSpace added.key = added.key := by
          rw [trimmed, trim_space_twice]
        exact (proper_of_perm _ cfg.requireApiKey _ (List.perm_append_singleton _ _)).mpr
          ((proper_cons _ _ _).mpr ⟨⟨still, some_, apart⟩, proper⟩)

/-- A new key value that passes the check is not empty and nobody else's. -/
theorem check_update_key (cfg : Config Credit) (entry patch : ApiKeyEntry Credit)
    (passed : checkUpdate cfg entry patch true = none) (named : patch.key ≠ []) :
    trimSpace patch.key ≠ [] ∧
      ∀ other ∈ cfg.apiKeys.eraseP (hasId entry.id), other.key ≠ trimSpace patch.key := by
  unfold checkUpdate at passed
  cases limits : validateApiKeyLimits patch.tokenLimit patch.creditLimit with
  | some err =>
      rw [limits] at passed
      split_ifs at passed
  | none =>
      rw [limits] at passed
      simp only [if_neg named] at passed
      split_ifs at passed with locked empty collides
      refine ⟨empty, ?_⟩
      intro other member same
      exact collides (List.any_eq_true.mpr ⟨other, member, beq_iff_eq.mpr same⟩)

theorem update_proper (cfg : Config Credit) (id : GoString) (patch : ApiKeyEntry Credit)
    (saveErr : SaveResult) (proper : ProperKeys cfg) :
    ProperKeys (updateApiKeyGuarded cfg id patch saveErr).2 := by
  rcases update_outcome cfg id patch saveErr with same | ⟨entry, found, passed, changed⟩
  · rw [same]
    exact proper
  · rw [changed]
    have before := (proper_cons _ _ _).mp ((proper_of_perm cfg cfg.requireApiKey _
      (perm_erase_first (hasId id) cfg.apiKeys entry found)).mp proper)
    refine (proper_of_perm (cfg.change id (writeUpdate patch)) cfg.requireApiKey _
      (perm_update_first (hasId id) (writeUpdate patch) cfg.apiKeys entry found)).mpr
      ((proper_cons _ _ _).mpr ⟨?_, before.2⟩)
    change trimSpace (updatedKey entry.key patch.key) = updatedKey entry.key patch.key ∧
      updatedKey entry.key patch.key ≠ [] ∧
      ∀ other ∈ cfg.apiKeys.eraseP (hasId id), other.key ≠ updatedKey entry.key patch.key
    unfold updatedKey
    split_ifs with same
    · exact before.1
    · have fresh := check_update_key cfg entry patch passed same
      rw [get_entry_id cfg id entry found] at fresh
      exact ⟨trim_space_twice patch.key, fresh.1, fresh.2⟩

end KeyValues

section Runs

variable {Credit : Type} [CreditAmount Credit] (settings : Settings Credit)

theorem apply_admits (operation : AdminOperation Credit) (admits : Admits settings.toConfig) :
    Admits (settings.apply operation).toConfig := by
  cases operation with
  | addApiKey entry machineId now saveErr =>
      exact add_admits settings.toConfig entry machineId now saveErr admits
  | updateApiKeyGuarded id patch saveErr =>
      exact update_admits settings.toConfig id patch saveErr admits
  | deleteApiKeyGuarded id saveErr => exact delete_admits settings.toConfig id saveErr admits
  | updateSettingsPatchGuarded requireApiKey password saveErr =>
      exact patch_admits settings requireApiKey password saveErr admits

theorem apply_proper (operation : AdminOperation Credit)
    (proper : ProperKeys settings.toConfig) :
    ProperKeys (settings.apply operation).toConfig := by
  cases operation with
  | addApiKey entry machineId now saveErr =>
      exact add_proper settings.toConfig entry machineId now saveErr proper
  | updateApiKeyGuarded id patch saveErr =>
      exact update_proper settings.toConfig id patch saveErr proper
  | deleteApiKeyGuarded id saveErr => exact delete_proper settings.toConfig id saveErr proper
  | updateSettingsPatchGuarded requireApiKey password saveErr =>
      change ProperKeys (updateSettingsPatchGuarded settings requireApiKey password
        saveErr).2.toConfig
      unfold updateSettingsPatchGuarded updateSettingsPatch
      simp only
      split_ifs
      · exact proper
      · exact ⟨proper.trimmed, proper.nonempty, proper.distinct⟩
      · exact ⟨proper.trimmed, proper.nonempty, proper.distinct⟩

/-- From a state that admits a client on, every state does, and proper keys stay proper. -/
theorem never_locked_out (earlier later : List (AdminOperation Credit)) :
    (Admits (run Settings.apply settings earlier).toConfig →
      Admits (run Settings.apply settings (earlier ++ later)).toConfig) ∧
    (ProperKeys (run Settings.apply settings earlier).toConfig →
      ProperKeys (run Settings.apply settings (earlier ++ later)).toConfig) := by
  rw [run_append]
  exact ⟨fun admits => invariant_of_steps Settings.apply (fun settings => Admits settings.toConfig)
      apply_admits _ admits later,
    fun proper => invariant_of_steps Settings.apply (fun settings => ProperKeys settings.toConfig)
      apply_proper _ proper later⟩

/-- A first run, in which keys are required before one is added and again after it. -/
def firstRun : Settings Int := ⟨⟨false, []⟩, lit "12345678", true⟩

def firstKey : AdminOperation Int :=
  .addApiKey ⟨[], lit "cli", lit " sk-1 ", true, 0, 0, 0, (0 : Int), 0, 0, 0⟩ (lit "id-1") 1 none

def firstOperations : List (AdminOperation Int) :=
  [.updateSettingsPatchGuarded (some true) [] none, firstKey,
    .updateSettingsPatchGuarded (some true) [] none, .deleteApiKeyGuarded (lit "id-1") none]

theorem first_run_admits :
    Admits (run Settings.apply firstRun ([] ++ firstOperations)).toConfig ∧
      ProperKeys (run Settings.apply firstRun ([] ++ firstOperations)).toConfig :=
  ⟨(never_locked_out firstRun [] _).1 fun required => absurd required Bool.false_ne_true,
    (never_locked_out firstRun [] _).2 ⟨fun _ member => absurd member List.not_mem_nil,
      fun _ member => absurd member List.not_mem_nil, List.nodup_nil⟩⟩

end Runs

end KiroProxy.AdminSettings
