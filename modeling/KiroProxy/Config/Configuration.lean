import KiroProxy.Config.Accounts
import KiroProxy.Config.ModelMappings

/-!
# The configuration

The `Config` of `config/config.go` with its getters and setters. A nil list reads
as an empty one everywhere but in `ModelMappings`, so that is the one list that
may be missing here. Setters change the memory whether or not the save at their
end goes through.
-/

namespace KiroProxy.Configuration

open Accounts (Account)
open ApiKeys (ApiKeyEntry)
open GoStrings ModelMappings

set_option autoImplicit false

/-- An account with the fields that only its row and the admin page hold. -/
structure StoredAccount (Credit : Type) extends Account Credit where
  overageCapability : GoString
  overageCap : Credit
  overageRate : Credit
  currentOverages : Credit
  overageCheckedAt : Int
  subscriptionType : GoString
  subscriptionTitle : GoString
  daysRemaining : Int
  usagePercent : Credit
  lastRefresh : Int
  trialUsageCurrent : Credit
  trialUsageLimit : Credit
  trialUsagePercent : Credit
  trialStatus : GoString
  trialExpiresAt : Int

structure PromptFilterRule where
  id : GoString
  name : GoString
  type : GoString
  match_ : GoString
  replace : GoString
  enabled : Bool
  deriving DecidableEq

structure BackupSchedule where
  enabled : Bool
  cadence : GoString
  keep : Int
  lastRun : Int
  deriving DecidableEq

structure BackupConfig where
  autoEnabled : Bool
  autoKeep : Int
  schedule : BackupSchedule
  deriving DecidableEq

structure Config (Credit : Type) where
  password : GoString
  port : Int
  host : GoString
  requireApiKey : Bool
  apiKeys : List (ApiKeyEntry Credit)
  kiroVersion : GoString
  systemVersion : GoString
  nodeVersion : GoString
  accounts : List (StoredAccount Credit)
  thinkingSuffix : GoString
  openAIThinkingFormat : GoString
  claudeThinkingFormat : GoString
  preferredEndpoint : GoString
  endpointFallback : Option Bool
  allowOverUsage : Bool
  lenientStreamIntegrity : Bool
  sessionAffinity : Option Bool
  structuredToolHistory : Option Bool
  firstRunPasswordPending : Bool
  proxyURL : GoString
  autoContinue : Bool
  autoContinueMax : Int
  filterClaudeCode : Bool
  filterEnvNoise : Bool
  filterStripBoundaries : Bool
  promptFilterRules : List PromptFilterRule
  modelMappings : Option (List ModelMappingRule)
  logLevel : GoString
  maxRetriesPerAccount : Int
  maxRetriesPerRequest : Int
  retryBaseDelayMs : Int
  retryMaxDelayMs : Int
  totalRequests : Int
  successRequests : Int
  failedRequests : Int
  totalTokens : Int
  totalCredits : Credit
  backup : BackupConfig

/-- `cfg` with `credLoaded` and `credentials`. -/
structure Memory (Credit : Type) where
  config : Config Credit
  credentialsLoaded : Bool
  credentials : List (StoredAccount Credit)

section Getters

variable {Credit : Type}

/-- `append([]ModelMappingRule(nil), mappings...)`, which is nil when there are none. -/
def appendToNil (mappings : Option (List ModelMappingRule)) : Option (List ModelMappingRule) :=
  mappings.filter fun rules => rules != []

def get (config : Config Credit) : Config Credit :=
  { config with modelMappings := appendToNil config.modelMappings }

def getPort (config : Config Credit) : Int := if config.port = 0 then 8080 else config.port

def defaultHost : GoString := lit "127.0.0.1"

def legacyDefaultHost : GoString := lit "0.0.0.0"

/-- `GetHost` with `LISTEN_HOST`. -/
def getHost (listenHost : GoString) (config : Config Credit) : GoString :=
  if trimSpace listenHost ≠ [] then trimSpace listenHost
  else if config.host = [] ∨ config.host = legacyDefaultHost then defaultHost
  else config.host

def getAccounts (memory : Memory Credit) : List (StoredAccount Credit) :=
  if memory.credentialsLoaded then memory.credentials else memory.config.accounts

def getEnabledAccounts (memory : Memory Credit) : List (StoredAccount Credit) :=
  (getAccounts memory).filter fun account => Accounts.isServing account.toAccount

def getStats (config : Config Credit) : Int × Int × Int × Int × Credit :=
  (config.totalRequests, config.successRequests, config.failedRequests, config.totalTokens,
    config.totalCredits)

structure PromptFilterConfig where
  filterClaudeCode : Bool
  filterEnvNoise : Bool
  filterStripBoundaries : Bool
  rules : List PromptFilterRule

def getPromptFilterConfig (config : Config Credit) : PromptFilterConfig :=
  ⟨config.filterClaudeCode, config.filterEnvNoise, config.filterStripBoundaries,
    config.promptFilterRules⟩

/-- The value, or the default where the field is empty. -/
def textOr (default_ text : GoString) : GoString := if text = [] then default_ else text

structure ThinkingConfig where
  suffix : GoString
  openAIFormat : GoString
  claudeFormat : GoString

def getThinkingConfig (config : Config Credit) : ThinkingConfig :=
  ⟨textOr (lit "-thinking") config.thinkingSuffix,
    textOr (lit "reasoning_content") config.openAIThinkingFormat,
    textOr (lit "thinking") config.claudeThinkingFormat⟩

def getPreferredEndpoint (config : Config Credit) : GoString :=
  textOr (lit "auto") config.preferredEndpoint

def getEndpointFallback (config : Config Credit) : Bool := config.endpointFallback.getD true

def getSessionAffinity (config : Config Credit) : Bool := config.sessionAffinity.getD true

def getStructuredToolHistory (config : Config Credit) : Bool :=
  config.structuredToolHistory.getD true

def getLogLevel (config : Config Credit) : GoString := textOr (lit "info") config.logLevel

def positiveOr (default_ number : Int) : Int := if 0 < number then number else default_

def getRetryConfig (config : Config Credit) : Int × Int × Int × Int :=
  (positiveOr 3 config.maxRetriesPerAccount, positiveOr 9 config.maxRetriesPerRequest,
    positiveOr 100 config.retryBaseDelayMs, positiveOr 5000 config.retryMaxDelayMs)

structure KiroClientConfig where
  kiroVersion : GoString
  systemVersion : GoString
  nodeVersion : GoString

/-- `defaultSystemVersion` is that of the operating system. -/
def getKiroClientConfig (defaultSystemVersion : GoString) (config : Config Credit) :
    KiroClientConfig :=
  ⟨textOr (lit "0.11.107") config.kiroVersion, textOr defaultSystemVersion config.systemVersion,
    textOr (lit "22.22.0") config.nodeVersion⟩

def defaultAutoContinueMax : Int := 3

def maxAutoContinueMax : Int := 10

def getAutoContinueMax (config : Config Credit) : Int :=
  if config.autoContinueMax ≤ 0 then defaultAutoContinueMax
  else min config.autoContinueMax maxAutoContinueMax

def firstRunPassword (config : Config Credit) : GoString :=
  if config.firstRunPasswordPending then config.password else []

def getApiKeyEntry (config : Config Credit) (id : GoString) : Option (ApiKeyEntry Credit) :=
  config.apiKeys.find? fun entry => entry.id == id

def findApiKeyByValue (config : Config Credit) (key : GoString) :
    Option (ApiKeyEntry Credit) :=
  if key = [] then none else config.apiKeys.find? fun entry => entry.key == key

/-- What the process is started with: `LISTEN_HOST`, `ADMIN_PASSWORD` and the operating
system's version. -/
structure Environment where
  listenHost : GoString
  adminPassword : GoString
  systemVersion : GoString

/-- The answers of all getters. -/
structure Answers (Credit : Type) where
  get : Config Credit
  password : GoString
  port : Int
  host : GoString
  accounts : List (StoredAccount Credit)
  enabledAccounts : List (StoredAccount Credit)
  apiKeyRequired : Bool
  stats : Int × Int × Int × Int × Credit
  filterClaudeCode : Bool
  filterEnvNoise : Bool
  filterStripBoundaries : Bool
  promptFilterConfig : PromptFilterConfig
  promptFilterRules : List PromptFilterRule
  modelMappings : List ModelMappingRule
  thinkingConfig : ThinkingConfig
  preferredEndpoint : GoString
  endpointFallback : Bool
  proxyURL : GoString
  allowOverUsage : Bool
  lenientStreamIntegrity : Bool
  sessionAffinity : Bool
  structuredToolHistory : Bool
  logLevel : GoString
  retryConfig : Int × Int × Int × Int
  kiroClientConfig : KiroClientConfig
  autoContinue : Bool
  autoContinueMax : Int
  firstRunPassword : GoString
  apiKeys : List (ApiKeyEntry Credit)
  apiKeyEntry : GoString → Option (ApiKeyEntry Credit)
  apiKeyByValue : GoString → Option (ApiKeyEntry Credit)
  hasApiKeys : Bool
  enabledApiKeys : Nat
  backupConfig : BackupConfig
  backupSchedule : BackupSchedule

def answers (environment : Environment) (memory : Memory Credit) : Answers Credit :=
  let config := memory.config
  { get := get config
    password := config.password
    port := getPort config
    host := getHost environment.listenHost config
    accounts := getAccounts memory
    enabledAccounts := getEnabledAccounts memory
    apiKeyRequired := config.requireApiKey
    stats := getStats config
    filterClaudeCode := config.filterClaudeCode
    filterEnvNoise := config.filterEnvNoise
    filterStripBoundaries := config.filterStripBoundaries
    promptFilterConfig := getPromptFilterConfig config
    promptFilterRules := config.promptFilterRules
    modelMappings := getModelMappings config.modelMappings
    thinkingConfig := getThinkingConfig config
    preferredEndpoint := getPreferredEndpoint config
    endpointFallback := getEndpointFallback config
    proxyURL := config.proxyURL
    allowOverUsage := config.allowOverUsage
    lenientStreamIntegrity := config.lenientStreamIntegrity
    sessionAffinity := getSessionAffinity config
    structuredToolHistory := getStructuredToolHistory config
    logLevel := getLogLevel config
    retryConfig := getRetryConfig config
    kiroClientConfig := getKiroClientConfig environment.systemVersion config
    autoContinue := config.autoContinue
    autoContinueMax := getAutoContinueMax config
    firstRunPassword := firstRunPassword config
    apiKeys := config.apiKeys
    apiKeyEntry := getApiKeyEntry config
    apiKeyByValue := findApiKeyByValue config
    hasApiKeys := !config.apiKeys.isEmpty
    enabledApiKeys := config.apiKeys.countP fun entry => entry.enabled
    backupConfig := config.backup
    backupSchedule := config.backup.schedule }

end Getters

section Setters

variable {Credit : Type}

/-- The zero-padded decimal of `generateAdminPassword`, from its random number. -/
def generateAdminPassword (secret : Nat) : GoString :=
  (List.range 8).reverse.map fun place => 0x30 + UInt8.ofNat (secret / 10 ^ place % 10)

/-- The configuration of a first run. -/
def firstRun [Zero Credit] (environment : Environment) (secret : Nat) : Config Credit where
  password :=
    if environment.adminPassword = [] then generateAdminPassword secret
    else environment.adminPassword
  port := 8080
  host := defaultHost
  requireApiKey := false
  apiKeys := []
  kiroVersion := []
  systemVersion := []
  nodeVersion := []
  accounts := []
  thinkingSuffix := []
  openAIThinkingFormat := []
  claudeThinkingFormat := []
  preferredEndpoint := []
  endpointFallback := none
  allowOverUsage := false
  lenientStreamIntegrity := false
  sessionAffinity := none
  structuredToolHistory := none
  firstRunPasswordPending := environment.adminPassword == []
  proxyURL := []
  autoContinue := false
  autoContinueMax := 0
  filterClaudeCode := false
  filterEnvNoise := false
  filterStripBoundaries := false
  promptFilterRules := []
  modelMappings := none
  logLevel := []
  maxRetriesPerAccount := 0
  maxRetriesPerRequest := 0
  retryBaseDelayMs := 0
  retryMaxDelayMs := 0
  totalRequests := 0
  successRequests := 0
  failedRequests := 0
  totalTokens := 0
  totalCredits := 0
  backup := ⟨false, 0, ⟨false, [], 0, 0⟩⟩

/-- The setters. Those of the keys and the accounts are whatever they leave of the keys and
of the accounts. The one caller of `SetPassword` has a password. -/
inductive Setter (Credit : Type) where
  | setPassword (password : GoString) (named : password ≠ [])
  | updateSettingsPatch (requireApiKey : Option Bool) (password : GoString) (guard : Bool)
  | clearFirstRunPassword
  | apiKeys (operation : List (ApiKeyEntry Credit) → List (ApiKeyEntry Credit))
  | accounts (operation : List (StoredAccount Credit) → List (StoredAccount Credit))
  | credentials (operation : List (StoredAccount Credit) → List (StoredAccount Credit))
      (loaded : Bool)
  | updateStats (totalReq successReq failedReq totalTokens : Int) (totalCredits : Credit)
  | updatePromptFilterConfig (filterClaudeCode filterEnvNoise filterStripBoundaries : Bool)
      (rules : Option (List PromptFilterRule))
  | updateModelMappings (mappings : List ModelMappingRule)
  | updateThinkingConfig (suffix openAIFormat claudeFormat : GoString)
  | updatePreferredEndpoint (endpoint : GoString)
  | updateEndpointFallback (enabled : Bool)
  | updateProxySettings (proxyURL : GoString)
  | updateAllowOverUsage (allow : Bool)
  | updateLenientStreamIntegrity (lenient : Bool)
  | updateSessionAffinity (enabled : Bool)
  | updateStructuredToolHistory (enabled : Bool)
  | updateLogLevel (level : GoString)
  | updateAutoContinue (enabled : Bool)
  | updateAutoContinueMax (n : Int)
  | updateBackupConfig (backup : BackupConfig)
  | updateBackupSchedule (schedule : BackupSchedule)
  | markScheduleRan (now : Int)

def setPassword (config : Config Credit) (password : GoString) : Config Credit :=
  { config with password := password, firstRunPasswordPending := false }

def updateSettingsPatch (config : Config Credit) (requireApiKey : Option Bool)
    (password : GoString) (guard : Bool) : Config Credit :=
  if guard && requireApiKey == some true && !config.requireApiKey &&
      config.apiKeys.countP (fun entry => entry.enabled) == 0 then config
  else
    let required := { config with
      requireApiKey := requireApiKey.getD config.requireApiKey }
    if password = [] then required else setPassword required password

def updateModelMappings (letters : Letters) (quote : GoString → GoString)
    (config : Config Credit) (mappings : List ModelMappingRule) : Config Credit :=
  match normalizeModelMappings letters quote mappings with
  | .error _ => config
  | .ok cleaned => { config with modelMappings := some cleaned }

def updateAutoContinueMax (config : Config Credit) (n : Int) : Config Credit :=
  if n < 1 ∨ maxAutoContinueMax < n then config else { config with autoContinueMax := n }

/-- The configuration after a setter. -/
def Setter.change (letters : Letters) (quote : GoString → GoString) (config : Config Credit) :
    Setter Credit → Config Credit
  | .setPassword password _ => Configuration.setPassword config password
  | .updateSettingsPatch requireApiKey password guard =>
      Configuration.updateSettingsPatch config requireApiKey password guard
  | .clearFirstRunPassword => { config with firstRunPasswordPending := false }
  | .apiKeys operation => { config with apiKeys := operation config.apiKeys }
  | .accounts operation => { config with accounts := operation config.accounts }
  | .credentials _ _ => config
  | .updateStats totalReq successReq failedReq totalTokens totalCredits =>
      { config with
        totalRequests := totalReq
        successRequests := successReq
        failedRequests := failedReq
        totalTokens := totalTokens
        totalCredits := totalCredits }
  | .updatePromptFilterConfig filterClaudeCode filterEnvNoise filterStripBoundaries rules =>
      { config with
        filterClaudeCode := filterClaudeCode
        filterEnvNoise := filterEnvNoise
        filterStripBoundaries := filterStripBoundaries
        promptFilterRules := rules.getD config.promptFilterRules }
  | .updateModelMappings mappings =>
      Configuration.updateModelMappings letters quote config mappings
  | .updateThinkingConfig suffix openAIFormat claudeFormat =>
      { config with
        thinkingSuffix := suffix
        openAIThinkingFormat := openAIFormat
        claudeThinkingFormat := claudeFormat }
  | .updatePreferredEndpoint endpoint => { config with preferredEndpoint := endpoint }
  | .updateEndpointFallback enabled => { config with endpointFallback := some enabled }
  | .updateProxySettings proxyURL => { config with proxyURL := proxyURL }
  | .updateAllowOverUsage allow => { config with allowOverUsage := allow }
  | .updateLenientStreamIntegrity lenient => { config with lenientStreamIntegrity := lenient }
  | .updateSessionAffinity enabled => { config with sessionAffinity := some enabled }
  | .updateStructuredToolHistory enabled =>
      { config with structuredToolHistory := some enabled }
  | .updateLogLevel level => { config with logLevel := level }
  | .updateAutoContinue enabled => { config with autoContinue := enabled }
  | .updateAutoContinueMax n => Configuration.updateAutoContinueMax config n
  | .updateBackupConfig backup => { config with backup := backup }
  | .updateBackupSchedule schedule =>
      { config with
        backup := { config.backup with
          schedule := { schedule with lastRun := config.backup.schedule.lastRun } } }
  | .markScheduleRan now =>
      { config with
        backup := { config.backup with
          schedule := { config.backup.schedule with lastRun := now } } }

def Memory.apply (letters : Letters) (quote : GoString → GoString) (memory : Memory Credit)
    (setter : Setter Credit) : Memory Credit :=
  match setter with
  | .credentials operation loaded =>
      { memory with credentialsLoaded := loaded, credentials := operation memory.credentials }
  | setter => { memory with config := setter.change letters quote memory.config }

/-- A configuration that can be restored, and that `Load` leaves the password of. -/
structure Kept (config : Config Credit) : Prop where
  password : config.password ≠ []
  port : 0 < config.port ∧ config.port ≤ 65535
  host : config.host ≠ []
  pending : config.firstRunPasswordPending = true →
    ∃ secret, config.password = generateAdminPassword secret

theorem generated_length (secret : Nat) : (generateAdminPassword secret).length = 8 := by
  simp [generateAdminPassword]

theorem first_run_kept [Zero Credit] (environment : Environment) (secret : Nat) :
    Kept (firstRun environment secret : Config Credit) := by
  have port : (0 : Int) < 8080 ∧ (8080 : Int) ≤ 65535 := by decide
  have host : defaultHost ≠ [] := by decide
  refine ⟨?_, port, host, ?_⟩
  · change (if environment.adminPassword = [] then _ else _) ≠ []
    split_ifs with unset
    · exact List.ne_nil_of_length_pos (by rw [generated_length]; decide)
    · exact unset
  · intro pending
    have unset : environment.adminPassword = [] := by simpa [firstRun] using pending
    exact ⟨secret, if_pos unset⟩

theorem set_password_kept (config : Config Credit) (password : GoString)
    (named : password ≠ []) (kept : Kept config) : Kept (setPassword config password) :=
  ⟨named, kept.port, kept.host, fun pending => absurd pending Bool.false_ne_true⟩

theorem change_kept (letters : Letters) (quote : GoString → GoString) (config : Config Credit)
    (setter : Setter Credit) (kept : Kept config) :
    Kept (setter.change letters quote config) := by
  cases setter with
  | setPassword password named => exact set_password_kept config password named kept
  | updateSettingsPatch requireApiKey password guard =>
      simp only [Setter.change, updateSettingsPatch]
      split_ifs with locked unnamed
      · exact kept
      · exact ⟨kept.password, kept.port, kept.host, kept.pending⟩
      · exact set_password_kept _ password unnamed
          ⟨kept.password, kept.port, kept.host, kept.pending⟩
  | clearFirstRunPassword =>
      exact ⟨kept.password, kept.port, kept.host, fun pending =>
        absurd pending Bool.false_ne_true⟩
  | updateModelMappings mappings =>
      simp only [Setter.change, updateModelMappings]
      cases normalizeModelMappings letters quote mappings with
      | error fault => exact kept
      | ok cleaned => exact ⟨kept.password, kept.port, kept.host, kept.pending⟩
  | updateAutoContinueMax n =>
      simp only [Setter.change, updateAutoContinueMax]
      split_ifs
      · exact kept
      · exact ⟨kept.password, kept.port, kept.host, kept.pending⟩
  | _ => exact ⟨kept.password, kept.port, kept.host, kept.pending⟩

theorem apply_kept (letters : Letters) (quote : GoString → GoString) (memory : Memory Credit)
    (setter : Setter Credit) (kept : Kept memory.config) :
    Kept (memory.apply letters quote setter).config := by
  have changed := change_kept letters quote memory.config setter kept
  cases setter with
  | credentials operation loaded => exact kept
  | _ => exact changed

end Setters

end KiroProxy.Configuration
