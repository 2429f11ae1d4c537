import KiroProxy.Config.RowDocuments

/-!
# The configuration as a JSON document

The document that `saveLocked` writes and `Load` reads: the configuration comes back
with its texts as they are written, and without an empty list of mappings.
-/

namespace KiroProxy.Configuration

open Accounts (Account)
open ApiKeys (ApiKeyEntry)
open Foundation.Documents
open JsonText (coerceText)
open ModelMappings

set_option autoImplicit false

section Configs

variable {Credit : Type} [JsonAmount Credit]

inductive ConfigField where
  | password | port | host | requireApiKey | apiKeys | kiroVersion | systemVersion | nodeVersion
  | accounts | thinkingSuffix | openAIThinkingFormat | claudeThinkingFormat | preferredEndpoint
  | endpointFallback | allowOverUsage | lenientStreamIntegrity | sessionAffinity
  | structuredToolHistory | firstRunPasswordPending | proxyURL | autoContinue | autoContinueMax
  | filterClaudeCode | filterEnvNoise | filterStripBoundaries | promptFilterRules | modelMappings
  | logLevel | maxRetriesPerAccount | maxRetriesPerRequest | retryBaseDelayMs | retryMaxDelayMs
  | totalRequests | successRequests | failedRequests | totalTokens | totalCredits | backup
  deriving DecidableEq

def ConfigField.tag : ConfigField → GoString
  | .password => lit "password"
  | .port => lit "port"
  | .host => lit "host"
  | .requireApiKey => lit "requireApiKey"
  | .apiKeys => lit "apiKeys"
  | .kiroVersion => lit "kiroVersion"
  | .systemVersion => lit "systemVersion"
  | .nodeVersion => lit "nodeVersion"
  | .accounts => lit "accounts"
  | .thinkingSuffix => lit "thinkingSuffix"
  | .openAIThinkingFormat => lit "openaiThinkingFormat"
  | .claudeThinkingFormat => lit "claudeThinkingFormat"
  | .preferredEndpoint => lit "preferredEndpoint"
  | .endpointFallback => lit "endpointFallback"
  | .allowOverUsage => lit "allowOverUsage"
  | .lenientStreamIntegrity => lit "lenientStreamIntegrity"
  | .sessionAffinity => lit "sessionAffinity"
  | .structuredToolHistory => lit "structuredToolHistory"
  | .firstRunPasswordPending => lit "firstRunPasswordPending"
  | .proxyURL => lit "proxyURL"
  | .autoContinue => lit "autoContinue"
  | .autoContinueMax => lit "autoContinueMax"
  | .filterClaudeCode => lit "filterClaudeCode"
  | .filterEnvNoise => lit "filterEnvNoise"
  | .filterStripBoundaries => lit "filterStripBoundaries"
  | .promptFilterRules => lit "promptFilterRules"
  | .modelMappings => lit "modelMappings"
  | .logLevel => lit "logLevel"
  | .maxRetriesPerAccount => lit "maxRetriesPerAccount"
  | .maxRetriesPerRequest => lit "maxRetriesPerRequest"
  | .retryBaseDelayMs => lit "retryBaseDelayMs"
  | .retryMaxDelayMs => lit "retryMaxDelayMs"
  | .totalRequests => lit "totalRequests"
  | .successRequests => lit "successRequests"
  | .failedRequests => lit "failedRequests"
  | .totalTokens => lit "totalTokens"
  | .totalCredits => lit "totalCredits"
  | .backup => lit "backup"

def configMember (config : Config Credit) : ConfigField → Option (JsonDocument Credit)
  | .password => required text config.password
  | .port => required whole config.port
  | .host => required text config.host
  | .requireApiKey => required boolean config.requireApiKey
  | .apiKeys => omitting List.isEmpty (listOf apiKeyFormat) config.apiKeys
  | .kiroVersion => omitting noText text config.kiroVersion
  | .systemVersion => omitting noText text config.systemVersion
  | .nodeVersion => omitting noText text config.nodeVersion
  | .accounts => required (listOf accountFormat) config.accounts
  | .thinkingSuffix => omitting noText text config.thinkingSuffix
  | .openAIThinkingFormat => omitting noText text config.openAIThinkingFormat
  | .claudeThinkingFormat => omitting noText text config.claudeThinkingFormat
  | .preferredEndpoint => omitting noText text config.preferredEndpoint
  | .endpointFallback => omitting Option.isNone (nullable boolean) config.endpointFallback
  | .allowOverUsage => omitting notSet boolean config.allowOverUsage
  | .lenientStreamIntegrity => omitting notSet boolean config.lenientStreamIntegrity
  | .sessionAffinity => omitting Option.isNone (nullable boolean) config.sessionAffinity
  | .structuredToolHistory => omitting Option.isNone (nullable boolean) config.structuredToolHistory
  | .firstRunPasswordPending => omitting notSet boolean config.firstRunPasswordPending
  | .proxyURL => omitting noText text config.proxyURL
  | .autoContinue => omitting notSet boolean config.autoContinue
  | .autoContinueMax => omitting noWhole whole config.autoContinueMax
  | .filterClaudeCode => omitting notSet boolean config.filterClaudeCode
  | .filterEnvNoise => omitting notSet boolean config.filterEnvNoise
  | .filterStripBoundaries => omitting notSet boolean config.filterStripBoundaries
  | .promptFilterRules => omitting List.isEmpty (listOf ruleFormat) config.promptFilterRules
  | .modelMappings => omitting noMappings (nullable (listOf mappingFormat)) config.modelMappings
  | .logLevel => omitting noText text config.logLevel
  | .maxRetriesPerAccount => omitting noWhole whole config.maxRetriesPerAccount
  | .maxRetriesPerRequest => omitting noWhole whole config.maxRetriesPerRequest
  | .retryBaseDelayMs => omitting noWhole whole config.retryBaseDelayMs
  | .retryMaxDelayMs => omitting noWhole whole config.retryMaxDelayMs
  | .totalRequests => omitting noWhole whole config.totalRequests
  | .successRequests => omitting noWhole whole config.successRequests
  | .failedRequests => omitting noWhole whole config.failedRequests
  | .totalTokens => omitting noWhole whole config.totalTokens
  | .totalCredits => omitting noAmount amount config.totalCredits
  | .backup => required backupFormat config.backup

def collectConfig (member : ConfigField → Option (JsonDocument Credit)) :
    Option (Config Credit) := do
  let password ← readMember text (member .password)
  let port ← readMember whole (member .port)
  let host ← readMember text (member .host)
  let requireApiKey ← readMember boolean (member .requireApiKey)
  let apiKeys ← readMember (listOf apiKeyFormat) (member .apiKeys)
  let kiroVersion ← readMember text (member .kiroVersion)
  let systemVersion ← readMember text (member .systemVersion)
  let nodeVersion ← readMember text (member .nodeVersion)
  let accounts ← readMember (listOf accountFormat) (member .accounts)
  let thinkingSuffix ← readMember text (member .thinkingSuffix)
  let openAIThinkingFormat ← readMember text (member .openAIThinkingFormat)
  let claudeThinkingFormat ← readMember text (member .claudeThinkingFormat)
  let preferredEndpoint ← readMember text (member .preferredEndpoint)
  let endpointFallback ← readMember (nullable boolean) (member .endpointFallback)
  let allowOverUsage ← readMember boolean (member .allowOverUsage)
  let lenientStreamIntegrity ← readMember boolean (member .lenientStreamIntegrity)
  let sessionAffinity ← readMember (nullable boolean) (member .sessionAffinity)
  let structuredToolHistory ← readMember (nullable boolean) (member .structuredToolHistory)
  let firstRunPasswordPending ← readMember boolean (member .firstRunPasswordPending)
  let proxyURL ← readMember text (member .proxyURL)
  let autoContinue ← readMember boolean (member .autoContinue)
  let autoContinueMax ← readMember whole (member .autoContinueMax)
  let filterClaudeCode ← readMember boolean (member .filterClaudeCode)
  let filterEnvNoise ← readMember boolean (member .filterEnvNoise)
  let filterStripBoundaries ← readMember boolean (member .filterStripBoundaries)
  let promptFilterRules ← readMember (listOf ruleFormat) (member .promptFilterRules)
  let modelMappings ← readMember (nullable (listOf mappingFormat)) (member .modelMappings)
  let logLevel ← readMember text (member .logLevel)
  let maxRetriesPerAccount ← readMember whole (member .maxRetriesPerAccount)
  let maxRetriesPerRequest ← readMember whole (member .maxRetriesPerRequest)
  let retryBaseDelayMs ← readMember whole (member .retryBaseDelayMs)
  let retryMaxDelayMs ← readMember whole (member .retryMaxDelayMs)
  let totalRequests ← readMember whole (member .totalRequests)
  let successRequests ← readMember whole (member .successRequests)
  let failedRequests ← readMember whole (member .failedRequests)
  let totalTokens ← readMember whole (member .totalTokens)
  let totalCredits ← readMember amount (member .totalCredits)
  let backup ← readMember backupFormat (member .backup)
  some ⟨password, port, host, requireApiKey, apiKeys, kiroVersion, systemVersion, nodeVersion,
    accounts, thinkingSuffix, openAIThinkingFormat, claudeThinkingFormat, preferredEndpoint,
    endpointFallback, allowOverUsage, lenientStreamIntegrity, sessionAffinity,
    structuredToolHistory, firstRunPasswordPending, proxyURL, autoContinue, autoContinueMax,
    filterClaudeCode, filterEnvNoise, filterStripBoundaries, promptFilterRules, modelMappings,
    logLevel, maxRetriesPerAccount, maxRetriesPerRequest, retryBaseDelayMs, retryMaxDelayMs,
    totalRequests, successRequests, failedRequests, totalTokens, totalCredits, backup⟩

def configFormat : JsonFormat Credit (Config Credit) :=
  RecordFormat.format
    { fields :=
        [.password, .port, .host, .requireApiKey, .apiKeys, .kiroVersion, .systemVersion,
          .nodeVersion, .accounts, .thinkingSuffix, .openAIThinkingFormat, .claudeThinkingFormat,
          .preferredEndpoint, .endpointFallback, .allowOverUsage, .lenientStreamIntegrity,
          .sessionAffinity, .structuredToolHistory, .firstRunPasswordPending, .proxyURL,
          .autoContinue, .autoContinueMax, .filterClaudeCode, .filterEnvNoise, .filterStripBoundaries,
          .promptFilterRules, .modelMappings, .logLevel, .maxRetriesPerAccount, .maxRetriesPerRequest,
          .retryBaseDelayMs, .retryMaxDelayMs, .totalRequests, .successRequests, .failedRequests,
          .totalTokens, .totalCredits, .backup]
      complete := by intro field; cases field <;> decide
      tag := ConfigField.tag
      distinct := by decide
      member := configMember
      collect := collectConfig }

/-- The configuration with its texts changed, those of its rows included. -/
def mapConfigTexts (f : GoString → GoString) (config : Config Credit) : Config Credit :=
  { config with
    password := f config.password
    host := f config.host
    kiroVersion := f config.kiroVersion
    systemVersion := f config.systemVersion
    nodeVersion := f config.nodeVersion
    thinkingSuffix := f config.thinkingSuffix
    openAIThinkingFormat := f config.openAIThinkingFormat
    claudeThinkingFormat := f config.claudeThinkingFormat
    preferredEndpoint := f config.preferredEndpoint
    proxyURL := f config.proxyURL
    logLevel := f config.logLevel
    apiKeys := config.apiKeys.map (mapApiKeyTexts f)
    accounts := config.accounts.map (mapAccountTexts f)
    promptFilterRules := config.promptFilterRules.map (mapRuleTexts f)
    modelMappings := config.modelMappings.map (List.map (mapMappingTexts f))
    backup := mapBackupTexts f config.backup }

omit [JsonAmount Credit] in
theorem read_optional_mappings (mappings : Option (List ModelMappingRule)) :
    readMember (nullable (listOf (mappingFormat : JsonFormat Credit ModelMappingRule)))
      (omitting noMappings (nullable (listOf mappingFormat)) mappings) =
        some ((appendToNil mappings).map (List.map (mapMappingTexts coerceText))) := by
  have keeps := nullable_keeps (listOf (mappingFormat : JsonFormat Credit ModelMappingRule)) _
    (list_keeps _ _ mapping_keeps) (fun _ written => by cases written)
  apply read_omitting
  · intro empty
    cases mappings with
    | none => rfl
    | some rules =>
        have none_ : rules = [] := by simpa [noMappings] using empty
        rw [none_]
        rfl
  · intro stays
    rw [keeps mappings]
    cases mappings with
    | none => rfl
    | some rules =>
        have some_ : rules ≠ [] := by simpa [noMappings] using stays
        simp [appendToNil, some_]

/-- A configuration is read back with its texts as they are written, and without the
mappings it has none of. -/
theorem config_keeps :
    (configFormat : JsonFormat Credit (Config Credit)).Keeps fun config =>
      mapConfigTexts coerceText (get config) := by
  intro config
  unfold configFormat
  rw [record_read_write]
  have accounts := read_required (listOf accountFormat) _
    (list_keeps _ _ (@account_keeps Credit _))
  simp only [collectConfig, configMember, read_text, read_whole, read_boolean, read_optional_text,
    read_optional_whole, read_optional_boolean, read_optional_amount, read_optional_pointer,
    read_optional_mappings, read_omitting_list _ _ api_key_keeps,
    read_omitting_list _ _ rule_keeps, accounts,
    read_required backupFormat _ backup_keeps]
  rfl

def configTexts (config : Config Credit) : List GoString :=
  [config.password, config.host, config.kiroVersion, config.systemVersion, config.nodeVersion,
    config.thinkingSuffix, config.openAIThinkingFormat, config.claudeThinkingFormat,
    config.preferredEndpoint, config.proxyURL, config.logLevel, config.backup.schedule.cadence] ++
    config.apiKeys.flatMap apiKeyTexts ++ config.accounts.flatMap accountTexts ++
    config.promptFilterRules.flatMap ruleTexts ++
    (config.modelMappings.getD []).flatMap mappingTexts

def configAmounts (config : Config Credit) : List Credit :=
  config.totalCredits :: config.apiKeys.flatMap apiKeyAmounts ++
    config.accounts.flatMap accountAmounts

theorem map_rows_iff {Row : Type} (change : Row → Row) (f : GoString → GoString)
    (texts : Row → List GoString)
    (same : ∀ row, change row = row ↔ ∀ text ∈ texts row, f text = text) (rows : List Row) :
    rows.map change = rows ↔ ∀ text ∈ rows.flatMap texts, f text = text := by
  induction rows with
  | nil => simp
  | cons row rows ih =>
      simp only [List.map_cons, List.cons.injEq, List.flatMap_cons, List.forall_mem_append,
        same row, ih]

theorem map_mappings_iff (f : GoString → GoString) (mappings : Option (List ModelMappingRule)) :
    mappings.map (List.map (mapMappingTexts f)) = mappings ↔
      ∀ text ∈ (mappings.getD []).flatMap mappingTexts, f text = text := by
  have rows := map_rows_iff (mapMappingTexts f) f mappingTexts (mapping_texts_iff f)
  cases mappings with
  | none => simp
  | some rules => simpa using rows rules

theorem map_backup_iff (f : GoString → GoString) (backup : BackupConfig) :
    mapBackupTexts f backup = backup ↔ f backup.schedule.cadence = backup.schedule.cadence := by
  obtain ⟨autoEnabled, autoKeep, schedule⟩ := backup
  cases schedule
  simp [mapBackupTexts, mapScheduleTexts]

omit [JsonAmount Credit] in
theorem config_texts_iff (f : GoString → GoString) (config : Config Credit) :
    mapConfigTexts f config = config ↔ ∀ text ∈ configTexts config, f text = text := by
  have keys := map_rows_iff (mapApiKeyTexts f) f apiKeyTexts (api_key_texts_iff f) config.apiKeys
  have accounts := map_rows_iff (mapAccountTexts f) f accountTexts (account_texts_iff f)
    config.accounts
  have rules := map_rows_iff (mapRuleTexts f) f ruleTexts (rule_texts_iff f)
    config.promptFilterRules
  have mappings := map_mappings_iff f config.modelMappings
  have backup := map_backup_iff f config.backup
  unfold configTexts
  simp only [List.forall_mem_append, ← keys, ← accounts, ← rules, ← mappings, List.forall_mem_cons,
    List.not_mem_nil, false_imp_iff, implies_true, and_true, ← backup]
  cases config
  simp only [mapConfigTexts, Config.mk.injEq, true_and]
  constructor
  · rintro ⟨password, host, keys, kiro, system, node, accounts, suffix, openAI, claude, endpoint,
      proxy, rules, mappings, log, backup⟩
    exact ⟨⟨⟨⟨⟨password, host, kiro, system, node, suffix, openAI, claude, endpoint, proxy, log,
      backup⟩, keys⟩, accounts⟩, rules⟩, mappings⟩
  · rintro ⟨⟨⟨⟨⟨password, host, kiro, system, node, suffix, openAI, claude, endpoint, proxy, log,
      backup⟩, keys⟩, accounts⟩, rules⟩, mappings⟩
    exact ⟨password, host, keys, kiro, system, node, accounts, suffix, openAI, claude, endpoint,
      proxy, rules, mappings, log, backup⟩

end Configs

end KiroProxy.Configuration
