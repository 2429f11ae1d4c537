import KiroProxy.Config.JsonRecords

/-!
# The rows of the configuration

API keys and accounts as members of a JSON document, by the tags of their structs.
-/

namespace KiroProxy.Configuration

open Accounts (Account)
open ApiKeys (ApiKeyEntry)
open Foundation.Documents
open JsonText (coerceText)

set_option autoImplicit false

section Rows

variable {Credit : Type} [JsonAmount Credit]

inductive ApiKeyField where
  | id | name | key | enabled | createdAt | lastUsedAt | tokenLimit | creditLimit | tokensUsed
  | creditsUsed | requestsCount
  deriving DecidableEq

def ApiKeyField.tag : ApiKeyField → GoString
  | .id => lit "id"
  | .name => lit "name"
  | .key => lit "key"
  | .enabled => lit "enabled"
  | .createdAt => lit "createdAt"
  | .lastUsedAt => lit "lastUsedAt"
  | .tokenLimit => lit "tokenLimit"
  | .creditLimit => lit "creditLimit"
  | .tokensUsed => lit "tokensUsed"
  | .creditsUsed => lit "creditsUsed"
  | .requestsCount => lit "requestsCount"

def apiKeyMember (entry : ApiKeyEntry Credit) : ApiKeyField → Option (JsonDocument Credit)
  | .id => required text entry.id
  | .name => omitting noText text entry.name
  | .key => required text entry.key
  | .enabled => required boolean entry.enabled
  | .createdAt => required whole entry.createdAt
  | .lastUsedAt => omitting noWhole whole entry.lastUsedAt
  | .tokenLimit => omitting noWhole whole entry.tokenLimit
  | .creditLimit => omitting noAmount amount entry.creditLimit
  | .tokensUsed => omitting noWhole whole entry.tokensUsed.toInt
  | .creditsUsed => omitting noAmount amount entry.creditsUsed
  | .requestsCount => omitting noWhole whole entry.requestsCount

/-- A number that does not fit its field makes the document unreadable. -/
def wholeWord (number : Int) : Option Int64 :=
  if (Int64.ofInt number).toInt = number then some (Int64.ofInt number) else none

@[simp] theorem whole_word (word : Int64) : wholeWord word.toInt = some word := by
  simp [wholeWord]

def collectApiKey (member : ApiKeyField → Option (JsonDocument Credit)) :
    Option (ApiKeyEntry Credit) := do
  let id ← readMember text (member .id)
  let name ← readMember text (member .name)
  let key ← readMember text (member .key)
  let enabled ← readMember boolean (member .enabled)
  let createdAt ← readMember whole (member .createdAt)
  let lastUsedAt ← readMember whole (member .lastUsedAt)
  let tokenLimit ← readMember whole (member .tokenLimit)
  let creditLimit ← readMember amount (member .creditLimit)
  let tokensUsed ← (readMember whole (member .tokensUsed)).bind wholeWord
  let creditsUsed ← readMember amount (member .creditsUsed)
  let requestsCount ← readMember whole (member .requestsCount)
  some ⟨id, name, key, enabled, createdAt, lastUsedAt, tokenLimit, creditLimit, tokensUsed,
    creditsUsed, requestsCount⟩

def apiKeyFormat : JsonFormat Credit (ApiKeyEntry Credit) :=
  RecordFormat.format
    { fields :=
        [.id, .name, .key, .enabled, .createdAt, .lastUsedAt, .tokenLimit, .creditLimit, .tokensUsed,
          .creditsUsed, .requestsCount]
      complete := by intro field; cases field <;> decide
      tag := ApiKeyField.tag
      distinct := by decide
      member := apiKeyMember
      collect := collectApiKey }

def apiKeyTexts (entry : ApiKeyEntry Credit) : List GoString :=
  [entry.id, entry.name, entry.key]

def mapApiKeyTexts (f : GoString → GoString) (entry : ApiKeyEntry Credit) : ApiKeyEntry Credit :=
  { entry with
    id := f entry.id
    name := f entry.name
    key := f entry.key }

omit [JsonAmount Credit] in
theorem api_key_texts_iff (f : GoString → GoString) (entry : ApiKeyEntry Credit) :
    mapApiKeyTexts f entry = entry ↔ ∀ text ∈ apiKeyTexts entry, f text = text := by
  cases entry
  simp [mapApiKeyTexts, apiKeyTexts]

theorem api_key_keeps :
    (apiKeyFormat : JsonFormat Credit (ApiKeyEntry Credit)).Keeps (mapApiKeyTexts coerceText) := by
  intro entry
  unfold apiKeyFormat
  rw [record_read_write]
  simp only [collectApiKey, apiKeyMember, read_text, read_whole, read_boolean, read_optional_text,
    read_optional_whole, read_optional_amount, Option.bind_some, whole_word]
  rfl

inductive AccountField where
  | id | email | userId | nickname | accessToken | refreshToken | kiroApiKey | clientID
  | clientSecret | authMethod | provider | region | startUrl | expiresAt | machineId | profileArn
  | profileArnPinned | tokenEndpoint | issuerURL | scopes | proxyURL | weight | overageStatus
  | overageCapability | overageCap | overageRate | currentOverages | overageCheckedAt | enabled
  | silent | silentReason | silentTime | banStatus | banReason | banTime | subscriptionType
  | subscriptionTitle | daysRemaining | usageCurrent | usageLimit | usagePercent | nextResetDate
  | lastRefresh | trialUsageCurrent | trialUsageLimit | trialUsagePercent | trialStatus
  | trialExpiresAt | requestCount | errorCount | lastUsed | totalTokens | totalCredits
  deriving DecidableEq

def AccountField.tag : AccountField → GoString
  | .id => lit "id"
  | .email => lit "email"
  | .userId => lit "userId"
  | .nickname => lit "nickname"
  | .accessToken => lit "accessToken"
  | .refreshToken => lit "refreshToken"
  | .kiroApiKey => lit "kiroApiKey"
  | .clientID => lit "clientId"
  | .clientSecret => lit "clientSecret"
  | .authMethod => lit "authMethod"
  | .provider => lit "provider"
  | .region => lit "region"
  | .startUrl => lit "startUrl"
  | .expiresAt => lit "expiresAt"
  | .machineId => lit "machineId"
  | .profileArn => lit "profileArn"
  | .profileArnPinned => lit "profileArnPinned"
  | .tokenEndpoint => lit "tokenEndpoint"
  | .issuerURL => lit "issuerUrl"
  | .scopes => lit "scopes"
  | .proxyURL => lit "proxyURL"
  | .weight => lit "weight"
  | .overageStatus => lit "overageStatus"
  | .overageCapability => lit "overageCapability"
  | .overageCap => lit "overageCap"
  | .overageRate => lit "overageRate"
  | .currentOverages => lit "currentOverages"
  | .overageCheckedAt => lit "overageCheckedAt"
  | .enabled => lit "enabled"
  | .silent => lit "silent"
  | .silentReason => lit "silentReason"
  | .silentTime => lit "silentTime"
  | .banStatus => lit "banStatus"
  | .banReason => lit "banReason"
  | .banTime => lit "banTime"
  | .subscriptionType => lit "subscriptionType"
  | .subscriptionTitle => lit "subscriptionTitle"
  | .daysRemaining => lit "daysRemaining"
  | .usageCurrent => lit "usageCurrent"
  | .usageLimit => lit "usageLimit"
  | .usagePercent => lit "usagePercent"
  | .nextResetDate => lit "nextResetDate"
  | .lastRefresh => lit "lastRefresh"
  | .trialUsageCurrent => lit "trialUsageCurrent"
  | .trialUsageLimit => lit "trialUsageLimit"
  | .trialUsagePercent => lit "trialUsagePercent"
  | .trialStatus => lit "trialStatus"
  | .trialExpiresAt => lit "trialExpiresAt"
  | .requestCount => lit "requestCount"
  | .errorCount => lit "errorCount"
  | .lastUsed => lit "lastUsed"
  | .totalTokens => lit "totalTokens"
  | .totalCredits => lit "totalCredits"

def accountMember (account : StoredAccount Credit) : AccountField → Option (JsonDocument Credit)
  | .id => required text account.id
  | .email => omitting noText text account.email
  | .userId => omitting noText text account.userId
  | .nickname => omitting noText text account.nickname
  | .accessToken => required text account.accessToken
  | .refreshToken => required text account.refreshToken
  | .kiroApiKey => omitting noText text account.kiroApiKey
  | .clientID => omitting noText text account.clientID
  | .clientSecret => omitting noText text account.clientSecret
  | .authMethod => required text account.authMethod
  | .provider => omitting noText text account.provider
  | .region => required text account.region
  | .startUrl => omitting noText text account.startUrl
  | .expiresAt => omitting noWhole whole account.expiresAt
  | .machineId => omitting noText text account.machineId
  | .profileArn => omitting noText text account.profileArn
  | .profileArnPinned => omitting notSet boolean account.profileArnPinned
  | .tokenEndpoint => omitting noText text account.tokenEndpoint
  | .issuerURL => omitting noText text account.issuerURL
  | .scopes => omitting noText text account.scopes
  | .proxyURL => omitting noText text account.proxyURL
  | .weight => omitting noWhole whole account.weight
  | .overageStatus => omitting noText text account.overageStatus
  | .overageCapability => omitting noText text account.overageCapability
  | .overageCap => omitting noAmount amount account.overageCap
  | .overageRate => omitting noAmount amount account.overageRate
  | .currentOverages => omitting noAmount amount account.currentOverages
  | .overageCheckedAt => omitting noWhole whole account.overageCheckedAt
  | .enabled => required boolean account.enabled
  | .silent => omitting notSet boolean account.silent
  | .silentReason => omitting noText text account.silentReason
  | .silentTime => omitting noWhole whole account.silentTime
  | .banStatus => omitting noText text account.banStatus
  | .banReason => omitting noText text account.banReason
  | .banTime => omitting noWhole whole account.banTime
  | .subscriptionType => omitting noText text account.subscriptionType
  | .subscriptionTitle => omitting noText text account.subscriptionTitle
  | .daysRemaining => omitting noWhole whole account.daysRemaining
  | .usageCurrent => omitting noAmount amount account.usageCurrent
  | .usageLimit => omitting noAmount amount account.usageLimit
  | .usagePercent => omitting noAmount amount account.usagePercent
  | .nextResetDate => omitting noText text account.nextResetDate
  | .lastRefresh => omitting noWhole whole account.lastRefresh
  | .trialUsageCurrent => omitting noAmount amount account.trialUsageCurrent
  | .trialUsageLimit => omitting noAmount amount account.trialUsageLimit
  | .trialUsagePercent => omitting noAmount amount account.trialUsagePercent
  | .trialStatus => omitting noText text account.trialStatus
  | .trialExpiresAt => omitting noWhole whole account.trialExpiresAt
  | .requestCount => omitting noWhole whole account.requestCount
  | .errorCount => omitting noWhole whole account.errorCount
  | .lastUsed => omitting noWhole whole account.lastUsed
  | .totalTokens => omitting noWhole whole account.totalTokens
  | .totalCredits => omitting noAmount amount account.totalCredits

def collectAccount (member : AccountField → Option (JsonDocument Credit)) :
    Option (StoredAccount Credit) := do
  let id ← readMember text (member .id)
  let email ← readMember text (member .email)
  let userId ← readMember text (member .userId)
  let nickname ← readMember text (member .nickname)
  let accessToken ← readMember text (member .accessToken)
  let refreshToken ← readMember text (member .refreshToken)
  let kiroApiKey ← readMember text (member .kiroApiKey)
  let clientID ← readMember text (member .clientID)
  let clientSecret ← readMember text (member .clientSecret)
  let authMethod ← readMember text (member .authMethod)
  let provider ← readMember text (member .provider)
  let region ← readMember text (member .region)
  let startUrl ← readMember text (member .startUrl)
  let expiresAt ← readMember whole (member .expiresAt)
  let machineId ← readMember text (member .machineId)
  let profileArn ← readMember text (member .profileArn)
  let profileArnPinned ← readMember boolean (member .profileArnPinned)
  let tokenEndpoint ← readMember text (member .tokenEndpoint)
  let issuerURL ← readMember text (member .issuerURL)
  let scopes ← readMember text (member .scopes)
  let proxyURL ← readMember text (member .proxyURL)
  let weight ← readMember whole (member .weight)
  let overageStatus ← readMember text (member .overageStatus)
  let overageCapability ← readMember text (member .overageCapability)
  let overageCap ← readMember amount (member .overageCap)
  let overageRate ← readMember amount (member .overageRate)
  let currentOverages ← readMember amount (member .currentOverages)
  let overageCheckedAt ← readMember whole (member .overageCheckedAt)
  let enabled ← readMember boolean (member .enabled)
  let silent ← readMember boolean (member .silent)
  let silentReason ← readMember text (member .silentReason)
  let silentTime ← readMember whole (member .silentTime)
  let banStatus ← readMember text (member .banStatus)
  let banReason ← readMember text (member .banReason)
  let banTime ← readMember whole (member .banTime)
  let subscriptionType ← readMember text (member .subscriptionType)
  let subscriptionTitle ← readMember text (member .subscriptionTitle)
  let daysRemaining ← readMember whole (member .daysRemaining)
  let usageCurrent ← readMember amount (member .usageCurrent)
  let usageLimit ← readMember amount (member .usageLimit)
  let usagePercent ← readMember amount (member .usagePercent)
  let nextResetDate ← readMember text (member .nextResetDate)
  let lastRefresh ← readMember whole (member .lastRefresh)
  let trialUsageCurrent ← readMember amount (member .trialUsageCurrent)
  let trialUsageLimit ← readMember amount (member .trialUsageLimit)
  let trialUsagePercent ← readMember amount (member .trialUsagePercent)
  let trialStatus ← readMember text (member .trialStatus)
  let trialExpiresAt ← readMember whole (member .trialExpiresAt)
  let requestCount ← readMember whole (member .requestCount)
  let errorCount ← readMember whole (member .errorCount)
  let lastUsed ← readMember whole (member .lastUsed)
  let totalTokens ← readMember whole (member .totalTokens)
  let totalCredits ← readMember amount (member .totalCredits)
  some ⟨⟨id, email, userId, nickname, accessToken, refreshToken, kiroApiKey, clientID, clientSecret,
    authMethod, provider, region, startUrl, expiresAt, machineId, profileArn, profileArnPinned,
    tokenEndpoint, issuerURL, scopes, proxyURL, weight, overageStatus, enabled, silent,
    silentReason, silentTime, banStatus, banReason, banTime, usageCurrent, usageLimit,
    nextResetDate, requestCount, errorCount, lastUsed, totalTokens, totalCredits⟩,
    overageCapability, overageCap, overageRate, currentOverages, overageCheckedAt, subscriptionType,
    subscriptionTitle, daysRemaining, usagePercent, lastRefresh, trialUsageCurrent, trialUsageLimit,
    trialUsagePercent, trialStatus, trialExpiresAt⟩

def accountFormat : JsonFormat Credit (StoredAccount Credit) :=
  RecordFormat.format
    { fields :=
        [.id, .email, .userId, .nickname, .accessToken, .refreshToken, .kiroApiKey, .clientID,
          .clientSecret, .authMethod, .provider, .region, .startUrl, .expiresAt, .machineId,
          .profileArn, .profileArnPinned, .tokenEndpoint, .issuerURL, .scopes, .proxyURL, .weight,
          .overageStatus, .overageCapability, .overageCap, .overageRate, .currentOverages,
          .overageCheckedAt, .enabled, .silent, .silentReason, .silentTime, .banStatus, .banReason,
          .banTime, .subscriptionType, .subscriptionTitle, .daysRemaining, .usageCurrent, .usageLimit,
          .usagePercent, .nextResetDate, .lastRefresh, .trialUsageCurrent, .trialUsageLimit,
          .trialUsagePercent, .trialStatus, .trialExpiresAt, .requestCount, .errorCount, .lastUsed,
          .totalTokens, .totalCredits]
      complete := by intro field; cases field <;> decide
      tag := AccountField.tag
      distinct := by decide
      member := accountMember
      collect := collectAccount }

def accountTexts (account : StoredAccount Credit) : List GoString :=
  [account.id, account.email, account.userId, account.nickname, account.accessToken,
    account.refreshToken, account.kiroApiKey, account.clientID, account.clientSecret,
    account.authMethod, account.provider, account.region, account.startUrl, account.machineId,
    account.profileArn, account.tokenEndpoint, account.issuerURL, account.scopes, account.proxyURL,
    account.overageStatus, account.silentReason, account.banStatus, account.banReason,
    account.nextResetDate, account.overageCapability, account.subscriptionType,
    account.subscriptionTitle, account.trialStatus]

def mapAccountTexts (f : GoString → GoString) (account : StoredAccount Credit) : StoredAccount Credit :=
  { account with
    id := f account.id
    email := f account.email
    userId := f account.userId
    nickname := f account.nickname
    accessToken := f account.accessToken
    refreshToken := f account.refreshToken
    kiroApiKey := f account.kiroApiKey
    clientID := f account.clientID
    clientSecret := f account.clientSecret
    authMethod := f account.authMethod
    provider := f account.provider
    region := f account.region
    startUrl := f account.startUrl
    machineId := f account.machineId
    profileArn := f account.profileArn
    tokenEndpoint := f account.tokenEndpoint
    issuerURL := f account.issuerURL
    scopes := f account.scopes
    proxyURL := f account.proxyURL
    overageStatus := f account.overageStatus
    overageCapability := f account.overageCapability
    silentReason := f account.silentReason
    banStatus := f account.banStatus
    banReason := f account.banReason
    subscriptionType := f account.subscriptionType
    subscriptionTitle := f account.subscriptionTitle
    nextResetDate := f account.nextResetDate
    trialStatus := f account.trialStatus }

omit [JsonAmount Credit] in
theorem account_texts_iff (f : GoString → GoString) (account : StoredAccount Credit) :
    mapAccountTexts f account = account ↔ ∀ text ∈ accountTexts account, f text = text := by
  obtain ⟨account, _⟩ := account
  cases account
  simp [mapAccountTexts, accountTexts, and_assoc]

theorem account_keeps :
    (accountFormat : JsonFormat Credit (StoredAccount Credit)).Keeps (mapAccountTexts coerceText) := by
  intro account
  unfold accountFormat
  rw [record_read_write]
  simp only [collectAccount, accountMember, read_text, read_boolean, read_optional_text,
    read_optional_whole, read_optional_boolean, read_optional_amount]
  rfl

def apiKeyAmounts (entry : ApiKeyEntry Credit) : List Credit :=
  [entry.creditLimit, entry.creditsUsed]

def accountAmounts (account : StoredAccount Credit) : List Credit :=
  [account.overageCap, account.overageRate, account.currentOverages, account.usageCurrent,
    account.usageLimit, account.usagePercent, account.trialUsageCurrent, account.trialUsageLimit,
    account.trialUsagePercent, account.totalCredits]

end Rows

end KiroProxy.Configuration
