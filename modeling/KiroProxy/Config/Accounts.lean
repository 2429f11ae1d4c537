import KiroProxy.Config.ApiKeys

/-!
# The account store

The accounts of `config/config.go` and `config/credentials.go`. Both stores
keep a list and look an account up by the first row with its ID; the writes
below run under the lock of the store in use. A row's `float64` amounts are
credit amounts, as in the API-key store.
-/

namespace KiroProxy.Accounts

open ApiKeys (CreditAmount)
open Foundation.KeyedList GoStrings

set_option autoImplicit false

structure Account (Credit : Type) where
  id : GoString
  email : GoString
  userId : GoString
  nickname : GoString
  accessToken : GoString
  refreshToken : GoString
  kiroApiKey : GoString
  clientID : GoString
  clientSecret : GoString
  authMethod : GoString
  provider : GoString
  region : GoString
  startUrl : GoString
  expiresAt : Int
  machineId : GoString
  profileArn : GoString
  profileArnPinned : Bool
  tokenEndpoint : GoString
  issuerURL : GoString
  scopes : GoString
  proxyURL : GoString
  weight : Int
  overageStatus : GoString
  enabled : Bool
  silent : Bool
  silentReason : GoString
  silentTime : Int
  banStatus : GoString
  banReason : GoString
  banTime : Int
  usageCurrent : Credit
  usageLimit : Credit
  nextResetDate : GoString
  requestCount : Int
  errorCount : Int
  lastUsed : Int
  totalTokens : Int
  totalCredits : Credit

section Store

variable {Credit : Type}

/-- The row a Go composite literal gives: every field but the ID is zero. -/
def newAccount [Zero Credit] (id : GoString) : Account Credit where
  id := id
  email := []
  userId := []
  nickname := []
  accessToken := []
  refreshToken := []
  kiroApiKey := []
  clientID := []
  clientSecret := []
  authMethod := []
  provider := []
  region := []
  startUrl := []
  expiresAt := 0
  machineId := []
  profileArn := []
  profileArnPinned := false
  tokenEndpoint := []
  issuerURL := []
  scopes := []
  proxyURL := []
  weight := 0
  overageStatus := []
  enabled := false
  silent := false
  silentReason := []
  silentTime := 0
  banStatus := []
  banReason := []
  banTime := 0
  usageCurrent := 0
  usageLimit := 0
  nextResetDate := []
  requestCount := 0
  errorCount := 0
  lastUsed := 0
  totalTokens := 0
  totalCredits := 0

def hasId (id : GoString) (account : Account Credit) : Bool := account.id == id

def active : GoString := lit "ACTIVE"

def banned : GoString := lit "BANNED"

def disabled : GoString := lit "DISABLED"

def isServing (account : Account Credit) : Bool :=
  account.enabled && !account.silent &&
    (account.banStatus == [] || account.banStatus == active)

def getEnabledAccounts (accounts : List (Account Credit)) : List (Account Credit) :=
  accounts.filter isServing

/-- `strings.EqualFold` against an ASCII text none of whose letters another rune
folds to. -/
def equalFoldASCII (text ascii : GoString) : Bool :=
  text.map lowerByte == ascii.map lowerByte

def isUpstreamOverageEnabled (account : Account Credit) : Bool :=
  equalFoldASCII account.overageStatus (lit "ENABLED")

def isOverUsageLimit [CreditAmount Credit] (account : Account Credit) : Bool :=
  decide (0 < account.usageLimit) && decide (account.usageLimit ≤ account.usageCurrent)

def isAPIKeyAccount (letters : Letters) (account : Account Credit) : Bool :=
  let method := letters.toLower (trimSpace account.authMethod)
  trimSpace account.kiroApiKey != [] || method == lit "api_key" || method == lit "apikey"

def effectiveWeight (weight : Int) : Nat :=
  if weight < 1 then 1 else weight.toNat

theorem effective_weight_pos (weight : Int) : 0 < effectiveWeight weight := by
  unfold effectiveWeight
  split <;> omega

end Store

end KiroProxy.Accounts
