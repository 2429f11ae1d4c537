import KiroProxy.Config.Accounts

/-!
# Account updates

The writes of `config/config.go` and `config/credentials.go` to a row of the account store.
`UpdateAccount` writes back a whole copy; the copies below are what the callers make of
the row they read.
-/

namespace KiroProxy.Accounts

open Foundation.KeyedList GoStrings

set_option autoImplicit false

/-- The counters of an account that are sums over its requests. -/
structure Counters where
  requestCount : Int
  errorCount : Int
  totalTokens : Int
  deriving DecidableEq

def Counters.add (left right : Counters) : Counters where
  requestCount := left.requestCount + right.requestCount
  errorCount := left.errorCount + right.errorCount
  totalTokens := left.totalTokens + right.totalTokens

section Updates

variable {Credit : Type}

def counters (account : Account Credit) : Counters where
  requestCount := account.requestCount
  errorCount := account.errorCount
  totalTokens := account.totalTokens

def storedRow (accounts : List (Account Credit)) (id : GoString) : Option (Account Credit) :=
  accounts.find? (hasId id)

/-- The row written for a copy: the credentials are those of the current row. -/
def preserveAccountCredentials (account current : Account Credit) : Account Credit :=
  { account with
    accessToken := current.accessToken
    refreshToken := current.refreshToken
    kiroApiKey := current.kiroApiKey
    clientID := current.clientID
    clientSecret := current.clientSecret
    authMethod := current.authMethod
    provider := current.provider
    region := current.region
    startUrl := current.startUrl
    expiresAt := current.expiresAt
    profileArn := current.profileArn
    profileArnPinned := current.profileArnPinned
    tokenEndpoint := current.tokenEndpoint
    issuerURL := current.issuerURL
    scopes := current.scopes }

def updateAccount (accounts : List (Account Credit)) (id : GoString) (account : Account Credit) :
    List (Account Credit) :=
  updateFirst (hasId id) (preserveAccountCredentials account) accounts

def withAccountEnabled (account : Account Credit) (enabled : Bool) (now : Int) :
    Account Credit :=
  if enabled then { account with enabled := enabled }
  else { account with enabled := enabled, banStatus := disabled, banTime := now }

def withAccountBanStatus (account : Account Credit) (status reason : GoString) (now : Int) :
    Account Credit :=
  let marked := { account with banStatus := status, banReason := reason, banTime := now }
  if status = banned ∨ status = disabled then { marked with enabled := false } else marked

structure AccountInfo (Credit : Type) where
  email : GoString
  userId : GoString
  usageCurrent : Credit
  usageLimit : Credit
  nextResetDate : GoString

def withIdentity (account : Account Credit) (info : AccountInfo Credit) : Account Credit :=
  { account with
    email := if info.email ≠ [] then info.email else account.email
    userId := if info.userId ≠ [] then info.userId else account.userId }

def withUsage (account : Account Credit) (info : AccountInfo Credit) : Account Credit :=
  { account with
    usageCurrent := info.usageCurrent
    usageLimit := info.usageLimit
    nextResetDate := info.nextResetDate }

/-- `UpdateCredentialInfo`. -/
def updateCredentialInfo (accounts : List (Account Credit)) (id : GoString)
    (info : AccountInfo Credit) : List (Account Credit) :=
  updateFirst (hasId id) (fun account => withUsage account info) accounts

/-- The numbers a finished request changes. -/
structure AccountStats (Credit : Type) where
  counters : Counters
  totalCredits : Credit
  lastUsed : Int

def statsOf (account : Account Credit) : AccountStats Credit :=
  ⟨counters account, account.totalCredits, account.lastUsed⟩

def withStats (account : Account Credit) (stats : AccountStats Credit) : Account Credit :=
  { account with
    requestCount := stats.counters.requestCount
    errorCount := stats.counters.errorCount
    totalTokens := stats.counters.totalTokens
    totalCredits := stats.totalCredits
    lastUsed := stats.lastUsed }

def updateAccountStats (accounts : List (Account Credit)) (id : GoString)
    (stats : AccountStats Credit) : List (Account Credit) :=
  updateFirst (hasId id) (fun account => withStats account stats) accounts

def withToken (account : Account Credit) (accessToken refreshToken : GoString)
    (expiresAt : Int) : Account Credit :=
  { account with
    accessToken := accessToken
    refreshToken := if refreshToken ≠ [] then refreshToken else account.refreshToken
    expiresAt := expiresAt }

def notFound (credentialsLoaded : Bool) (id : GoString) : GoString :=
  if credentialsLoaded then lit "credential not found: " ++ id
  else lit "account not found: " ++ id

/-- The store after `UpdateAccountToken`, and its error. A row whose save fails is changed. -/
def updateAccountToken (credentialsLoaded : Bool) (accounts : List (Account Credit))
    (id accessToken refreshToken : GoString) (expiresAt : Int) (unsaved : Option GoString) :
    List (Account Credit) × Option GoString :=
  match storedRow accounts id with
  | none => (accounts, some (notFound credentialsLoaded id))
  | some _ =>
      (updateFirst (hasId id)
        (fun account => withToken account accessToken refreshToken expiresAt) accounts, unsaved)

/-- A pinned profile is left as it is. -/
def updateAccountProfileArn (credentialsLoaded : Bool) (accounts : List (Account Credit))
    (id profileArn : GoString) (unsaved : Option GoString) :
    List (Account Credit) × Option GoString :=
  match storedRow accounts id with
  | none => (accounts, some (notFound credentialsLoaded id))
  | some row =>
      if row.profileArnPinned then (accounts, none)
      else (updateFirst (hasId id) (fun account => { account with profileArn := profileArn })
        accounts, unsaved)

def pinAccountProfileArn (accounts : List (Account Credit)) (id profileArn : GoString) :
    List (Account Credit) :=
  let profileArn := trimSpace profileArn
  updateFirst (hasId id) (fun account =>
    { account with profileArn := profileArn, profileArnPinned := profileArn != [] }) accounts

def servingStatus (status : GoString) : Bool := status = [] || status = active

/-- A change to one row of the store, under the store's lock. -/
theorem stored_after_update (accounts : List (Account Credit)) (id : GoString)
    (change : Account Credit → Account Credit)
    (same : ∀ account : Account Credit, account.id = id → (change account).id = id) :
    storedRow (updateFirst (hasId id) change accounts) id = (storedRow accounts id).map change := by
  apply find_update_first
  intro account key
  exact beq_iff_eq.mpr (same account (beq_iff_eq.mp key))

theorem stored_after_other (accounts : List (Account Credit)) (id other : GoString)
    (change : Account Credit → Account Credit)
    (same : ∀ account : Account Credit, account.id = id → (change account).id = id)
    (apart : other ≠ id) :
    storedRow (updateFirst (hasId id) change accounts) other = storedRow accounts other := by
  have differs : ∀ account : Account Credit, account.id = id → hasId other account = false := by
    intro account key
    rw [hasId, key]
    exact beq_eq_false_iff_ne.mpr (Ne.symm apart)
  apply find_update_first_other
  · intro account key
    exact differs account (beq_iff_eq.mp key)
  · intro account key
    exact differs (change account) (same account (beq_iff_eq.mp key))

/-- The row of an ID after a change to the row of another or of the same. -/
theorem stored_update (accounts : List (Account Credit)) (id other : GoString)
    (change : Account Credit → Account Credit)
    (same : ∀ account : Account Credit, account.id = id → (change account).id = id) :
    storedRow (updateFirst (hasId id) change accounts) other =
      if other = id then (storedRow accounts id).map change else storedRow accounts other := by
  split_ifs with here
  · rw [here, stored_after_update accounts id change same]
  · rw [stored_after_other accounts id other change same here]

theorem stored_token (credentialsLoaded : Bool) (accounts : List (Account Credit))
    (id other accessToken refreshToken : GoString) (expiresAt : Int)
    (unsaved : Option GoString) :
    storedRow (updateAccountToken credentialsLoaded accounts id accessToken refreshToken
        expiresAt unsaved).1 other =
      if other = id then
        (storedRow accounts id).map fun row => withToken row accessToken refreshToken expiresAt
      else storedRow accounts other := by
  unfold updateAccountToken
  cases found : storedRow accounts id with
  | none =>
      split_ifs with here
      · rw [here, found]
        rfl
      · rfl
  | some row =>
      rw [← found]
      simp only [found]
      rw [stored_update accounts id other
        (fun account => withToken account accessToken refreshToken expiresAt)
        (fun _ same => same), found]

theorem stored_profile (credentialsLoaded : Bool) (accounts : List (Account Credit))
    (id other profileArn : GoString) (unsaved : Option GoString) :
    storedRow (updateAccountProfileArn credentialsLoaded accounts id profileArn unsaved).1 other =
      if other = id then
        (storedRow accounts id).map fun row =>
          if row.profileArnPinned then row else { row with profileArn := profileArn }
      else storedRow accounts other := by
  unfold updateAccountProfileArn
  cases found : storedRow accounts id with
  | none =>
      split_ifs with here
      · rw [here, found]
        rfl
      · rfl
  | some row =>
      by_cases pinned : row.profileArnPinned = true
      · simp only [if_pos pinned, Option.map_some]
        split_ifs with here
        · rw [here, found]
        · rfl
      · simp only [if_neg pinned, Option.map_some]
        rw [stored_update accounts id other
          (fun account => { account with profileArn := profileArn }) (fun _ same => same), found]
        rfl

theorem stored_pin (accounts : List (Account Credit)) (id other profileArn : GoString) :
    storedRow (pinAccountProfileArn accounts id profileArn) other =
      if other = id then
        (storedRow accounts id).map fun row =>
          { row with
            profileArn := trimSpace profileArn
            profileArnPinned := trimSpace profileArn != [] }
      else storedRow accounts other :=
  stored_update accounts id other _ (fun _ same => same)

theorem stored_row_id (accounts : List (Account Credit)) (id : GoString)
    (account : Account Credit) (found : storedRow accounts id = some account) :
    account.id = id := by
  have key : hasId id account = true := List.find?_some found
  exact beq_iff_eq.mp key

theorem updated_ids (accounts : List (Account Credit)) (id : GoString)
    (change : Account Credit → Account Credit)
    (same : ∀ account : Account Credit, account.id = id → (change account).id = id) :
    (updateFirst (hasId id) change accounts).map Account.id = accounts.map Account.id := by
  induction accounts with
  | nil => rfl
  | cons account accounts ih =>
      rw [updateFirst]
      split_ifs with key
      · have here : account.id = id := beq_iff_eq.mp key
        rw [List.map_cons, List.map_cons, same account here, here]
      · rw [List.map_cons, List.map_cons, ih]

/-- Under distinct IDs a row of the store is the one found for its ID. -/
theorem stored_of_mem (accounts : List (Account Credit))
    (distinct : (accounts.map Account.id).Nodup) (account : Account Credit)
    (member : account ∈ accounts) : storedRow accounts account.id = some account := by
  induction accounts with
  | nil => simp at member
  | cons first rest ih =>
      rw [List.map_cons, List.nodup_cons] at distinct
      unfold storedRow
      rw [List.find?_cons]
      cases List.mem_cons.mp member with
      | inl same => simp [hasId, same]
      | inr later =>
          have apart : hasId account.id first = false := by
            apply beq_eq_false_iff_ne.mpr
            intro same
            apply distinct.1
            rw [same]
            exact List.mem_map_of_mem later
          rw [apart]
          exact ih distinct.2 later

end Updates

end KiroProxy.Accounts
