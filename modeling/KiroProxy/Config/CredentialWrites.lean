import KiroProxy.Config.AccountUpdates
import KiroProxy.Foundation.Runs
import Mathlib.Logic.Function.Basic

/-!
# Credential writes

Runs of the credential writes of `config/config.go` and `config/credentials.go` among the
writes of whole accounts. A caller copies a row in one step and writes its copy back in a
later one; each step runs under the lock of the store in use.
-/

namespace KiroProxy.CredentialWrites

open Accounts Foundation.KeyedList Foundation.Runs GoStrings

set_option autoImplicit false

/-- The fields `preserveAccountCredentials` keeps. -/
structure Credentials where
  accessToken : GoString
  refreshToken : GoString
  kiroApiKey : GoString
  clientID : GoString
  clientSecret : GoString
  authMethod : GoString
  provider : GoString
  region : GoString
  startUrl : GoString
  expiresAt : Int
  profileArn : GoString
  profileArnPinned : Bool
  tokenEndpoint : GoString
  issuerURL : GoString
  scopes : GoString
  deriving DecidableEq

inductive Field where
  | accessToken | refreshToken | kiroApiKey | clientID | clientSecret | authMethod | provider
  | region | startUrl | expiresAt | profileArn | profileArnPinned | tokenEndpoint | issuerURL
  | scopes
  deriving DecidableEq

inductive Value where
  | text (value : GoString)
  | whole (value : Int)
  | flag (value : Bool)
  deriving DecidableEq

def Credentials.get (credentials : Credentials) : Field → Value
  | .accessToken => .text credentials.accessToken
  | .refreshToken => .text credentials.refreshToken
  | .kiroApiKey => .text credentials.kiroApiKey
  | .clientID => .text credentials.clientID
  | .clientSecret => .text credentials.clientSecret
  | .authMethod => .text credentials.authMethod
  | .provider => .text credentials.provider
  | .region => .text credentials.region
  | .startUrl => .text credentials.startUrl
  | .expiresAt => .whole credentials.expiresAt
  | .profileArn => .text credentials.profileArn
  | .profileArnPinned => .flag credentials.profileArnPinned
  | .tokenEndpoint => .text credentials.tokenEndpoint
  | .issuerURL => .text credentials.issuerURL
  | .scopes => .text credentials.scopes

/-- One locked section. The writes from a caller's copy take the copy as the caller has changed
it; with loaded credentials `SetAccountEnabled`, `SetAccountBanStatus` and the first part of
`UpdateAccountInfo` are such writes, else they change the row in place. -/
inductive Event (Credit : Type) where
  | updateAccountToken (id accessToken refreshToken : GoString) (expiresAt : Int)
  | updateAccountProfileArn (id profileArn : GoString)
  | pinAccountProfileArn (id profileArn : GoString)
  | copy (caller : Nat) (id : GoString)
  | updateAccount (caller : Nat) (change : Account Credit → Account Credit)
  | setAccountEnabled (caller : Nat) (id : GoString) (enabled : Bool) (now : Int)
  | setAccountBanStatus (caller : Nat) (id status reason : GoString) (now : Int)
  | updateAccountInfo (caller : Nat) (id : GoString) (info : AccountInfo Credit)
  | updateCredentialInfo (id : GoString) (info : AccountInfo Credit)

structure State (Credit : Type) where
  accounts : List (Account Credit)
  copies : Nat → Option (Account Credit)

section Steps

variable {Credit : Type}

def credentials (account : Account Credit) : Credentials where
  accessToken := account.accessToken
  refreshToken := account.refreshToken
  kiroApiKey := account.kiroApiKey
  clientID := account.clientID
  clientSecret := account.clientSecret
  authMethod := account.authMethod
  provider := account.provider
  region := account.region
  startUrl := account.startUrl
  expiresAt := account.expiresAt
  profileArn := account.profileArn
  profileArnPinned := account.profileArnPinned
  tokenEndpoint := account.tokenEndpoint
  issuerURL := account.issuerURL
  scopes := account.scopes

/-- `UpdateAccount` or `UpdateCredential` with a caller's copy. No caller changes its ID. -/
def writeBack (accounts : List (Account Credit)) (copy : Option (Account Credit))
    (change : Account Credit → Account Credit) : List (Account Credit) :=
  match copy with
  | none => accounts
  | some copy => updateAccount accounts copy.id { change copy with id := copy.id }

def writeRow (credentialsLoaded : Bool) (state : State Credit) (caller : Nat) (id : GoString)
    (change : Account Credit → Account Credit) : List (Account Credit) :=
  if credentialsLoaded then writeBack state.accounts (state.copies caller) change
  else updateFirst (hasId id) change state.accounts

def writes (credentialsLoaded : Bool) (state : State Credit) :
    Event Credit → List (Account Credit)
  | .updateAccountToken id accessToken refreshToken expiresAt =>
      (updateAccountToken credentialsLoaded state.accounts id accessToken refreshToken expiresAt
        none).1
  | .updateAccountProfileArn id profileArn =>
      (updateAccountProfileArn credentialsLoaded state.accounts id profileArn none).1
  | .pinAccountProfileArn id profileArn => pinAccountProfileArn state.accounts id profileArn
  | .copy _ _ => state.accounts
  | .updateAccount caller change => writeBack state.accounts (state.copies caller) change
  | .setAccountEnabled caller id enabled now =>
      writeRow credentialsLoaded state caller id fun account =>
        withAccountEnabled account enabled now
  | .setAccountBanStatus caller id status reason now =>
      writeRow credentialsLoaded state caller id fun account =>
        withAccountBanStatus account status reason now
  | .updateAccountInfo caller id info =>
      -- a copy that gains neither an address nor a user is not written back
      if credentialsLoaded && info.email == [] && info.userId == [] then state.accounts
      else
        writeRow credentialsLoaded state caller id fun account =>
          if credentialsLoaded then withIdentity account info
          else withUsage (withIdentity account info) info
  | .updateCredentialInfo id info => updateCredentialInfo state.accounts id info

def step (credentialsLoaded : Bool) (state : State Credit) (event : Event Credit) :
    State Credit where
  accounts := writes credentialsLoaded state event
  copies :=
    match event with
    | .copy caller id =>
        Function.update state.copies caller (storedRow state.accounts id)
    | _ => state.copies

def start (accounts : List (Account Credit)) : State Credit := ⟨accounts, fun _ => none⟩

/-- The value a credential write gives to a field of the account: a blank refresh token and the
profile of a pinned account are not written. -/
def written (id : GoString) (pinned : Bool) : Event Credit → Field → Option Value
  | .updateAccountToken other accessToken refreshToken expiresAt, field =>
      if other ≠ id then none
      else
        match field with
        | .accessToken => some (.text accessToken)
        | .refreshToken => if refreshToken ≠ [] then some (.text refreshToken) else none
        | .expiresAt => some (.whole expiresAt)
        | _ => none
  | .updateAccountProfileArn other profileArn, .profileArn =>
      if other = id ∧ pinned = false then some (.text profileArn) else none
  | .pinAccountProfileArn other profileArn, field =>
      if other ≠ id then none
      else
        match field with
        | .profileArn => some (.text (trimSpace profileArn))
        | .profileArnPinned => some (.flag (trimSpace profileArn != []))
        | _ => none
  | _, _ => none

def isPinned (accounts : List (Account Credit)) (id : GoString) : Bool :=
  ((storedRow accounts id).map Account.profileArnPinned).getD false

/-- The value of the latest credential write of a run to a field, from the value before it. -/
def latest (credentialsLoaded : Bool) (id : GoString) (field : Field) :
    State Credit → Value → List (Event Credit) → Value
  | _, value, [] => value
  | state, value, event :: events =>
      latest credentialsLoaded id field (step credentialsLoaded state event)
        ((written id (isPinned state.accounts id) event field).getD value) events

end Steps

section Writes

variable {Credit : Type}

/-- Whole accounts are written over the credentials of the current row. -/
theorem preserved (account current : Account Credit) :
    credentials (preserveAccountCredentials account current) = credentials current := rfl

theorem enabled_credentials (account : Account Credit) (enabled : Bool) (now : Int) :
    credentials (withAccountEnabled account enabled now) = credentials account ∧
      (withAccountEnabled account enabled now).id = account.id := by
  unfold withAccountEnabled
  split_ifs <;> exact ⟨rfl, rfl⟩

theorem ban_status_credentials (account : Account Credit) (status reason : GoString) (now : Int) :
    credentials (withAccountBanStatus account status reason now) = credentials account ∧
      (withAccountBanStatus account status reason now).id = account.id := by
  unfold withAccountBanStatus
  dsimp only
  split_ifs <;> exact ⟨rfl, rfl⟩

/-- A change of a row keeps the credentials of every row. -/
theorem kept_in_place (accounts : List (Account Credit)) (id other : GoString)
    (change : Account Credit → Account Credit)
    (keeps : ∀ account, credentials (change account) = credentials account)
    (same : ∀ account : Account Credit, account.id = id → (change account).id = id) :
    (storedRow (updateFirst (hasId id) change accounts) other).map credentials =
      (storedRow accounts other).map credentials := by
  by_cases here : other = id
  · rw [here, stored_after_update accounts id change same, Option.map_map]
    congr 1
    funext account
    exact keeps account
  · rw [stored_after_other accounts id other change same here]

theorem kept_back (accounts : List (Account Credit)) (copy : Option (Account Credit))
    (change : Account Credit → Account Credit) (id : GoString) :
    (storedRow (writeBack accounts copy change) id).map credentials =
      (storedRow accounts id).map credentials := by
  cases copy with
  | none => rfl
  | some copy =>
      apply kept_in_place
      · intro account
        exact preserved _ account
      · intro account _
        rfl

theorem kept_row (credentialsLoaded : Bool) (state : State Credit) (caller : Nat)
    (id other : GoString) (change : Account Credit → Account Credit)
    (keeps : ∀ account, credentials (change account) = credentials account ∧
      (change account).id = account.id) :
    (storedRow (writeRow credentialsLoaded state caller id change) other).map credentials =
      (storedRow state.accounts other).map credentials := by
  unfold writeRow
  split_ifs
  · exact kept_back state.accounts (state.copies caller) change other
  · apply kept_in_place
    · intro account
      exact (keeps account).1
    · intro account named
      exact (keeps account).2.trans named

end Writes

section Runs

variable {Credit : Type}

/-- After the call the row carries what the call writes, and keeps the fields it does not. -/
def RowWritten (credentialsLoaded : Bool) (state : State Credit) (event : Event Credit)
    (id : GoString) (row : Account Credit) : Prop :=
  ∃ next, storedRow (step credentialsLoaded state event).accounts id = some next ∧
    ∀ field, (credentials next).get field =
      (written id (isPinned state.accounts id) event field).getD ((credentials row).get field)

section Written

variable (credentialsLoaded : Bool) (state : State Credit) (id : GoString)
  (row : Account Credit) (stored : storedRow state.accounts id = some row)

include stored

theorem pinned_row : isPinned state.accounts id = row.profileArnPinned := by
  rw [isPinned, stored]
  rfl

theorem unwritten_row (event : Event Credit)
    (silent : ∀ field, written id row.profileArnPinned event field = none)
    (kept : (storedRow (writes credentialsLoaded state event) id).map credentials =
      (storedRow state.accounts id).map credentials) :
    RowWritten credentialsLoaded state event id row := by
  rw [stored, Option.map_some] at kept
  obtain ⟨next, found, same⟩ := Option.map_eq_some_iff.mp kept
  refine ⟨next, found, ?_⟩
  intro field
  rw [pinned_row state id row stored, silent field, same]
  rfl

theorem token_written (other accessToken refreshToken : GoString) (expiresAt : Int) :
    RowWritten credentialsLoaded state
      (.updateAccountToken other accessToken refreshToken expiresAt) id row := by
  have after := stored_token credentialsLoaded state.accounts other id accessToken
    refreshToken expiresAt none
  by_cases here : id = other
  · subst here
    rw [if_pos rfl, stored, Option.map_some] at after
    refine ⟨_, after, ?_⟩
    intro field
    simp only [written, ne_eq, not_true_eq_false, if_false]
    cases field <;> simp only [credentials, withToken, Credentials.get, Option.getD_some,
      Option.getD_none]
    split_ifs <;> rfl
  · rw [if_neg here] at after
    apply unwritten_row credentialsLoaded state id row stored
    · intro field
      simp [written, Ne.symm here]
    · exact congrArg _ after

theorem profile_written (other profileArn : GoString) :
    RowWritten credentialsLoaded state (.updateAccountProfileArn other profileArn) id row := by
  have after := stored_profile credentialsLoaded state.accounts other id profileArn none
  by_cases here : id = other
  · subst here
    rw [if_pos rfl, stored, Option.map_some] at after
    refine ⟨_, after, ?_⟩
    intro field
    rw [pinned_row state id row stored]
    cases held : row.profileArnPinned with
    | true => cases field <;> simp [written]
    | false => cases field <;> simp [written, held, credentials, Credentials.get]
  · rw [if_neg here] at after
    apply unwritten_row credentialsLoaded state id row stored
    · intro field
      cases field <;> simp [written, Ne.symm here]
    · exact congrArg _ after

theorem pin_written (other profileArn : GoString) :
    RowWritten credentialsLoaded state (.pinAccountProfileArn other profileArn) id row := by
  have after := stored_pin state.accounts other id profileArn
  by_cases here : id = other
  · subst here
    rw [if_pos rfl, stored, Option.map_some] at after
    refine ⟨_, after, ?_⟩
    intro field
    cases field <;> simp [written, credentials, Credentials.get]
  · rw [if_neg here] at after
    apply unwritten_row credentialsLoaded state id row stored
    · intro field
      simp [written, Ne.symm here]
    · exact congrArg _ after

end Written

/-- One section changes the credentials of an account as a credential write of it does, and
whole accounts of any age change none. -/
theorem step_field (credentialsLoaded : Bool) (state : State Credit) (event : Event Credit)
    (id : GoString) (row : Account Credit) (stored : storedRow state.accounts id = some row) :
    RowWritten credentialsLoaded state event id row := by
  have unwritten := unwritten_row credentialsLoaded state id row stored
  cases event with
  | updateAccountToken other accessToken refreshToken expiresAt =>
      exact token_written credentialsLoaded state id row stored other accessToken refreshToken
        expiresAt
  | updateAccountProfileArn other profileArn =>
      exact profile_written credentialsLoaded state id row stored other profileArn
  | pinAccountProfileArn other profileArn =>
      exact pin_written credentialsLoaded state id row stored other profileArn
  | copy caller other =>
      apply unwritten
      · intro field
        rfl
      · rfl
  | updateAccount caller change =>
      apply unwritten
      · intro field
        rfl
      · exact kept_back state.accounts (state.copies caller) change id
  | setAccountEnabled caller other enabled now =>
      apply unwritten
      · intro field
        rfl
      · apply kept_row
        intro account
        exact enabled_credentials account enabled now
  | setAccountBanStatus caller other status reason now =>
      apply unwritten
      · intro field
        rfl
      · apply kept_row
        intro account
        exact ban_status_credentials account status reason now
  | updateAccountInfo caller other info =>
      apply unwritten
      · intro field
        rfl
      · simp only [writes]
        split_ifs
        · rfl
        · apply kept_row
          intro account
          exact ⟨rfl, rfl⟩
        · apply kept_row
          intro account
          exact ⟨rfl, rfl⟩
  | updateCredentialInfo other info =>
      apply unwritten
      · intro field
        rfl
      · apply kept_in_place
        · intro account
          rfl
        · intro account named
          exact named

theorem run_field (credentialsLoaded : Bool) (state : State Credit)
    (events : List (Event Credit)) (id : GoString) (row : Account Credit)
    (stored : storedRow state.accounts id = some row) :
    ∃ final, storedRow (run (step credentialsLoaded) state events).accounts id = some final ∧
      ∀ field, (credentials final).get field =
        latest credentialsLoaded id field state ((credentials row).get field) events := by
  induction events generalizing state row with
  | nil => exact ⟨row, stored, fun _ => rfl⟩
  | cons event events ih =>
      obtain ⟨next, found, fields⟩ := step_field credentialsLoaded state event id row stored
      obtain ⟨final, reached, values⟩ := ih (step credentialsLoaded state event) next found
      refine ⟨final, reached, ?_⟩
      intro field
      rw [values field, fields field]
      rfl

/-- The profile of a pinned account is written by no event but a pin of it. -/
theorem pinned_unwritten (id : GoString) (event : Event Credit)
    (unpinned : ∀ profileArn, event ≠ .pinAccountProfileArn id profileArn) :
    written id true event .profileArn = none ∧ written id true event .profileArnPinned = none := by
  cases event with
  | pinAccountProfileArn other profileArn =>
      have apart : other ≠ id := by
        intro same
        exact unpinned profileArn (by rw [same])
      simp [written, apart]
  | updateAccountToken other _ _ _ =>
      by_cases here : other = id <;> simp [written, here]
  | updateAccountProfileArn other _ => simp [written]
  | copy | updateAccount | setAccountEnabled | setAccountBanStatus | updateAccountInfo
  | updateCredentialInfo => exact ⟨rfl, rfl⟩

theorem pinned_kept (credentialsLoaded : Bool) (state : State Credit)
    (events : List (Event Credit)) (id : GoString) (held : Account Credit)
    (stored : storedRow state.accounts id = some held) (pinned : held.profileArnPinned = true)
    (unpinned : ∀ profileArn, .pinAccountProfileArn id profileArn ∉ events) :
    ∃ final, storedRow (run (step credentialsLoaded) state events).accounts id = some final ∧
      final.profileArn = held.profileArn ∧ final.profileArnPinned = true := by
  induction events generalizing state held with
  | nil => exact ⟨held, stored, rfl, pinned⟩
  | cons event events ih =>
      obtain ⟨next, found, fields⟩ := step_field credentialsLoaded state event id held stored
      have now : isPinned state.accounts id = true := by
        rw [isPinned, stored]
        exact pinned
      have silent := pinned_unwritten id event (by
        intro profileArn same
        exact unpinned profileArn (List.mem_cons.mpr (Or.inl same.symm)))
      have profile := fields .profileArn
      have flag := fields .profileArnPinned
      rw [now, silent.1] at profile
      rw [now, silent.2] at flag
      have still : next.profileArnPinned = true := (Value.flag.inj flag).trans pinned
      obtain ⟨final, reached, same, kept⟩ := ih (step credentialsLoaded state event) next found
        still (fun profileArn member => unpinned profileArn (List.mem_cons_of_mem event member))
      exact ⟨final, reached, same.trans (Value.text.inj profile), kept⟩

theorem credentials_never_regress (credentialsLoaded : Bool) (accounts : List (Account Credit))
    (events : List (Event Credit)) (id : GoString) (row : Account Credit)
    (stored : storedRow accounts id = some row) :
    ∃ final,
      storedRow (run (step credentialsLoaded) (start accounts) events).accounts id = some final ∧
      (∀ field, (credentials final).get field =
        latest credentialsLoaded id field (start accounts) ((credentials row).get field) events) ∧
      (∀ earlier later held, events = earlier ++ later →
        storedRow (run (step credentialsLoaded) (start accounts) earlier).accounts id = some held →
        held.profileArnPinned = true →
        (∀ profileArn, .pinAccountProfileArn id profileArn ∉ later) →
        final.profileArn = held.profileArn ∧ final.profileArnPinned = true) ∧
      ∀ earlier later accessToken expiresAt held next,
        events = earlier ++ .updateAccountToken id accessToken [] expiresAt :: later →
        storedRow (run (step credentialsLoaded) (start accounts) earlier).accounts id = some held →
        storedRow (run (step credentialsLoaded) (start accounts)
          (earlier ++ [.updateAccountToken id accessToken [] expiresAt])).accounts id = some next →
        next.accessToken = accessToken ∧ next.refreshToken = held.refreshToken := by
  obtain ⟨final, reached, fields⟩ :=
    run_field credentialsLoaded (start accounts) events id row stored
  refine ⟨final, reached, fields, ?_, ?_⟩
  · intro earlier later held split before pinned unpinned
    obtain ⟨last, found, kept⟩ := pinned_kept credentialsLoaded _ later id held before pinned
      unpinned
    rw [← run_append, ← split, reached] at found
    cases found
    exact kept
  · intro earlier later accessToken expiresAt held next _ before after
    rw [run_append, run_cons, run_nil] at after
    obtain ⟨found, stepped, values⟩ := step_field credentialsLoaded _
      (.updateAccountToken id accessToken [] expiresAt) id held before
    rw [after] at stepped
    cases stepped
    have access := values .accessToken
    have refresh := values .refreshToken
    simp only [written, ne_eq, not_true_eq_false, if_false, Option.getD_some,
      Option.getD_none] at access refresh
    exact ⟨Value.text.inj access, Value.text.inj refresh⟩

end Runs

section StaleCopies

def idleAccount : Account Int :=
  { newAccount (lit "a") with accessToken := lit "t", refreshToken := lit "r" }

/-- A copy from before a token refresh and a pin is written back after both. -/
def staleWrite : List (Event Int) :=
  [.copy 0 (lit "a"), .updateAccountToken (lit "a") (lit "t2") [] 7,
    .pinAccountProfileArn (lit "a") (lit " p "), .updateAccountProfileArn (lit "a") (lit "q"),
    .updateAccount 0 (fun account => { account with nickname := lit "n" })]

theorem stale_write_kept :
    ∃ final, storedRow (run (step true) (start [idleAccount]) staleWrite).accounts (lit "a") =
        some final ∧
      (∀ field, (credentials final).get field =
        latest true (lit "a") field (start [idleAccount]) ((credentials idleAccount).get field)
          staleWrite) ∧
      final.nickname = lit "n" ∧
      credentials final =
        { credentials idleAccount with
          accessToken := lit "t2", expiresAt := 7, profileArn := lit "p",
          profileArnPinned := true } := by
  obtain ⟨final, reached, fields, _⟩ :=
    credentials_never_regress true [idleAccount] staleWrite (lit "a") idleAccount rfl
  have ends : (storedRow (run (step true) (start [idleAccount]) staleWrite).accounts
      (lit "a")).map (fun row => (row.nickname, credentials row)) =
      some (lit "n", { credentials idleAccount with
        accessToken := lit "t2", expiresAt := 7, profileArn := lit "p",
        profileArnPinned := true }) := by
    decide
  rw [reached, Option.map_some, Option.some.injEq, Prod.mk.injEq] at ends
  exact ⟨final, reached, fields, ends.1, ends.2⟩

end StaleCopies

end KiroProxy.CredentialWrites
