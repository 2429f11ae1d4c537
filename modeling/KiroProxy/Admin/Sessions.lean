import KiroProxy.Admin.LoginLimit
import KiroProxy.Config.Settings

/-!
# Admin sessions

A transcription of `proxy/admin_session.go`, with the login and the password
change that use it. A login checks the password under the limiter's lock and
issues its session under the store's; a change stores the password under
`cfgLock` and revokes every session under the store's lock. A run interleaves
these four steps, and keeps beside the store the password that each session's
login presented.
-/

namespace KiroProxy.AdminSessions

open AdminLogin AdminSettings
open ApiKeys (ApiKeyError SaveResult)
open Foundation.Runs Foundation.Tables

set_option autoImplicit false

def adminSessionTTL : Nat := 12 * 60 * 60 * 10 ^ 9

def adminTicketTTL : Nat := 30 * 10 ^ 9

def maxAdminSessions : Nat := 128

/-- The hex digits of 32 random bytes. -/
structure Secret where
  text : GoString
  length : text.length = 64

structure AdminSessionStore where
  sessions : Table GoString Time
  tickets : Table GoString Time

def newAdminSessionStore : AdminSessionStore := ⟨Table.empty, Table.empty⟩

section Store

variable (store : AdminSessionStore) (now : Time)

def AdminSessionStore.pruneLocked : AdminSessionStore where
  sessions := store.sessions.keep fun _ expiry => !decide (expiry < now)
  tickets := store.tickets.keep fun _ expiry => !decide (expiry < now)

/-- The session that runs out first, and of several the one that is met first. -/
def oldest (sessions : List (GoString × Time)) : GoString × Time :=
  sessions.foldl
    (fun oldest candidate =>
      if oldest.1 = [] ∨ candidate.2 < oldest.2 then candidate else oldest)
    ([], 0)

/-- The eviction loop; `visit` puts the sessions in the order in which a round meets them, and
every round takes one away. -/
def evict (visit : List (GoString × Time) → List (GoString × Time)) :
    Nat → Table GoString Time → Table GoString Time
  | 0, sessions => sessions
  | rounds + 1, sessions =>
      if maxAdminSessions ≤ sessions.size then
        evict visit rounds (sessions.erase (oldest (visit sessions.entries)).1)
      else sessions

def AdminSessionStore.issue (visit : List (GoString × Time) → List (GoString × Time))
    (token : Secret) : AdminSessionStore :=
  let pruned := store.pruneLocked now
  let kept := evict visit pruned.sessions.size pruned.sessions
  { pruned with sessions := kept.put token.text (now + adminSessionTTL) }

def AdminSessionStore.valid (token : GoString) : Bool × AdminSessionStore :=
  if token = [] then (false, store)
  else match store.sessions.get token with
    | none => (false, store)
    | some expiry =>
        if expiry < now then (false, { store with sessions := store.sessions.erase token })
        else (true, store)

def AdminSessionStore.revoke (token : GoString) : AdminSessionStore :=
  if token = [] then store else { store with sessions := store.sessions.erase token }

def AdminSessionStore.revokeAll : AdminSessionStore := newAdminSessionStore

def AdminSessionStore.issueTicket (ticket : Secret) : AdminSessionStore :=
  let pruned := store.pruneLocked now
  { pruned with tickets := pruned.tickets.put ticket.text (now + adminTicketTTL) }

def AdminSessionStore.consumeTicket (ticket : GoString) : Bool × AdminSessionStore :=
  if ticket = [] then (false, store)
  else
    (match store.tickets.get ticket with
      | none => false
      | some expiry => !decide (expiry < now),
      { store with tickets := store.tickets.erase ticket })

end Store

section Steps

/-- A login's check and its issue, a change's store and its revocation, and the other uses of
the sessions. -/
inductive AdminStep where
  | check (host password : GoString) (now : Time)
  | issue (login : Nat) (token : Option Secret) (now : Time)
  | store (requireApiKey : Option Bool) (password : GoString) (saveErr : SaveResult)
  | revokeAll
  | valid (token : GoString) (now : Time)
  | revoke (token : GoString)
  | issueTicket (ticket : Secret) (now : Time)
  | consumeTicket (ticket : GoString) (now : Time)

variable {Credit : Type}

structure AdminRun (Credit : Type) where
  settings : Settings Credit
  limiter : AdminGuessLimiter
  store : AdminSessionStore
  /-- The passwords of the logins between their check and their issue. -/
  logins : List GoString
  /-- The password that was presented for a session. -/
  presented : GoString → GoString
  /-- The changes between their store and their revocation. -/
  changes : Nat
  /-- A change has completed, and no password was written since. -/
  settled : Bool
  clock : Time

def startAdmin (settings : Settings Credit) : AdminRun Credit where
  settings := settings
  limiter := newAdminGuessLimiter
  store := newAdminSessionStore
  logins := []
  presented := fun _ => []
  changes := 0
  settled := false
  clock := 0

variable (visit : List (GoString × Time) → List (GoString × Time)) (run : AdminRun Credit)

def AdminRun.check (host password : GoString) (now : Time) : AdminRun Credit :=
  let checked := checkPassword run.limiter host now run.settings.password password
  { run with
    limiter := checked.2
    logins := if checked.1.1 then run.logins ++ [password] else run.logins
    clock := now }

/-- Without a token the random source has failed and the login ends. -/
def AdminRun.issue (login : Nat) (token : Option Secret) (now : Time) : AdminRun Credit :=
  match run.logins[login]?, token with
  | none, _ => run
  | some _, none => { run with logins := run.logins.eraseIdx login }
  | some password, some token =>
      { run with
        store := run.store.issue now visit token
        logins := run.logins.eraseIdx login
        presented := Function.update run.presented token.text password
        clock := now }

/-- A password that cannot be saved is in force, and its change ends here. -/
def AdminRun.storePassword (requireApiKey : Option Bool) (password : GoString)
    (saveErr : SaveResult) : AdminRun Credit :=
  let updated := updateSettingsPatchGuarded run.settings requireApiKey password saveErr
  { run with
    settings := updated.2
    changes := if password ≠ [] ∧ updated.1 = none then run.changes + 1 else run.changes
    settled := run.settled && (password = [] || updated.1 = some .lockout) }

def AdminRun.completeChange : AdminRun Credit :=
  match run.changes with
  | 0 => run
  | changes + 1 =>
      { run with
        store := AdminSessionStore.revokeAll
        changes := changes
        settled := changes == 0 }

def AdminRun.step : AdminStep → AdminRun Credit
  | .check host password now => run.check host password now
  | .issue login token now => run.issue visit login token now
  | .store requireApiKey password saveErr => run.storePassword requireApiKey password saveErr
  | .revokeAll => run.completeChange
  | .valid token now => { run with store := (run.store.valid now token).2, clock := now }
  | .revoke token => { run with store := run.store.revoke token }
  | .issueTicket ticket now => { run with store := run.store.issueTicket now ticket, clock := now }
  | .consumeTicket ticket now =>
      { run with store := (run.store.consumeTicket now ticket).2, clock := now }

/-- Once changes have completed, a valid session is one of the password in force. -/
def LockedOut : Prop :=
  run.settled = true → ∀ token now, run.clock ≤ now → (run.store.valid now token).1 = true →
    run.presented token = run.settings.password

/-- A login that issues a session presented the password in force. -/
def IssuesCurrent (run : AdminRun Credit) : AdminStep → Prop
  | .issue login (some _) _ =>
      run.settled = true → ∀ password ∈ run.logins[login]?, password = run.settings.password
  | _ => True

end Steps

section Stored

variable (store : AdminSessionStore) (now : Time) (token other : GoString) (expiry : Time)

theorem get_kept (table : Table GoString Time) (test : GoString → Time → Bool)
    (found : (table.keep test).get token = some expiry) : table.get token = some expiry := by
  rw [get_keep, Option.filter_eq_some_iff] at found
  exact found.1

theorem evict_get (visit : List (GoString × Time) → List (GoString × Time)) (rounds : Nat)
    (sessions : Table GoString Time)
    (found : (evict visit rounds sessions).get token = some expiry) :
    sessions.get token = some expiry := by
  induction rounds generalizing sessions with
  | zero => exact found
  | succ rounds ih =>
      rw [evict] at found
      split_ifs at found
      · exact get_kept token expiry sessions _ (ih _ found)
      · exact found

theorem issue_get (visit : List (GoString × Time) → List (GoString × Time)) (secret : Secret) :
    (store.issue now visit secret).sessions.get token =
      if token = secret.text then some (now + adminSessionTTL)
      else (evict visit (store.pruneLocked now).sessions.size (store.pruneLocked now).sessions).get
          token :=
  get_put _ _ _ _

/-- Only a new session was not stored before. -/
theorem issue_stored (visit : List (GoString × Time) → List (GoString × Time)) (secret : Secret)
    (apart : token ≠ secret.text)
    (found : (store.issue now visit secret).sessions.get token = some expiry) :
    store.sessions.get token = some expiry := by
  rw [issue_get, if_neg apart] at found
  have kept := evict_get token expiry visit _ _ found
  exact get_kept token expiry store.sessions _ kept

theorem secret_nonempty (secret : Secret) : secret.text ≠ [] := by
  intro empty
  have length := secret.length
  rw [empty] at length
  exact absurd length (by decide)

theorem issue_valid (visit : List (GoString × Time) → List (GoString × Time)) (secret : Secret) :
    ((store.issue now visit secret).valid now secret.text).1 = true := by
  unfold AdminSessionStore.valid
  rw [if_neg (secret_nonempty secret), issue_get, if_pos rfl]
  simp only
  rw [if_neg (Nat.not_lt.mpr (Nat.le_add_right now adminSessionTTL))]

theorem valid_stored (valid : (store.valid now token).1 = true) :
    ∃ expiry, store.sessions.get token = some expiry := by
  unfold AdminSessionStore.valid at valid
  cases found : store.sessions.get token with
  | none =>
      rw [found] at valid
      split_ifs at valid
  | some expiry => exact ⟨expiry, rfl⟩

end Stored

section Changes

variable {Credit : Type} (visit : List (GoString × Time) → List (GoString × Time))
  (run : AdminRun Credit)

/-- The stored sessions are of the password in force. -/
def SessionsCurrent : Prop :=
  run.settled = true → ∀ token expiry, run.store.sessions.get token = some expiry →
    run.presented token = run.settings.password

theorem current_locked_out (current : SessionsCurrent run) : LockedOut run := by
  intro settled token now later valid
  obtain ⟨expiry, stored⟩ := valid_stored run.store now token valid
  exact current settled token expiry stored

/-- A password that was not written is the one before. -/
theorem patch_password (settings : Settings Credit) (requireApiKey : Option Bool)
    (password : GoString) (saveErr : SaveResult)
    (spared : (decide (password = []) || decide ((updateSettingsPatchGuarded settings
      requireApiKey password saveErr).1 = some ApiKeyError.lockout)) = true) :
    (updateSettingsPatchGuarded settings requireApiKey password saveErr).2.password =
      settings.password := by
  unfold updateSettingsPatchGuarded updateSettingsPatch at *
  split_ifs at * with locked empty
  · rfl
  · rfl
  · exfalso
    cases saveErr with
    | none => simp [empty, ApiKeys.saved] at spared
    | some cause => simp [empty, ApiKeys.saved] at spared

theorem fewer_current (sessions : AdminSessionStore) (clock : Time)
    (fewer : ∀ token expiry, sessions.sessions.get token = some expiry →
      run.store.sessions.get token = some expiry)
    (current : SessionsCurrent run) :
    SessionsCurrent { run with store := sessions, clock := clock } :=
  fun settled token expiry found => current settled token expiry (fewer token expiry found)

theorem step_current (step : AdminStep) (current : SessionsCurrent run)
    (issues : IssuesCurrent run step) : SessionsCurrent (run.step visit step) := by
  cases step with
  | check host password now => exact current
  | issue login token now =>
      change SessionsCurrent (run.issue visit login token now)
      unfold AdminRun.issue
      cases found : run.logins[login]? with
      | none => exact current
      | some password =>
          cases token with
          | none => exact current
          | some secret =>
              intro settled token expiry stored
              simp only at settled stored ⊢
              by_cases same : token = secret.text
              · rw [same, Function.update_self]
                exact issues settled password (Option.mem_def.mpr found)
              · rw [Function.update_of_ne same]
                exact current settled token expiry
                  (issue_stored run.store now token expiry visit secret same stored)
  | store requireApiKey password saveErr =>
      intro settled token expiry stored
      change (run.settled && _) = true at settled
      rw [Bool.and_eq_true] at settled
      have kept := current settled.1 token expiry stored
      rw [← patch_password run.settings requireApiKey password saveErr settled.2] at kept
      exact kept
  | revokeAll =>
      change SessionsCurrent run.completeChange
      unfold AdminRun.completeChange
      cases run.changes with
      | zero => exact current
      | succ changes => exact fun _ _ _ stored => absurd stored (Option.some_ne_none _).symm
  | valid token now =>
      apply fewer_current run _ now _ current
      intro other expiry stored
      unfold AdminSessionStore.valid at stored
      split at stored
      · exact stored
      · split at stored
        · exact stored
        · split_ifs at stored
          · exact get_kept other expiry run.store.sessions _ stored
          · exact stored
  | revoke token =>
      apply fewer_current run _ run.clock _ current
      intro other expiry stored
      unfold AdminSessionStore.revoke at stored
      split_ifs at stored
      · exact stored
      · exact get_kept other expiry run.store.sessions _ stored
  | issueTicket ticket now =>
      apply fewer_current run _ now _ current
      intro other expiry stored
      exact get_kept other expiry run.store.sessions _ stored
  | consumeTicket ticket now =>
      apply fewer_current run _ now _ current
      intro other expiry stored
      unfold AdminSessionStore.consumeTicket at stored
      split_ifs at stored
      · exact stored
      · exact stored

/-- A session of another password, issued once the change has completed, is valid. -/
theorem issue_needed (step : AdminStep) (lockedOut : LockedOut (run.step visit step)) :
    IssuesCurrent run step := by
  cases step with
  | issue login token now =>
      cases token with
      | none => exact trivial
      | some secret =>
          intro settled password found
          have issued : run.step visit (.issue login (some secret) now) =
              { run with
                store := run.store.issue now visit secret
                logins := run.logins.eraseIdx login
                presented := Function.update run.presented secret.text password
                clock := now } := by
            change run.issue visit login (some secret) now = _
            unfold AdminRun.issue
            rw [Option.mem_def.mp found]
          rw [issued] at lockedOut
          have presented := lockedOut settled secret.text now (Nat.le_refl now)
            (issue_valid run.store now visit secret)
          change Function.update run.presented secret.text password secret.text = _ at presented
          rw [Function.update_self] at presented
          exact presented
  | _ => exact trivial

/-- In every state of a run the valid sessions are of the password in force exactly when every
login that issues one presented that password. -/
theorem old_password_locked_out_iff (settings : Settings Credit) (steps : List AdminStep) :
    Always (AdminRun.step visit) LockedOut (startAdmin settings) steps ↔
      StepsMeet (AdminRun.step visit) IssuesCurrent (startAdmin settings) steps :=
  always_iff_steps_meet (AdminRun.step visit) IssuesCurrent SessionsCurrent LockedOut
    current_locked_out (step_current visit) (fun run step _ => issue_needed visit run step)
    (startAdmin settings) (fun settled => absurd settled Bool.false_ne_true) steps

def oldPassword : Settings Int := ⟨⟨false, []⟩, lit "old-password", false⟩

def staleToken : Secret := ⟨List.replicate 64 0x61, List.length_replicate⟩

/-- A login that checks its password before a change issues its session behind it. -/
def lateLogin : List AdminStep :=
  [.check (lit "127.0.0.1") (lit "old-password") 1, .store none (lit "new-password") none,
    .revokeAll, .issue 0 (some staleToken) 2]

theorem late_login_stays :
    ¬Always (AdminRun.step id) LockedOut (startAdmin oldPassword) lateLogin := by
  intro always
  have presented := always lateLogin [] rfl (by decide) staleToken.text 2 (by decide) (by decide)
  exact absurd presented (by decide)

end Changes

end KiroProxy.AdminSessions
