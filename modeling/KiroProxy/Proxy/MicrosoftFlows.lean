import KiroProxy.Config.Accounts
import KiroProxy.Foundation.Tables

/-!
# Microsoft sign-in

The requests of `proxy/microsoft_sso.go` over the login sessions of `auth/microsoft_sso.go`. What
a request does under one lock is one event; the ids of requests are trimmed. What the portal, the
provider and the discovery answer, and whether the account store could be written, comes with the
events.
-/

namespace KiroProxy.MicrosoftSSO

open Accounts Foundation.Tables GoStrings

set_option autoImplicit false

/-- In seconds. -/
def microsoftSSOSessionTTL : Nat := 600

def microsoftSelectionTTL : Nat := 600

def microsoftCanceledTTL : Nat := 600

def microsoftSSOMaxSessions : Nat := 64

def microsoftMaxSelections : Nat := 64

def microsoftMaxCanceled : Nat := 128

inductive Stage where
  | waitingForPortal
  | waitingForProvider
  deriving DecidableEq

/-- A session, which is in the map of sessions until it is retired or discarded; `locked` says
that a request holds it. -/
structure MicrosoftSSOSession where
  expiresAt : Nat
  stage : Stage
  canceled : Bool
  inMap : Bool
  locked : Bool

structure MicrosoftSSOResult where
  accessToken : GoString
  refreshToken : GoString
  clientID : GoString
  tokenEndpoint : GoString
  issuerURL : GoString
  scopes : GoString
  email : GoString
  userID : GoString
  expiresAt : Int

variable {Credit : Type}

structure MicrosoftSelection (Credit : Type) where
  sessionID : GoString
  account : Account Credit
  profiles : List GoString
  expiresAt : Nat

/-- A discovery is under the number of the request that runs it. -/
structure MicrosoftFlows (Credit : Type) where
  discoveries : Table GoString Nat
  selections : Table GoString (MicrosoftSelection Credit)
  canceled : Table GoString Nat

/-- How far a request that completes a login has come. -/
inductive Phase (Credit : Type) where
  | idle
  | waiting (sessionID : GoString)
  | answering (sessionID : GoString) (leg : Stage)
  | returned (sessionID : GoString) (account : Account Credit)
  | discovering (sessionID : GoString) (account : Account Credit)
  | discovered (sessionID : GoString) (account : Account Credit) (profiles : List GoString)

/-- What became of one leg of a login. -/
inductive Leg where
  | failed (retired : Bool)
  | authorized
  | exchanged (result : MicrosoftSSOResult) (accountID machineID : GoString)

inductive Event where
  | advance (seconds : Nat)
  | start (sessionID : GoString)
  | timeout (sessionID : GoString)
  | arrive (request : Nat) (sessionID : GoString)
  | enter (request : Nat)
  | answer (request : Nat) (leg : Leg)
  | beginDiscovery (request : Nat)
  | discovered (request : Nat) (profiles : List GoString) (clientGone : Bool)
  | finish (request : Nat) (selectionID : GoString) (saved : Bool)
  | select (selectionID profileARN : GoString) (saved : Bool)
  | cancel (sessionID selectionID : GoString) (waited : Nat)

section History

/-- Until when a canceled session is to add no account; one whose selection was canceled by id
alone, under another session, never is. -/
inductive Bar where
  | till (expiry : Nat)
  | forever

/-- An account that came into the list, and what stood before. -/
structure Added (Credit : Type) where
  sessionID : GoString
  account : Account Credit
  selected : Bool
  now : Nat
  bar : Option Bar
  stored : List (Account Credit)

/-- What has happened: accounts added, profiles offered, sessions canceled, the times of cancels
and the session of each account id that was generated. -/
structure History (Credit : Type) where
  added : List (Added Credit)
  offered : List (GoString × GoString)
  barred : GoString → Option Bar
  cancels : List Nat
  owner : GoString → Option GoString

structure State (Credit : Type) where
  now : Nat
  sessions : Table GoString MicrosoftSSOSession
  requests : Nat → Phase Credit
  flows : MicrosoftFlows Credit
  accounts : List (Account Credit)
  history : History Credit

def State.start (accounts : List (Account Credit)) : State Credit where
  now := 0
  sessions := .empty
  requests := fun _ => .idle
  flows := ⟨.empty, .empty, .empty⟩
  accounts := accounts
  history := ⟨[], [], fun _ => none, [], fun _ => none⟩

def State.setRequest (state : State Credit) (request : Nat) (phase : Phase Credit) :
    State Credit :=
  { state with requests := Function.update state.requests request phase }

def State.setSession (state : State Credit) (sessionID : GoString)
    (session : MicrosoftSSOSession) : State Credit :=
  { state with sessions := state.sessions.put sessionID session }

end History

section Sessions

def MicrosoftSSOSession.discard (session : MicrosoftSSOSession) : MicrosoftSSOSession :=
  { session with canceled := true, inMap := false }

def State.discard (state : State Credit) (sessionID : GoString) : State Credit :=
  match state.sessions.get sessionID with
  | some session => if session.inMap then state.setSession sessionID session.discard else state
  | none => state

/-- `removeExpiredMicrosoftSSOSessionsLocked`. -/
def State.removeExpired (state : State Credit) : State Credit :=
  { state with
    sessions := state.sessions.change fun session =>
      if session.inMap ∧ session.expiresAt < state.now then session.discard else session }

/-- `StartMicrosoftSSOLogin`, under an id that is new. -/
def startMicrosoftSSOLogin (state : State Credit) (sessionID : GoString) : State Credit :=
  let state := state.removeExpired
  let inMap := state.sessions.keep fun _ session => session.inMap
  if microsoftSSOMaxSessions ≤ inMap.size ∨ state.sessions.get sessionID ≠ none ∨
      sessionID = [] then
    state
  else
    state.setSession sessionID
      ⟨state.now + microsoftSSOSessionTTL, .waitingForPortal, false, true, false⟩

/-- The timer of a session. -/
def timeout (state : State Credit) (sessionID : GoString) : State Credit :=
  match state.sessions.get sessionID with
  | some session => if session.expiresAt ≤ state.now then state.discard sessionID else state
  | none => state

/-- `getMicrosoftSSOSession`. -/
def arrive (state : State Credit) (request : Nat) (sessionID : GoString) : State Credit :=
  match state.requests request, state.sessions.get sessionID with
  | .idle, some session =>
      if session.inMap = false then state
      else if session.expiresAt < state.now then state.discard sessionID
      else state.setRequest request (.waiting sessionID)
  | _, _ => state

/-- `ContinueMicrosoftSSOLogin` up to its leg. -/
def enter (state : State Credit) (request : Nat) : State Credit :=
  match state.requests request with
  | .waiting sessionID =>
      match state.sessions.get sessionID with
      | some session =>
          if session.locked then state
          else if session.canceled then state.setRequest request .idle
          else if session.expiresAt < state.now then
            (state.discard sessionID).setRequest request .idle
          else
            (state.setSession sessionID { session with locked := true }).setRequest request
              (.answering sessionID session.stage)
      | none => state
  | _ => state

def completedAccount [Zero Credit] (result : MicrosoftSSOResult) (accountID machineID : GoString) :
    Account Credit :=
  { (newAccount accountID : Account Credit) with
    email := result.email
    userId := result.userID
    accessToken := result.accessToken
    refreshToken := result.refreshToken
    clientID := result.clientID
    authMethod := lit "external_idp"
    provider := lit "AzureAD"
    region := lit "us-east-1"
    expiresAt := result.expiresAt
    enabled := true
    machineId := machineID
    tokenEndpoint := result.tokenEndpoint
    issuerURL := result.issuerURL
    scopes := result.scopes }

/-- The end of a leg; a session canceled in the meantime is retired. -/
def answer [Zero Credit] (state : State Credit) (request : Nat) (leg : Leg) : State Credit :=
  match state.requests request with
  | .answering sessionID stage =>
      match state.sessions.get sessionID with
      | some session =>
          let unlocked := { session with locked := false }
          match stage, leg with
          | .waitingForPortal, .authorized =>
              (state.setSession sessionID
                (if session.canceled then unlocked.discard
                else { unlocked with stage := .waitingForProvider })).setRequest request .idle
          | .waitingForProvider, .exchanged result accountID machineID =>
              if session.canceled then
                (state.setSession sessionID unlocked.discard).setRequest request .idle
              else if state.history.owner accountID ≠ none ∨
                  state.accounts.any (hasId accountID) = true then state
              else
                { state with
                  history :=
                    { state.history with
                      owner := Function.update state.history.owner accountID (some sessionID) }
                }.setSession sessionID unlocked.discard |>.setRequest request
                  (.returned sessionID (completedAccount result accountID machineID))
          | _, .failed retired =>
              (state.setSession sessionID
                (if retired then unlocked.discard else unlocked)).setRequest request .idle
          | _, _ => state
      | none => state
  | _ => state

end Sessions

section Flows

def MicrosoftFlows.canceledLocked (flows : MicrosoftFlows Credit) (sessionID : GoString)
    (now : Nat) : Bool :=
  (flows.canceled.get sessionID).any fun expiry => decide (now < expiry)

/-- It refuses a canceled session, and a second completion of one session at a time. -/
def beginDiscovery (state : State Credit) (request : Nat) : State Credit :=
  match state.requests request with
  | .returned sessionID account =>
      if state.flows.canceledLocked sessionID state.now ∨
          state.flows.discoveries.get sessionID ≠ none then
        state.setRequest request .idle
      else
        { state with
          flows :=
            { state.flows with discoveries := state.flows.discoveries.put sessionID request }
        }.setRequest request (.discovering sessionID account)
  | _ => state

/-- What `DiscoverKiroProfiles` found, and `endDiscovery`. -/
def discovered (state : State Credit) (request : Nat) (profiles : List GoString)
    (clientGone : Bool) : State Credit :=
  match state.requests request with
  | .discovering sessionID account =>
      { state with
        flows := { state.flows with discoveries := state.flows.discoveries.erase sessionID }
        history :=
          { state.history with
            offered := profiles.map (fun arn => (sessionID, arn)) ++ state.history.offered }
      }.setRequest request
        (if clientGone then .idle else .discovered sessionID account profiles)
  | _ => state

def isExternalIdpAccount (account : Account Credit) : Bool :=
  equalFoldASCII (trimSpace account.authMethod) (lit "external_idp")

inductive AddError where
  | canceled
  | accountExists
  | notSaved

def withProfile (account : Account Credit) (profileARN : GoString) : Account Credit :=
  { account with profileArn := profileARN }

/-- `addAccountLocked`. The account is in the list before `AddAccount` saves it. -/
def addAccountLocked (state : State Credit) (sessionID : GoString) (account : Account Credit)
    (selected saved : Bool) : State Credit × Option AddError :=
  if state.flows.canceledLocked sessionID state.now then (state, some .canceled)
  else if account.userId ≠ [] ∧
      state.accounts.any (fun existing =>
        isExternalIdpAccount existing && existing.userId == account.userId) = true then
    (state, some .accountExists)
  else
    ({ state with
        accounts := state.accounts ++ [account]
        history :=
          { state.history with
            added := ⟨sessionID, account, selected, state.now, state.history.barred sessionID,
              state.accounts⟩ :: state.history.added } },
      if saved then none else some .notSaved)

/-- The selections that have not expired. -/
def MicrosoftFlows.openSelections (flows : MicrosoftFlows Credit) (now : Nat) :
    Table GoString (MicrosoftSelection Credit) :=
  flows.selections.keep fun _ selection => decide (now < selection.expiresAt)

/-- The end of `apiCompleteMicrosoftSSO`; a selection is stored under an id that is new. -/
def finish (state : State Credit) (request : Nat) (selectionID : GoString) (saved : Bool) :
    State Credit :=
  match state.requests request with
  | .discovered sessionID account profiles =>
      if state.flows.canceledLocked sessionID state.now then state.setRequest request .idle
      else if 1 < profiles.length then
        let selections := state.flows.openSelections state.now
        if microsoftMaxSelections ≤ selections.size then
          { state with flows := { state.flows with selections := selections } }.setRequest request
            .idle
        else if selections.get selectionID ≠ none then state
        else
          { state with
            flows :=
              { state.flows with
                selections := selections.put selectionID
                  ⟨sessionID, account, profiles, state.now + microsoftSelectionTTL⟩ }
          }.setRequest request .idle
      else
        (addAccountLocked state sessionID (withProfile account (profiles.head?.getD [])) false
          saved).1.setRequest request .idle
  | _ => state

def State.dropSelection (state : State Credit) (selectionID : GoString) : State Credit :=
  { state with
    flows := { state.flows with selections := state.flows.selections.erase selectionID } }

/-- `apiSelectMicrosoftSSOProfile`. -/
def select (state : State Credit) (selectionID profileARN : GoString) (saved : Bool) :
    State Credit :=
  match state.flows.selections.get selectionID with
  | none => state
  | some selection =>
      if selection.expiresAt ≤ state.now then state.dropSelection selectionID
      else if profileARN ∉ selection.profiles then state
      else
        let added := addAccountLocked state selection.sessionID
          (withProfile selection.account profileARN) true saved
        match added.2 with
        | some .canceled => added.1.dropSelection selectionID
        | some _ => added.1
        | none => added.1.dropSelection selectionID

/-- The tombstone that expires first; where times are equal, the first one visited. -/
def oldestCanceled (visited : List (GoString × Nat)) : GoString :=
  (visited.foldl (fun (oldest : GoString × Nat) entry =>
    if oldest.1 = [] ∨ entry.2 < oldest.2 then entry else oldest) ([], 0)).1

/-- The tombstones with the one of a cancel at a time. -/
def MicrosoftFlows.bury (range : MapRange (GoString × Nat)) (flows : MicrosoftFlows Credit)
    (sessionID : GoString) (now : Nat) : Table GoString Nat :=
  let canceled := flows.canceled.keep fun _ expiry => decide (now < expiry)
  let canceled :=
    if microsoftMaxCanceled ≤ canceled.size then
      canceled.erase (oldestCanceled (range.visit canceled.entries))
    else canceled
  canceled.put sessionID (now + microsoftCanceledTTL)

/-- A cancel of a session at a time; a selection may be named with it. -/
def State.bury (range : MapRange (GoString × Nat)) (state : State Credit)
    (sessionID selectionID : GoString) (now : Nat) : State Credit :=
  let named := (state.flows.selections.get selectionID).map (·.sessionID)
  { state with
    flows :=
      { state.flows with
        selections := (state.flows.selections.erase selectionID).keep
          fun _ selection => decide (selection.sessionID ≠ sessionID)
        canceled := state.flows.bury range sessionID now }
    history :=
      { state.history with
        barred := fun other =>
          if other = sessionID then some (.till (now + microsoftCanceledTTL))
          else if named = some other then some .forever
          else state.history.barred other
        cancels := now :: state.history.cancels } }

/-- `cancel`, whose time is taken before it waits for the lock. -/
def cancel (range : MapRange (GoString × Nat)) (state : State Credit)
    (sessionID selectionID : GoString) (waited : Nat) : State Credit :=
  let now := state.now - waited
  let named := (state.flows.selections.get selectionID).map (·.sessionID)
  let sessionID := if sessionID = [] then named.getD [] else sessionID
  if sessionID = [] then state.dropSelection selectionID
  else (state.bury range sessionID selectionID now).discard sessionID

def step [Zero Credit] (range : MapRange (GoString × Nat)) (state : State Credit) :
    Event → State Credit
  | .advance seconds => { state with now := state.now + seconds }
  | .start sessionID => startMicrosoftSSOLogin state sessionID
  | .timeout sessionID => timeout state sessionID
  | .arrive request sessionID => arrive state request sessionID
  | .enter request => enter state request
  | .answer request leg => answer state request leg
  | .beginDiscovery request => beginDiscovery state request
  | .discovered request profiles clientGone => discovered state request profiles clientGone
  | .finish request selectionID saved => finish state request selectionID saved
  | .select selectionID profileARN saved => select state selectionID profileARN saved
  | .cancel sessionID selectionID waited => cancel range state sessionID selectionID waited

end Flows

end KiroProxy.MicrosoftSSO
