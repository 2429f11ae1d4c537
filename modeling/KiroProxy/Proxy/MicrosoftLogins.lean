import KiroProxy.Proxy.MicrosoftFlows

/-!
# Logins of Microsoft sign-in

A login is in one place at a time: with the request that received its credential, or with a
stored selection. Nothing brings it back to a session, and only a step that adds its account or
drops it takes it away.
-/

namespace KiroProxy.MicrosoftSSO

open Accounts Foundation.Tables GoStrings

set_option autoImplicit false

variable {Credit : Type}

section Logins

/-- A login whose account can still be added. -/
structure Login (Credit : Type) where
  sessionID : GoString
  account : Account Credit
  profiles : List GoString

inductive Place where
  | request (number : Nat)
  | selection (id : GoString)
  deriving DecidableEq

def Phase.login : Phase Credit → Option (Login Credit)
  | .returned sessionID account => some ⟨sessionID, account, []⟩
  | .discovering sessionID account => some ⟨sessionID, account, []⟩
  | .discovered sessionID account profiles => some ⟨sessionID, account, profiles⟩
  | _ => none

def MicrosoftSelection.login (selection : MicrosoftSelection Credit) : Login Credit :=
  ⟨selection.sessionID, selection.account, selection.profiles⟩

def State.login (state : State Credit) : Place → Option (Login Credit)
  | .request number => (state.requests number).login
  | .selection id => (state.flows.selections.get id).map MicrosoftSelection.login

@[simp] theorem login_request (state : State Credit) (number : Nat) :
    state.login (.request number) = (state.requests number).login := rfl

@[simp] theorem login_selection (state : State Credit) (id : GoString) :
    state.login (.selection id) =
      (state.flows.selections.get id).map MicrosoftSelection.login := rfl

theorem login_setRequest (state : State Credit) (number : Nat) (phase : Phase Credit)
    (place : Place) : (state.setRequest number phase).login place =
      if place = .request number then phase.login else state.login place := by
  cases place with
  | selection id => rfl
  | request other =>
      change (Function.update state.requests number phase other).login = _
      by_cases same : other = number
      · rw [same, Function.update_self, if_pos rfl]
      · rw [Function.update_of_ne same, if_neg (by simpa using same)]
        rfl

/-- The session gives no further credential. -/
def Consumed (sessions : Table GoString MicrosoftSSOSession) (sessionID : GoString) : Prop :=
  ∃ session, sessions.get sessionID = some session ∧ session.canceled = true

def State.addedSessions (state : State Credit) : List GoString :=
  state.history.added.map (·.sessionID)

/-- An account of Microsoft with that user is in the list. -/
def knownUser (accounts : List (Account Credit)) (userID : GoString) : Bool :=
  accounts.any fun existing => isExternalIdpAccount existing && existing.userId == userID

/-- What the requests are to keep: a canceled session adds nothing until its tombstone expires, a
session adds one account, a selected profile was offered, and no user is added twice. -/
structure FlowHolds (history : History Credit) : Prop where
  quiet : ∀ added ∈ history.added, ∀ bar, added.bar = some bar →
    ∃ expiry, bar = .till expiry ∧ expiry ≤ added.now
  once : (history.added.map (·.sessionID)).Nodup
  offered : ∀ added ∈ history.added, added.selected = true →
    (added.sessionID, added.account.profileArn) ∈ history.offered
  distinct : ∀ added ∈ history.added, added.account.userId ≠ [] →
    knownUser added.stored added.account.userId = false

/-- What holds between requests. -/
structure Tracked (state : State Credit) : Prop where
  holds : FlowHolds state.history
  apart : ∀ one other login another, state.login one = some login →
    state.login other = some another → login.sessionID = another.sessionID → one = other
  consumed : ∀ place login, state.login place = some login →
    Consumed state.sessions login.sessionID
  owned : ∀ place login, state.login place = some login →
    state.history.owner login.account.id = some login.sessionID
  outside : ∀ place login, state.login place = some login →
    isExternalIdpAccount login.account = true
  listed : ∀ place login, state.login place = some login →
    ∀ arn ∈ login.profiles, (login.sessionID, arn) ∈ state.history.offered
  spent : ∀ sessionID ∈ state.addedSessions, Consumed state.sessions sessionID
  stopped : ∀ place login, state.login place = some login →
    login.sessionID ∈ state.addedSessions →
      (∃ id, place = .selection id) ∧ state.accounts.any (hasId login.account.id) = true ∧
        (login.account.userId ≠ [] → knownUser state.accounts login.account.userId = true)
  accounted : ∀ account ∈ state.accounts, ∀ sessionID,
    state.history.owner account.id = some sessionID → sessionID ∈ state.addedSessions
  forever : ∀ sessionID, state.history.barred sessionID = some .forever →
    Consumed state.sessions sessionID ∧
      ∀ place login, state.login place = some login → login.sessionID ≠ sessionID
  till : ∀ sessionID expiry, state.history.barred sessionID = some (.till expiry) →
    state.flows.canceled.get sessionID = some expiry ∨ expiry ≤ state.now
  tombstones : (state.flows.canceled.entries.map Prod.snd).Subperm
    (state.history.cancels.map (· + microsoftCanceledTTL))
  named : state.flows.canceled.get [] = none

theorem tracked_start (accounts : List (Account Credit)) : Tracked (State.start accounts) where
  holds := by constructor <;> simp [State.start]
  apart := by
    intro one _ login _ here
    cases one <;> simp [State.start, Phase.login] at here
  consumed := by
    intro place login here
    cases place <;> simp [State.start, Phase.login] at here
  owned := by
    intro place login here
    cases place <;> simp [State.start, Phase.login] at here
  outside := by
    intro place login here
    cases place <;> simp [State.start, Phase.login] at here
  listed := by
    intro place login here
    cases place <;> simp [State.start, Phase.login] at here
  spent := by simp [State.start, State.addedSessions]
  stopped := by
    intro place login here
    cases place <;> simp [State.start, Phase.login] at here
  accounted := by simp [State.start]
  forever := by simp [State.start]
  till := by simp [State.start]
  tombstones := List.nil_subperm
  named := rfl

end Logins

section Carrying

/-- What a step that adds no account and cancels nothing does: every login comes from one that
was there, perhaps in another place, and sessions stay consumed. -/
theorem Tracked.carry {before after : State Credit} (tracked : Tracked before)
    (origin : Place → Place)
    (held : ∀ place login, after.login place = some login → ∃ earlier,
      before.login (origin place) = some earlier ∧ earlier.sessionID = login.sessionID ∧
        earlier.account = login.account ∧ ∀ arn ∈ login.profiles,
          arn ∈ earlier.profiles ∨ (login.sessionID, arn) ∈ after.history.offered)
    (separate : ∀ one other, after.login one ≠ none → after.login other ≠ none →
      origin one = origin other → one = other)
    (stays : ∀ place id, origin place = .selection id → ∃ other, place = .selection other)
    (sessions : ∀ sessionID, Consumed before.sessions sessionID →
      Consumed after.sessions sessionID)
    (now : before.now ≤ after.now) (accounts : after.accounts = before.accounts)
    (history : after.history = { before.history with offered := after.history.offered })
    (offered : ∀ pair ∈ before.history.offered, pair ∈ after.history.offered)
    (canceled : after.flows.canceled = before.flows.canceled) : Tracked after := by
  have added : after.history.added = before.history.added := by rw [history]
  have owner : after.history.owner = before.history.owner := by rw [history]
  have barred : after.history.barred = before.history.barred := by rw [history]
  have cancels : after.history.cancels = before.history.cancels := by rw [history]
  have addedSessions : after.addedSessions = before.addedSessions := by
    rw [State.addedSessions, added]
    rfl
  constructor
  case holds =>
    constructor
    · rw [added]
      exact tracked.holds.quiet
    · rw [added]
      exact tracked.holds.once
    · intro one member selected
      rw [added] at member
      exact offered _ (tracked.holds.offered one member selected)
    · rw [added]
      exact tracked.holds.distinct
  case apart =>
    intro one other login another here there same
    obtain ⟨earlier, at_one, session, -⟩ := held one login here
    obtain ⟨prior, at_other, session', -⟩ := held other another there
    apply separate one other
    · rw [here]
      exact Option.some_ne_none login
    · rw [there]
      exact Option.some_ne_none another
    · apply tracked.apart _ _ earlier prior at_one at_other
      rw [session, session', same]
  case consumed =>
    intro place login here
    obtain ⟨earlier, there, session, -⟩ := held place login here
    rw [← session]
    exact sessions _ (tracked.consumed _ earlier there)
  case owned =>
    intro place login here
    obtain ⟨earlier, there, session, account, -⟩ := held place login here
    rw [owner, ← session, ← account]
    exact tracked.owned _ earlier there
  case outside =>
    intro place login here
    obtain ⟨earlier, there, -, account, -⟩ := held place login here
    rw [← account]
    exact tracked.outside _ earlier there
  case listed =>
    intro place login here arn member
    obtain ⟨earlier, there, session, -, profiles⟩ := held place login here
    cases profiles arn member with
    | inl before =>
        rw [← session]
        exact offered _ (tracked.listed _ earlier there arn before)
    | inr now => exact now
  case spent =>
    intro sessionID member
    rw [addedSessions] at member
    exact sessions sessionID (tracked.spent sessionID member)
  case stopped =>
    intro place login here member
    obtain ⟨earlier, there, session, account, -⟩ := held place login here
    rw [addedSessions, ← session] at member
    obtain ⟨⟨id, selection⟩, blocked⟩ := tracked.stopped _ earlier there member
    rw [accounts, ← account]
    exact ⟨stays place id selection, blocked⟩
  case accounted =>
    rw [accounts, owner, addedSessions]
    exact tracked.accounted
  case forever =>
    intro sessionID bar
    rw [barred] at bar
    obtain ⟨consumed, gone⟩ := tracked.forever sessionID bar
    refine ⟨sessions sessionID consumed, ?_⟩
    intro place login here
    obtain ⟨earlier, there, session, -⟩ := held place login here
    rw [← session]
    exact gone _ earlier there
  case till =>
    intro sessionID expiry bar
    rw [barred] at bar
    rw [canceled]
    exact (tracked.till sessionID expiry bar).imp_right fun past => past.trans now
  case tombstones =>
    rw [canceled, cancels]
    exact tracked.tombstones
  case named =>
    rw [canceled]
    exact tracked.named

/-- The logins of a step that leaves them where they are, or drops some. -/
theorem Tracked.fewer {before after : State Credit} (tracked : Tracked before)
    (held : ∀ place login, after.login place = some login → before.login place = some login)
    (sessions : ∀ sessionID, Consumed before.sessions sessionID →
      Consumed after.sessions sessionID)
    (now : before.now ≤ after.now) (accounts : after.accounts = before.accounts)
    (history : after.history = before.history)
    (canceled : after.flows.canceled = before.flows.canceled) : Tracked after := by
  apply tracked.carry id
  · intro place login here
    exact ⟨login, held place login here, rfl, rfl, fun arn member => .inl member⟩
  · exact fun one other _ _ same => same
  · exact fun place id same => ⟨id, same⟩
  · exact sessions
  · exact now
  · exact accounts
  · rw [history]
  · rw [history]
    exact fun pair member => member
  · exact canceled

theorem Tracked.withSessions {state : State Credit} (tracked : Tracked state)
    (sessions : Table GoString MicrosoftSSOSession)
    (kept : ∀ sessionID, Consumed state.sessions sessionID → Consumed sessions sessionID) :
    Tracked { state with sessions := sessions } := by
  apply tracked.fewer
  · intro place login here
    cases place <;> exact here
  · exact kept
  · exact le_refl state.now
  · rfl
  · rfl
  · rfl

theorem Tracked.setRequest {state : State Credit} (tracked : Tracked state) (number : Nat)
    (phase : Phase Credit)
    (same : phase.login = none ∨ phase.login = (state.requests number).login) :
    Tracked (state.setRequest number phase) := by
  apply tracked.fewer
  · intro place login here
    rw [login_setRequest] at here
    split_ifs at here with there
    · cases same with
      | inl none =>
          rw [none] at here
          exact absurd here (by simp)
      | inr same =>
          rw [there, login_request, ← same]
          exact here
    · exact here
  · exact fun sessionID consumed => consumed
  · exact le_refl state.now
  · rfl
  · rfl
  · rfl

theorem Tracked.withSelections {state : State Credit} (tracked : Tracked state)
    (selections : Table GoString (MicrosoftSelection Credit))
    (kept : ∀ id selection, selections.get id = some selection →
      state.flows.selections.get id = some selection) :
    Tracked { state with flows := { state.flows with selections := selections } } := by
  apply tracked.fewer
  · intro place login here
    cases place with
    | request number => exact here
    | selection id =>
        obtain ⟨selection, there, same⟩ := Option.map_eq_some_iff.mp here
        rw [login_selection, kept id selection there, Option.map_some, same]
  · exact fun sessionID consumed => consumed
  · exact le_refl state.now
  · rfl
  · rfl
  · rfl

end Carrying

section Sessions

theorem consumed_put {sessions : Table GoString MicrosoftSSOSession} (sessionID : GoString)
    (session : MicrosoftSSOSession)
    (kept : ∀ old, sessions.get sessionID = some old → old.canceled = true →
      session.canceled = true) (other : GoString) (consumed : Consumed sessions other) :
    Consumed (sessions.put sessionID session) other := by
  obtain ⟨old, here, canceled⟩ := consumed
  rw [Consumed, get_put]
  split_ifs with same
  · exact ⟨session, rfl, kept old (same ▸ here) canceled⟩
  · exact ⟨old, here, canceled⟩

theorem Tracked.setSession {state : State Credit} (tracked : Tracked state)
    (sessionID : GoString) (session : MicrosoftSSOSession)
    (kept : ∀ old, state.sessions.get sessionID = some old → old.canceled = true →
      session.canceled = true) : Tracked (state.setSession sessionID session) :=
  tracked.withSessions _ (consumed_put sessionID session kept)

theorem discard_canceled (session : MicrosoftSSOSession) : session.discard.canceled = true := rfl

theorem Tracked.discard {state : State Credit} (tracked : Tracked state)
    (sessionID : GoString) : Tracked (state.discard sessionID) := by
  unfold State.discard
  split
  · split
    · apply tracked.setSession
      intro _ _ _
      exact discard_canceled _
    · exact tracked
  · exact tracked

theorem Tracked.removeExpired {state : State Credit} (tracked : Tracked state) :
    Tracked state.removeExpired := by
  apply tracked.withSessions
  rintro sessionID ⟨session, here, canceled⟩
  rw [Consumed, get_change, here]
  refine ⟨_, rfl, ?_⟩
  dsimp only
  split
  · rfl
  · exact canceled

theorem Tracked.startLogin {state : State Credit} (tracked : Tracked state)
    (sessionID : GoString) : Tracked (startMicrosoftSSOLogin state sessionID) := by
  unfold startMicrosoftSSOLogin
  dsimp only
  split
  · exact tracked.removeExpired
  · rename_i admitted
    apply tracked.removeExpired.setSession
    intro old there _
    exact absurd there fun there => admitted (.inr (.inl (by simp [there])))

theorem Tracked.timeout {state : State Credit} (tracked : Tracked state)
    (sessionID : GoString) : Tracked (timeout state sessionID) := by
  unfold MicrosoftSSO.timeout
  split
  · split
    · exact tracked.discard sessionID
    · exact tracked
  · exact tracked

theorem Tracked.arrive {state : State Credit} (tracked : Tracked state) (number : Nat)
    (sessionID : GoString) : Tracked (arrive state number sessionID) := by
  unfold MicrosoftSSO.arrive
  split
  · split_ifs
    · exact tracked
    · exact tracked.discard sessionID
    · exact tracked.setRequest number _ (.inl rfl)
  · exact tracked

theorem Tracked.enter {state : State Credit} (tracked : Tracked state) (number : Nat) :
    Tracked (enter state number) := by
  unfold MicrosoftSSO.enter
  split
  · split
    · rename_i session there
      split_ifs
      · exact tracked
      · exact tracked.setRequest number _ (.inl rfl)
      · exact (tracked.discard _).setRequest number _ (.inl rfl)
      · apply Tracked.setRequest _ number _ (.inl rfl)
        apply tracked.setSession
        intro old here canceled
        rw [there, Option.some_inj] at here
        exact here ▸ canceled
    · exact tracked
  · exact tracked

end Sessions

section Exchange

variable [Zero Credit]

theorem completed_outside (result : MicrosoftSSOResult) (accountID machineID : GoString) :
    isExternalIdpAccount (completedAccount result accountID machineID : Account Credit) =
      true := by
  change equalFoldASCII (trimSpace (lit "external_idp")) (lit "external_idp") = true
  decide +kernel

omit [Zero Credit] in
/-- The logins behind an exchange are the earlier ones and that of the request. -/
theorem login_exchanged (state : State Credit) (history : History Credit) (number : Nat)
    (sessionID : GoString) (session : MicrosoftSSOSession) (account : Account Credit)
    (place : Place) (login : Login Credit)
    (at_place : (({ state with history := history }.setSession sessionID session).setRequest
      number (.returned sessionID account)).login place = some login) :
    (place = .request number ∧ login = ⟨sessionID, account, []⟩) ∨
      state.login place = some login := by
  rw [login_setRequest] at at_place
  split_ifs at at_place with same
  · exact .inl ⟨same, (Option.some_inj.mp at_place).symm⟩
  · refine .inr ?_
    cases place <;> exact at_place

omit [Zero Credit] in
/-- Two logins have two sessions where one comes from a session that has given none. -/
theorem Tracked.apart_joined {state : State Credit} (tracked : Tracked state)
    (sessionID : GoString) (unspent : ¬ Consumed state.sessions sessionID) (place : Place)
    (one other : Place) (login another : Login Credit)
    (at_one : (one = place ∧ login.sessionID = sessionID) ∨ state.login one = some login)
    (at_other : (other = place ∧ another.sessionID = sessionID) ∨
      state.login other = some another)
    (same : login.sessionID = another.sessionID) : one = other := by
  obtain ⟨one_new, login_new⟩ | one_old := at_one
  · obtain ⟨other_new, -⟩ | other_old := at_other
    · rw [one_new, other_new]
    · have given := tracked.consumed other another other_old
      rw [← same, login_new] at given
      exact absurd given unspent
  · obtain ⟨-, another_new⟩ | other_old := at_other
    · have given := tracked.consumed one login one_old
      rw [same, another_new] at given
      exact absurd given unspent
    · exact tracked.apart one other login another one_old other_old same

/-- A credential comes from a session that has given none, under an account id that is new. -/
theorem Tracked.exchange {state : State Credit} (tracked : Tracked state) (number : Nat)
    (sessionID : GoString) (session unlocked : MicrosoftSSOSession)
    (here : state.sessions.get sessionID = some session) (live : session.canceled = false)
    (result : MicrosoftSSOResult) (accountID machineID : GoString)
    (unowned : state.history.owner accountID = none)
    (unused : state.accounts.any (hasId accountID) = false) :
    Tracked ({ state with
        history :=
          { state.history with
            owner := Function.update state.history.owner accountID (some sessionID) }
      }.setSession sessionID unlocked.discard |>.setRequest number
        (.returned sessionID (completedAccount result accountID machineID))) := by
  have unspent : ¬ Consumed state.sessions sessionID := by
    rintro ⟨old, there, canceled⟩
    rw [here, Option.some_inj] at there
    rw [there, canceled] at live
    exact Bool.noConfusion live
  have kept : ∀ other, Consumed state.sessions other →
      Consumed (state.sessions.put sessionID unlocked.discard) other :=
    consumed_put sessionID unlocked.discard fun _ _ _ => discard_canceled unlocked
  have split := login_exchanged state
    { state.history with owner := Function.update state.history.owner accountID (some sessionID) }
    number sessionID unlocked.discard (completedAccount result accountID machineID)
  have owned : ∀ id owner, state.history.owner id = some owner →
      Function.update state.history.owner accountID (some sessionID) id = some owner := by
    intro id owner owns
    rw [Function.update_of_ne]
    · exact owns
    · intro same
      rw [same, unowned] at owns
      exact absurd owns (by simp)
  constructor
  case holds =>
    exact ⟨tracked.holds.quiet, tracked.holds.once, tracked.holds.offered,
      tracked.holds.distinct⟩
  case apart =>
    intro one other login another at_one at_other same
    refine tracked.apart_joined sessionID unspent (.request number) one other login another
      ?_ ?_ same
    · exact (split one login at_one).imp_left fun ⟨place, new⟩ => ⟨place, new ▸ rfl⟩
    · exact (split other another at_other).imp_left fun ⟨place, new⟩ => ⟨place, new ▸ rfl⟩
  case consumed =>
    intro place login at_place
    obtain ⟨-, new⟩ | old := split place login at_place
    · rw [new]
      exact ⟨unlocked.discard, by
        change (state.sessions.put sessionID unlocked.discard).get sessionID = _
        rw [get_put, if_pos rfl], rfl⟩
    · exact kept _ (tracked.consumed place login old)
  case owned =>
    intro place login at_place
    obtain ⟨-, new⟩ | old := split place login at_place
    · rw [new]
      exact Function.update_self accountID _ _
    · exact owned _ _ (tracked.owned place login old)
  case outside =>
    intro place login at_place
    obtain ⟨-, new⟩ | old := split place login at_place
    · rw [new]
      exact completed_outside result accountID machineID
    · exact tracked.outside place login old
  case listed =>
    intro place login at_place arn member
    obtain ⟨-, new⟩ | old := split place login at_place
    · rw [new] at member
      exact absurd member List.not_mem_nil
    · exact tracked.listed place login old arn member
  case spent =>
    intro other member
    exact kept other (tracked.spent other member)
  case stopped =>
    intro place login at_place member
    obtain ⟨-, new⟩ | old := split place login at_place
    · rw [new] at member
      exact absurd (tracked.spent sessionID member) unspent
    · exact tracked.stopped place login old member
  case accounted =>
    intro account member other owns
    have apart : account.id ≠ accountID := by
      intro same
      rw [List.any_eq_false] at unused
      exact unused account member (by rw [hasId, same, beq_self_eq_true])
    change Function.update state.history.owner accountID (some sessionID) account.id = _ at owns
    rw [Function.update_of_ne apart] at owns
    exact tracked.accounted account member other owns
  case forever =>
    intro other bar
    obtain ⟨consumed, gone⟩ := tracked.forever other bar
    refine ⟨kept other consumed, ?_⟩
    intro place login at_place
    obtain ⟨-, new⟩ | old := split place login at_place
    · rw [new]
      intro same
      rw [← same] at consumed
      exact unspent consumed
    · exact gone place login old
  case till => exact tracked.till
  case tombstones => exact tracked.tombstones
  case named => exact tracked.named

theorem Tracked.answer {state : State Credit} (tracked : Tracked state) (number : Nat)
    (leg : Leg) : Tracked (answer state number leg) := by
  unfold MicrosoftSSO.answer
  split
  · split
    · rename_i sessionID _ _ _ session here
      have kept : ∀ changed : MicrosoftSSOSession,
          (session.canceled = true → changed.canceled = true) → ∀ old,
            state.sessions.get sessionID = some old → old.canceled = true →
              changed.canceled = true := by
        intro changed follows old there canceled
        rw [here, Option.some_inj] at there
        exact follows (there ▸ canceled)
      dsimp only
      split
      · apply Tracked.setRequest _ number _ (.inl rfl)
        apply tracked.setSession
        apply kept
        split_ifs with canceled
        · exact fun _ => rfl
        · exact fun canceled' => canceled'
      · split_ifs with canceled taken
        · apply Tracked.setRequest _ number _ (.inl rfl)
          exact tracked.setSession _ _ (kept _ fun _ => rfl)
        · exact tracked
        · push Not at taken
          apply tracked.exchange number _ session _ here
          · simpa using canceled
          · exact taken.1
          · simpa using taken.2
      · apply Tracked.setRequest _ number _ (.inl rfl)
        apply tracked.setSession
        apply kept
        split_ifs
        · exact fun _ => rfl
        · exact fun canceled => canceled
      · exact tracked
    · exact tracked
  · exact tracked

end Exchange

section Discovery

theorem Tracked.withDiscoveries {state : State Credit} (tracked : Tracked state)
    (discoveries : Table GoString Nat) :
    Tracked { state with flows := { state.flows with discoveries := discoveries } } := by
  apply tracked.fewer
  · intro place login here
    cases place <;> exact here
  · exact fun sessionID consumed => consumed
  · exact le_refl state.now
  · rfl
  · rfl
  · rfl

theorem Tracked.beginDiscovery {state : State Credit} (tracked : Tracked state)
    (number : Nat) : Tracked (beginDiscovery state number) := by
  unfold MicrosoftSSO.beginDiscovery
  split
  · rename_i sessionID account phase
    split_ifs
    · exact tracked.setRequest number _ (.inl rfl)
    · apply (tracked.withDiscoveries _).setRequest
      refine .inr ?_
      change _ = (state.requests number).login
      rw [phase]
      rfl
  · exact tracked

theorem Tracked.discovered {state : State Credit} (tracked : Tracked state) (number : Nat)
    (profiles : List GoString) (clientGone : Bool) :
    Tracked (discovered state number profiles clientGone) := by
  unfold MicrosoftSSO.discovered
  split
  · rename_i sessionID account phase
    apply tracked.carry id
    · intro place login here
      rw [login_setRequest] at here
      split_ifs at here with there gone
      · exact absurd here (by simp [Phase.login])
      · obtain rfl := Option.some_inj.mp here
        refine ⟨⟨sessionID, account, []⟩, ?_, rfl, rfl, ?_⟩
        · rw [id, there, login_request, phase]
          rfl
        · intro arn member
          refine .inr (List.mem_append_left _ ?_)
          exact List.mem_map_of_mem member
      · refine ⟨login, ?_, rfl, rfl, fun arn member => .inl member⟩
        cases place <;> exact here
    · exact fun one other _ _ same => same
    · exact fun place id same => ⟨id, same⟩
    · exact fun sessionID consumed => consumed
    · exact le_refl state.now
    · rfl
    · rfl
    · exact fun pair member => List.mem_append_right _ member
    · rfl
  · exact tracked

/-- The login of a request goes to a new selection. -/
theorem Tracked.store {state : State Credit} (tracked : Tracked state) (number : Nat)
    (selectionID : GoString) (selection : MicrosoftSelection Credit)
    (here : (state.requests number).login = some selection.login) :
    Tracked ({ state with
      flows :=
        { state.flows with selections := state.flows.selections.put selectionID selection }
      }.setRequest number .idle) := by
  have moved : ∀ place login, ({ state with
      flows :=
        { state.flows with selections := state.flows.selections.put selectionID selection }
      }.setRequest number .idle).login place = some login →
        place ≠ .request number ∧
          if place = .selection selectionID then login = selection.login
          else state.login place = some login := by
    intro place login at_place
    rw [login_setRequest] at at_place
    split_ifs at at_place with same
    · exact absurd at_place (by simp [Phase.login])
    · refine ⟨same, ?_⟩
      cases place with
      | request other => exact at_place
      | selection id =>
          rw [login_selection, get_put] at at_place
          split_ifs at at_place with same
          · rw [if_pos (congrArg _ same)]
            exact (Option.some_inj.mp at_place).symm
          · rw [if_neg (by simpa using same)]
            exact at_place
  apply tracked.carry (Function.update id (.selection selectionID) (.request number))
  · intro place login at_place
    have old := (moved place login at_place).2
    by_cases same : place = .selection selectionID
    · rw [if_pos same] at old
      rw [same, Function.update_self, old]
      exact ⟨selection.login, here, rfl, rfl, fun arn member => .inl member⟩
    · rw [if_neg same] at old
      rw [Function.update_of_ne same]
      exact ⟨login, old, rfl, rfl, fun arn member => .inl member⟩
  · intro one other at_one at_other same
    obtain ⟨login, at_one⟩ := Option.ne_none_iff_exists'.mp at_one
    obtain ⟨another, at_other⟩ := Option.ne_none_iff_exists'.mp at_other
    have one_left := (moved one login at_one).1
    have other_left := (moved other another at_other).1
    rw [Function.update_apply, Function.update_apply] at same
    split_ifs at same with one_new other_new other_new
    · rw [one_new, other_new]
    · exact absurd same.symm other_left
    · exact absurd same one_left
    · exact same
  · intro place id same
    by_cases new : place = .selection selectionID
    · exact ⟨selectionID, new⟩
    · rw [Function.update_of_ne new] at same
      exact ⟨id, same⟩
  · exact fun sessionID consumed => consumed
  · exact le_refl state.now
  · rfl
  · rfl
  · exact fun pair member => member
  · rfl

end Discovery

end KiroProxy.MicrosoftSSO
