import KiroProxy.Foundation.Runs
import KiroProxy.Proxy.MicrosoftLogins

/-!
# Runs of Microsoft sign-in

A login leaves its place when its account is added, so a session adds one account, except that
the selection of an account that could not be saved stays, with the account in the list.
-/

namespace KiroProxy.MicrosoftSSO

open Accounts Foundation.Runs Foundation.Tables GoStrings

set_option autoImplicit false

variable {Credit : Type}

section Adding

/-- The state with an account of a session in the list. -/
def State.withAccount (state : State Credit) (sessionID : GoString) (account : Account Credit)
    (selected : Bool) : State Credit :=
  { state with
    accounts := state.accounts ++ [account]
    history :=
      { state.history with
        added := ⟨sessionID, account, selected, state.now, state.history.barred sessionID,
          state.accounts⟩ :: state.history.added } }

/-- What `addAccountLocked` can do. -/
theorem add_cases (state : State Credit) (sessionID : GoString) (account : Account Credit)
    (selected saved : Bool) :
    (state.flows.canceledLocked sessionID state.now = true ∧
      addAccountLocked state sessionID account selected saved = (state, some .canceled)) ∨
    (state.flows.canceledLocked sessionID state.now = false ∧ account.userId ≠ [] ∧
      knownUser state.accounts account.userId = true ∧
        addAccountLocked state sessionID account selected saved =
          (state, some .accountExists)) ∨
    (state.flows.canceledLocked sessionID state.now = false ∧
      (account.userId ≠ [] → knownUser state.accounts account.userId = false) ∧
        addAccountLocked state sessionID account selected saved =
          (state.withAccount sessionID account selected,
            if saved then none else some .notSaved)) := by
  unfold addAccountLocked
  cases canceled : state.flows.canceledLocked sessionID state.now with
  | true => exact .inl ⟨rfl, if_pos rfl⟩
  | false =>
      refine .inr ?_
      rw [if_neg Bool.false_ne_true]
      by_cases known : account.userId ≠ [] ∧ knownUser state.accounts account.userId = true
      · exact .inl ⟨rfl, known.1, known.2, if_pos known⟩
      · refine .inr ⟨rfl, ?_, if_neg known⟩
        intro named
        cases found : knownUser state.accounts account.userId with
        | false => rfl
        | true => exact absurd ⟨named, found⟩ known

@[simp] theorem with_profile_id (account : Account Credit) (arn : GoString) :
    (withProfile account arn).id = account.id := rfl

@[simp] theorem with_profile_user (account : Account Credit) (arn : GoString) :
    (withProfile account arn).userId = account.userId := rfl

theorem known_append (accounts : List (Account Credit)) (account : Account Credit)
    (userID : GoString) : knownUser (accounts ++ [account]) userID =
      (knownUser accounts userID ||
        (isExternalIdpAccount account && account.userId == userID)) := by
  simp [knownUser]

/-- The requests keep their word about an account of a session that has added none and is not to
stay quiet. -/
theorem Tracked.holds_added {state : State Credit} (tracked : Tracked state) (place : Place)
    (login : Login Credit) (here : state.login place = some login)
    (fresh : login.sessionID ∉ state.addedSessions)
    (live : state.flows.canceledLocked login.sessionID state.now = false)
    (unknown : login.account.userId ≠ [] →
      knownUser state.accounts login.account.userId = false)
    (arn : GoString) (selected : Bool) (chosen : selected = true → arn ∈ login.profiles) :
    FlowHolds { state.history with
      added := ⟨login.sessionID, withProfile login.account arn, selected, state.now,
        state.history.barred login.sessionID, state.accounts⟩ :: state.history.added } := by
  constructor
  case quiet =>
    intro one member bar known
    cases List.mem_cons.mp member with
    | inr old => exact tracked.holds.quiet one old bar known
    | inl new =>
        rw [new] at known ⊢
        cases bar with
        | forever => exact absurd rfl ((tracked.forever _ known).2 place login here)
        | till expiry =>
            refine ⟨expiry, rfl, ?_⟩
            cases tracked.till _ expiry known with
            | inr past => exact past
            | inl buried =>
                rw [MicrosoftFlows.canceledLocked, buried] at live
                simpa using live
  case once => exact List.nodup_cons.mpr ⟨fresh, tracked.holds.once⟩
  case offered =>
    intro one member was
    cases List.mem_cons.mp member with
    | inr old => exact tracked.holds.offered one old was
    | inl new =>
        rw [new] at was ⊢
        exact tracked.listed place login here arn (chosen was)
  case distinct =>
    intro one member named
    cases List.mem_cons.mp member with
    | inr old => exact tracked.holds.distinct one old named
    | inl new =>
        rw [new] at named ⊢
        exact unknown named

/-- A login whose session has added an account is a selection, its account stored. -/
theorem Tracked.stopped_added {state : State Credit} (tracked : Tracked state) (place : Place)
    (login : Login Credit) (here : state.login place = some login) (arn : GoString)
    (other : Place) (another : Login Credit) (there : state.login other = some another)
    (stays : other = place → ∃ id, place = .selection id)
    (member : another.sessionID ∈ login.sessionID :: state.addedSessions) :
    (∃ id, other = .selection id) ∧
      (state.accounts ++ [withProfile login.account arn]).any (hasId another.account.id) = true ∧
        (another.account.userId ≠ [] →
          knownUser (state.accounts ++ [withProfile login.account arn])
            another.account.userId = true) := by
  cases List.mem_cons.mp member with
  | inl new =>
      have same : other = place := tracked.apart other place another login there here new
      rw [same] at there
      obtain rfl := Option.some_inj.mp (here.symm.trans there)
      refine ⟨?_, ?_, ?_⟩
      · rw [same]
        exact stays same
      · simp [hasId]
      · intro _
        rw [known_append]
        have outside : isExternalIdpAccount (withProfile login.account arn) = true :=
          tracked.outside place login here
        simp [outside]
  | inr before =>
      obtain ⟨selection, stored, known⟩ := tracked.stopped other another there before
      refine ⟨selection, ?_, ?_⟩
      · rw [List.any_append, stored, Bool.true_or]
      · intro named
        rw [known_append, known named, Bool.true_or]

/-- The account of a login comes into the list; its session has added none, and is not to stay
quiet. -/
theorem Tracked.add {state after : State Credit} (tracked : Tracked state) (place : Place)
    (login : Login Credit) (here : state.login place = some login)
    (fresh : login.sessionID ∉ state.addedSessions)
    (live : state.flows.canceledLocked login.sessionID state.now = false)
    (unknown : login.account.userId ≠ [] →
      knownUser state.accounts login.account.userId = false)
    (arn : GoString) (selected : Bool) (chosen : selected = true → arn ∈ login.profiles)
    (held : ∀ other another, after.login other = some another →
      state.login other = some another)
    (stays : after.login place ≠ none → ∃ id, place = .selection id)
    (sessions : after.sessions = state.sessions) (now : after.now = state.now)
    (flows : after.flows.canceled = state.flows.canceled)
    (accounts : after.accounts = state.accounts ++ [withProfile login.account arn])
    (history : after.history =
      { state.history with
        added := ⟨login.sessionID, withProfile login.account arn, selected, state.now,
          state.history.barred login.sessionID, state.accounts⟩ :: state.history.added }) :
    Tracked after := by
  have added : after.addedSessions = login.sessionID :: state.addedSessions := by
    rw [State.addedSessions, history]
    rfl
  constructor
  case holds =>
    rw [history]
    exact tracked.holds_added place login here fresh live unknown arn selected chosen
  case apart =>
    intro one other first second at_one at_other same
    exact tracked.apart one other first second (held one first at_one)
      (held other second at_other) same
  case consumed =>
    intro other another there
    rw [sessions]
    exact tracked.consumed other another (held other another there)
  case owned =>
    intro other another there
    rw [history]
    exact tracked.owned other another (held other another there)
  case outside =>
    intro other another there
    exact tracked.outside other another (held other another there)
  case listed =>
    intro other another there
    rw [history]
    exact tracked.listed other another (held other another there)
  case spent =>
    intro sessionID member
    rw [added, List.mem_cons] at member
    rw [sessions]
    cases member with
    | inl new => exact new ▸ tracked.consumed place login here
    | inr old => exact tracked.spent sessionID old
  case stopped =>
    intro other another there member
    rw [accounts]
    rw [added] at member
    refine tracked.stopped_added place login here arn other another (held other another there) ?_
      member
    intro same
    apply stays
    rw [← same, there]
    exact Option.some_ne_none another
  case accounted =>
    intro account member sessionID owns
    rw [added, List.mem_cons]
    rw [history] at owns
    rw [accounts, List.mem_append, List.mem_singleton] at member
    cases member with
    | inl old => exact .inr (tracked.accounted account old sessionID owns)
    | inr new =>
        rw [new] at owns
        have known := tracked.owned place login here
        exact .inl (Option.some_inj.mp (owns.symm.trans known))
  case forever =>
    intro sessionID bar
    rw [history] at bar
    obtain ⟨consumed, gone⟩ := tracked.forever sessionID bar
    rw [sessions]
    exact ⟨consumed, fun other another there => gone other another (held other another there)⟩
  case till =>
    intro sessionID expiry bar
    rw [history] at bar
    rw [flows, now]
    exact tracked.till sessionID expiry bar
  case tombstones =>
    rw [flows, history]
    exact tracked.tombstones
  case named =>
    rw [flows]
    exact tracked.named

theorem Tracked.finish {state : State Credit} (tracked : Tracked state) (number : Nat)
    (selectionID : GoString) (saved : Bool) : Tracked (finish state number selectionID saved) := by
  unfold MicrosoftSSO.finish
  split
  · rename_i sessionID account profiles phase
    have here : state.login (.request number) = some ⟨sessionID, account, profiles⟩ := by
      rw [login_request, phase]
      rfl
    have kept := tracked.withSelections (state.flows.openSelections state.now) (by
      intro id selection there
      rw [MicrosoftFlows.openSelections, get_keep, Option.filter_eq_some_iff] at there
      exact there.1)
    dsimp only
    split_ifs
    · exact tracked.setRequest number _ (.inl rfl)
    · exact kept.setRequest number _ (.inl rfl)
    · exact tracked
    · exact kept.store number selectionID ⟨sessionID, account, profiles, _⟩ here
    · obtain ⟨-, same⟩ | ⟨-, -, -, same⟩ | ⟨live, unknown, same⟩ := add_cases state
        sessionID (withProfile account (profiles.head?.getD [])) false saved
      · rw [same]
        exact tracked.setRequest number _ (.inl rfl)
      · rw [same]
        exact tracked.setRequest number _ (.inl rfl)
      · rw [same]
        dsimp only
        refine tracked.add (.request number) ⟨sessionID, account, profiles⟩ here ?_ live unknown
          (profiles.head?.getD []) false ?_ ?_ ?_ rfl rfl rfl rfl rfl
        · intro member
          obtain ⟨⟨id, selection⟩, -⟩ := tracked.stopped _ _ here member
          exact Place.noConfusion selection
        · intro never
          exact Bool.noConfusion never
        · intro other another there
          rw [login_setRequest] at there
          split_ifs at there
          · exact absurd there (by simp [Phase.login])
          · cases other <;> exact there
        · intro occupied
          rw [login_setRequest, if_pos rfl] at occupied
          exact absurd rfl occupied
  · exact tracked

end Adding

section Selecting

/-- A stored selection that `apiSelectMicrosoftSSOProfile` would complete with the profile. -/
def State.selectable (state : State Credit) (selectionID profileARN : GoString)
    (selection : MicrosoftSelection Credit) : Prop :=
  state.flows.selections.get selectionID = some selection ∧ state.now < selection.expiresAt ∧
    profileARN ∈ selection.profiles ∧
      state.flows.canceledLocked selection.sessionID state.now = false

/-- No selection of a login without a user is completed while its account is in the list. -/
def Careful (state : State Credit) : Event → Prop
  | .select selectionID profileARN _ => ∀ selection,
      state.selectable selectionID profileARN selection → selection.account.userId = [] →
        state.accounts.any (hasId selection.account.id) = false
  | _ => True

theorem Tracked.dropSelection {state : State Credit} (tracked : Tracked state)
    (selectionID : GoString) : Tracked (state.dropSelection selectionID) := by
  apply tracked.withSelections
  intro id selection there
  rw [get_erase] at there
  split_ifs at there
  exact there

theorem Tracked.select {state : State Credit} (tracked : Tracked state)
    (selectionID profileARN : GoString) (saved : Bool)
    (careful : Careful state (.select selectionID profileARN saved)) :
    Tracked (select state selectionID profileARN saved) := by
  unfold MicrosoftSSO.select
  split
  · exact tracked
  · rename_i selection stored
    have here : state.login (.selection selectionID) = some selection.login := by
      rw [login_selection, stored]
      rfl
    dsimp only
    split_ifs with expired offered
    · exact tracked.dropSelection selectionID
    · obtain ⟨-, same⟩ | ⟨-, -, -, same⟩ | ⟨live, unknown, same⟩ := add_cases state
        selection.sessionID (withProfile selection.account profileARN) true saved
      · rw [same]
        exact tracked.dropSelection selectionID
      · rw [same]
        exact tracked
      · have fresh : selection.sessionID ∉ state.addedSessions := by
          intro member
          obtain ⟨-, listed, known⟩ := tracked.stopped _ _ here member
          by_cases named : selection.account.userId = []
          · have absent := careful selection
              ⟨stored, Nat.lt_of_not_le expired, offered, live⟩ named
            rw [← Bool.not_eq_true] at absent
            exact absent listed
          · have unmet := unknown named
            rw [← Bool.not_eq_true] at unmet
            exact unmet (known named)
        rw [same]
        cases saved with
        | true =>
            refine tracked.add (.selection selectionID) selection.login here fresh live unknown
              profileARN true (fun _ => offered) ?_ ?_ rfl rfl rfl rfl rfl
            · intro other another there
              cases other with
              | request number => exact there
              | selection id =>
                  change (Option.map _ ((state.flows.selections.erase selectionID).get id)) = _
                    at there
                  rw [get_erase] at there
                  split_ifs at there
                  · exact absurd there (by simp)
                  · exact there
            · exact fun _ => ⟨selectionID, rfl⟩
        | false =>
            refine tracked.add (.selection selectionID) selection.login here fresh live unknown
              profileARN true (fun _ => offered) ?_ ?_ rfl rfl rfl rfl rfl
            · intro other another there
              cases other <;> exact there
            · exact fun _ => ⟨selectionID, rfl⟩
    · exact tracked

end Selecting

section Canceling

/-- Of the tombstones at the time of a cancel, fewer than the most that are kept have not
expired. -/
def FewCancels (state : State Credit) : Event → Prop
  | .cancel _ _ _ =>
      state.history.cancels.countP
        (fun stamp => decide (state.now < stamp + microsoftCanceledTTL)) < microsoftMaxCanceled
  | _ => True

theorem oldest_from (oldest : GoString × Nat) (visited : List (GoString × Nat))
    (named : oldest.1 ≠ []) (all : ∀ entry ∈ visited, entry.1 ≠ []) :
    let found := visited.foldl (fun (oldest : GoString × Nat) entry =>
      if oldest.1 = [] ∨ entry.2 < oldest.2 then entry else oldest) oldest
    found ∈ oldest :: visited ∧ ∀ entry ∈ oldest :: visited, found.2 ≤ entry.2 := by
  induction visited generalizing oldest with
  | nil => simp
  | cons entry visited ih =>
      have rest : ∀ other ∈ visited, other.1 ≠ [] :=
        fun other member => all other (List.mem_cons_of_mem entry member)
      dsimp only [List.foldl_cons]
      by_cases older : entry.2 < oldest.2
      · rw [if_pos (.inr older)]
        obtain ⟨member, least⟩ := ih entry (all entry List.mem_cons_self) rest
        refine ⟨List.mem_cons_of_mem oldest member, ?_⟩
        rintro other (_ | ⟨_, inside⟩)
        · exact (least entry List.mem_cons_self).trans older.le
        · exact least other inside
      · rw [if_neg (by simp [named, older])]
        obtain ⟨member, least⟩ := ih oldest named rest
        constructor
        · cases List.mem_cons.mp member with
          | inl same =>
              rw [same]
              exact List.mem_cons_self
          | inr inside => exact List.mem_cons_of_mem _ (List.mem_cons_of_mem _ inside)
        · rintro other (_ | ⟨_, _ | ⟨_, inside⟩⟩)
          · exact least oldest List.mem_cons_self
          · exact (least oldest List.mem_cons_self).trans (Nat.le_of_not_lt older)
          · exact least other (List.mem_cons_of_mem oldest inside)

theorem oldest_canceled (visited : List (GoString × Nat)) (some_one : visited ≠ [])
    (all : ∀ entry ∈ visited, entry.1 ≠ []) :
    ∃ expiry, (oldestCanceled visited, expiry) ∈ visited ∧
      ∀ entry ∈ visited, expiry ≤ entry.2 := by
  cases visited with
  | nil => exact absurd rfl some_one
  | cons first rest =>
      obtain ⟨member, least⟩ := oldest_from first rest (all first List.mem_cons_self)
        fun entry inside => all entry (List.mem_cons_of_mem first inside)
      refine ⟨_, ?_, least⟩
      rw [oldestCanceled, List.foldl_cons, if_pos (.inl rfl)]
      exact member

theorem keep_sublist {Key Value : Type} (table : Table Key Value) (test : Key → Value → Bool) :
    (table.keep test).entries.Sublist table.entries :=
  List.filter_sublist

/-- A tombstone that has not expired is not the one that makes room. -/
theorem bury_keeps (range : MapRange (GoString × Nat)) (flows : MicrosoftFlows Credit)
    (sessionID : GoString) (stamp now : Nat) (past : stamp ≤ now)
    (few : flows.canceled.entries.countP (fun entry => decide (now < entry.2)) <
      microsoftMaxCanceled)
    (named : flows.canceled.get [] = none) (other : GoString) (apart : other ≠ sessionID)
    (expiry : Nat) (here : flows.canceled.get other = some expiry) (live : now < expiry) :
    (flows.bury range sessionID stamp).get other = some expiry := by
  let kept := flows.canceled.keep fun _ expiry => decide (stamp < expiry)
  have there : kept.get other = some expiry := by
    rw [get_keep, here, Option.filter_some, if_pos (decide_eq_true (by omega))]
  change (Table.put _ sessionID _).get other = some expiry
  rw [get_put, if_neg apart]
  change (if microsoftMaxCanceled ≤ kept.size then
    kept.erase (oldestCanceled (range.visit kept.entries)) else kept).get other = some expiry
  split_ifs with full
  · have visited := range.perm kept.entries
    obtain ⟨least, member, first⟩ := oldest_canceled (range.visit kept.entries)
      (by
        intro nothing
        rw [nothing] at visited
        have size : kept.entries = [] := List.nil_perm.mp visited
        rw [Table.size, size] at full
        exact absurd full (by decide))
      (by
        intro entry inside blank
        have stored := (mem_iff_get kept entry.1 entry.2).mp (visited.mem_iff.mp inside)
        rw [blank, get_keep, named] at stored
        exact absurd stored (by simp))
    rw [get_erase, if_neg]
    · exact there
    · intro same
      have oldest : kept.get other = some least :=
        (mem_iff_get kept other least).mp (same ▸ visited.mem_iff.mp member)
      obtain rfl := Option.some_inj.mp (there.symm.trans oldest)
      have all : kept.entries.countP (fun entry => decide (now < entry.2)) = kept.size := by
        apply List.countP_eq_length.mpr
        intro entry inside
        have bound := first entry (visited.mem_iff.mpr inside)
        exact decide_eq_true (by omega)
      have fewer : kept.entries.countP (fun entry => decide (now < entry.2)) ≤
          flows.canceled.entries.countP fun entry => decide (now < entry.2) :=
        (keep_sublist flows.canceled _).countP_le
      omega
  · exact there

theorem bury_sublist (range : MapRange (GoString × Nat)) (flows : MicrosoftFlows Credit)
    (sessionID : GoString) (stamp : Nat) :
    ∃ rest, (flows.bury range sessionID stamp).entries =
      (sessionID, stamp + microsoftCanceledTTL) :: rest ∧
        rest.Sublist flows.canceled.entries := by
  refine ⟨_, rfl, (keep_sublist _ _).trans ?_⟩
  split_ifs
  · exact (keep_sublist _ _).trans (keep_sublist _ _)
  · exact keep_sublist _ _

theorem few_entries {state : State Credit} (tracked : Tracked state)
    (few : state.history.cancels.countP
      (fun stamp => decide (state.now < stamp + microsoftCanceledTTL)) < microsoftMaxCanceled) :
    state.flows.canceled.entries.countP (fun entry => decide (state.now < entry.2)) <
      microsoftMaxCanceled := by
  have counted := tracked.tombstones.countP_le fun expiry => decide (state.now < expiry)
  rw [List.countP_map, List.countP_map] at counted
  exact lt_of_le_of_lt counted few

/-- A cancel of a session buries it and drops its selections, and the one that was named. -/
theorem Tracked.bury {state : State Credit} (tracked : Tracked state)
    (range : MapRange (GoString × Nat)) (sessionID selectionID : GoString)
    (given : sessionID ≠ []) (stamp : Nat) (past : stamp ≤ state.now)
    (few : state.history.cancels.countP
      (fun stamp => decide (state.now < stamp + microsoftCanceledTTL)) < microsoftMaxCanceled) :
    Tracked (state.bury range sessionID selectionID stamp) := by
  have held : ∀ place login,
      (state.bury range sessionID selectionID stamp).login place = some login →
        place ≠ .selection selectionID ∧ state.login place = some login := by
    intro place login here
    cases place with
    | request number => exact ⟨by simp, here⟩
    | selection id =>
        change Option.map _ ((Table.keep (state.flows.selections.erase selectionID) _).get id) = _
          at here
        rw [get_keep, get_erase] at here
        split_ifs at here with same
        · exact absurd here (by simp)
        · obtain ⟨selection, stored, login_eq⟩ := Option.map_eq_some_iff.mp here
          have there := (Option.filter_eq_some_iff.mp stored).1
          refine ⟨by simpa using same, ?_⟩
          rw [login_selection, there, Option.map_some, login_eq]
  obtain ⟨rest, entries, sub⟩ := bury_sublist range state.flows sessionID stamp
  constructor
  case holds =>
    exact ⟨tracked.holds.quiet, tracked.holds.once, tracked.holds.offered,
      tracked.holds.distinct⟩
  case apart =>
    intro one other login another here there
    exact tracked.apart one other login another (held one login here).2
      (held other another there).2
  case consumed =>
    intro place login here
    exact tracked.consumed place login (held place login here).2
  case owned =>
    intro place login here
    exact tracked.owned place login (held place login here).2
  case outside =>
    intro place login here
    exact tracked.outside place login (held place login here).2
  case listed =>
    intro place login here
    exact tracked.listed place login (held place login here).2
  case spent => exact tracked.spent
  case stopped =>
    intro place login here
    exact tracked.stopped place login (held place login here).2
  case accounted => exact tracked.accounted
  case forever =>
    intro other bar
    dsimp only [State.bury] at bar
    split_ifs at bar with same chosen
    · exact absurd bar (by simp)
    · -- the session of the selection that was named, which held the login
      obtain ⟨selection, stored, session⟩ := Option.map_eq_some_iff.mp chosen
      have there : state.login (.selection selectionID) = some selection.login := by
        rw [login_selection, stored]
        rfl
      rw [← session]
      refine ⟨tracked.consumed _ _ there, ?_⟩
      intro place login here equal
      obtain ⟨elsewhere, before⟩ := held place login here
      exact elsewhere (tracked.apart _ _ _ _ before there equal)
    · obtain ⟨consumed, gone⟩ := tracked.forever other bar
      exact ⟨consumed, fun place login here => gone place login (held place login here).2⟩
  case till =>
    intro other expiry bar
    dsimp only [State.bury] at bar
    split_ifs at bar with same
    · rw [Option.some_inj, Bar.till.injEq] at bar
      refine .inl ?_
      rw [← bar, same]
      change (Table.put _ sessionID _).get sessionID = _
      rw [get_put, if_pos rfl]
    · exact absurd bar (by simp)
    · by_cases live : state.now < expiry
      · cases tracked.till other expiry bar with
        | inr expired => exact absurd live (Nat.not_lt_of_le expired)
        | inl buried =>
            exact .inl (bury_keeps range state.flows sessionID stamp state.now past
              (few_entries tracked few) tracked.named other same expiry buried live)
      · exact .inr (Nat.le_of_not_lt live)
  case tombstones =>
    change ((state.flows.bury range sessionID stamp).entries.map Prod.snd).Subperm
      ((stamp :: state.history.cancels).map (· + microsoftCanceledTTL))
    rw [entries, List.map_cons, List.map_cons]
    exact (List.subperm_cons _).mpr ((sub.map Prod.snd).subperm.trans tracked.tombstones)
  case named =>
    change (state.flows.bury range sessionID stamp).get [] = none
    rw [get_eq_none_iff, entries]
    intro expiry member
    cases List.mem_cons.mp member with
    | inl same => exact given (congrArg Prod.fst same).symm
    | inr inside => exact (get_eq_none_iff _ _).mp tracked.named expiry (sub.subset inside)

theorem Tracked.cancel {state : State Credit} (tracked : Tracked state)
    (range : MapRange (GoString × Nat)) (sessionID selectionID : GoString) (waited : Nat)
    (few : FewCancels state (.cancel sessionID selectionID waited)) :
    Tracked (cancel range state sessionID selectionID waited) := by
  unfold MicrosoftSSO.cancel
  dsimp only
  generalize (if sessionID = [] then _ else sessionID) = session
  by_cases empty : session = []
  · rw [if_pos empty]
    exact tracked.dropSelection selectionID
  · rw [if_neg empty]
    exact (tracked.bury range session selectionID empty _ (Nat.sub_le _ _) few).discard session

end Canceling

section Runs

variable [Zero Credit]

theorem tracked_step (range : MapRange (GoString × Nat)) (state : State Credit)
    (event : Event) (tracked : Tracked state) (few : FewCancels state event)
    (careful : Careful state event) : Tracked (step range state event) := by
  cases event with
  | advance seconds =>
      apply tracked.fewer
      · intro place login here
        cases place <;> exact here
      · exact fun sessionID consumed => consumed
      · exact Nat.le_add_right state.now seconds
      · rfl
      · rfl
      · rfl
  | start sessionID => exact tracked.startLogin sessionID
  | timeout sessionID => exact tracked.timeout sessionID
  | arrive request sessionID => exact tracked.arrive request sessionID
  | enter request => exact tracked.enter request
  | answer request leg => exact tracked.answer request leg
  | beginDiscovery request => exact tracked.beginDiscovery request
  | discovered request profiles clientGone => exact tracked.discovered request profiles clientGone
  | finish request selectionID saved => exact tracked.finish request selectionID saved
  | select selectionID profileARN saved =>
      exact tracked.select selectionID profileARN saved careful
  | cancel sessionID selectionID waited =>
      exact tracked.cancel range sessionID selectionID waited few

/-- A step that is not careful adds a second account of a session. -/
theorem careful_of_holds (range : MapRange (GoString × Nat)) (state : State Credit)
    (event : Event) (tracked : Tracked state)
    (holds : FlowHolds (step range state event).history) : Careful state event := by
  cases event with
  | select selectionID profileARN saved =>
      intro selection selectable anonymous
      obtain ⟨stored, unexpired, offered, live⟩ := selectable
      rw [← Bool.not_eq_true]
      intro listed
      have here : state.login (.selection selectionID) = some selection.login := by
        rw [login_selection, stored]
        rfl
      have again : selection.sessionID ∈ state.addedSessions := by
        rw [List.any_eq_true] at listed
        obtain ⟨account, member, same⟩ := listed
        apply tracked.accounted account member
        rw [beq_iff_eq.mp same]
        exact tracked.owned _ _ here
      have adds : (select state selectionID profileARN saved).history =
          (state.withAccount selection.sessionID (withProfile selection.account profileARN)
            true).history := by
        have adding : addAccountLocked state selection.sessionID
            (withProfile selection.account profileARN) true saved =
              (state.withAccount selection.sessionID (withProfile selection.account profileARN)
                true, if saved then none else some .notSaved) := by
          obtain ⟨canceled, -⟩ | ⟨-, named, -⟩ | ⟨-, -, same⟩ := add_cases state
            selection.sessionID (withProfile selection.account profileARN) true saved
          · rw [live] at canceled
            exact absurd canceled Bool.false_ne_true
          · exact absurd anonymous named
          · exact same
        rw [select, stored]
        dsimp only
        rw [if_neg (Nat.not_le_of_lt unexpired), if_neg (not_not.mpr offered), adding]
        cases saved <;> rfl
      have once := holds.once
      change ((select state selectionID profileARN saved).history.added.map _).Nodup at once
      rw [adds] at once
      exact (List.nodup_cons.mp once).1 again
  | _ => trivial

/-- In a run with fewer cancels within the life of a tombstone than tombstones are kept, the
requests keep their word exactly when no login without a user is selected again after its
account could not be saved. -/
theorem sign_in_holds_iff (range : MapRange (GoString × Nat)) (accounts : List (Account Credit))
    (events : List Event) (few : StepsMeet (step range) FewCancels (.start accounts) events) :
    Always (step range) (fun state => FlowHolds state.history) (.start accounts) events ↔
      StepsMeet (step range) Careful (.start accounts) events :=
  allowed_always_iff_steps_meet (step range) FewCancels Careful Tracked
    (fun state => FlowHolds state.history) (fun _ tracked => tracked.holds)
    (fun state event tracked few careful => tracked_step range state event tracked few careful)
    (fun state event tracked holds => careful_of_holds range state event tracked holds)
    (.start accounts) (tracked_start accounts) events few

/-- One login is completed by its selection, and another is canceled. -/
def selectedOnce : List Event :=
  [.start (lit "a"), .arrive 0 (lit "a"), .enter 0, .answer 0 .authorized, .arrive 0 (lit "a"),
    .enter 0,
    .answer 0 (.exchanged ⟨lit "opaque", lit "refresh", [], [], [], [], [], [], 0⟩ (lit "id")
      (lit "machine")),
    .beginDiscovery 0, .discovered 0 [lit "one", lit "two"] false, .finish 0 (lit "choice") true,
    .select (lit "choice") (lit "one") true, .start (lit "b"), .cancel (lit "b") [] 0]

theorem selected_once_holds_iff :
    (run (step (.asStored _)) (State.start ([] : List (Account Nat)))
        selectedOnce).addedSessions = [lit "a"] ∧
      StepsMeet (step (.asStored _)) FewCancels (State.start ([] : List (Account Nat)))
        selectedOnce ∧
      (Always (step (.asStored _)) (fun state => FlowHolds state.history)
          (State.start ([] : List (Account Nat))) selectedOnce ↔
        StepsMeet (step (.asStored _)) Careful (State.start ([] : List (Account Nat)))
          selectedOnce) := by
  have few : StepsMeet (step (.asStored _)) FewCancels (State.start ([] : List (Account Nat)))
      selectedOnce := by
    simp only [selectedOnce, steps_meet_cons]
    refine ⟨trivial, trivial, trivial, trivial, trivial, trivial, trivial, trivial, trivial,
      trivial, trivial, trivial, ?_, steps_meet_nil _ _ _⟩
    unfold FewCancels
    decide +kernel
  have added : (run (step (.asStored _)) (State.start ([] : List (Account Nat)))
      selectedOnce).addedSessions = [lit "a"] := by decide +kernel
  exact ⟨added, few, sign_in_holds_iff (.asStored _) [] _ few⟩

/-- An opaque token names no user, and its account is not saved at the first attempt. -/
def selectedAgain : List Event :=
  [.start (lit "a"), .arrive 0 (lit "a"), .enter 0, .answer 0 .authorized, .arrive 0 (lit "a"),
    .enter 0,
    .answer 0 (.exchanged ⟨lit "opaque", lit "refresh", [], [], [], [], [], [], 0⟩ (lit "id")
      (lit "machine")),
    .beginDiscovery 0, .discovered 0 [lit "one", lit "two"] false, .finish 0 (lit "choice") true,
    .select (lit "choice") (lit "one") false, .select (lit "choice") (lit "one") true]

theorem selected_again_adds_twice :
    StepsMeet (step (.asStored _)) FewCancels (State.start ([] : List (Account Nat)))
        selectedAgain ∧
      ¬ Always (step (.asStored _)) (fun state => FlowHolds state.history)
        (State.start ([] : List (Account Nat))) selectedAgain := by
  constructor
  · simp only [selectedAgain, steps_meet_cons]
    exact ⟨trivial, trivial, trivial, trivial, trivial, trivial, trivial, trivial, trivial,
      trivial, trivial, trivial, steps_meet_nil _ _ _⟩
  · intro holds
    have once := (run_of_always _ _ _ _ holds).once
    have twice : (run (step (.asStored _)) (State.start ([] : List (Account Nat)))
        selectedAgain).addedSessions = [lit "a", lit "a"] := by decide +kernel
    change (run (step (.asStored _)) (State.start ([] : List (Account Nat)))
      selectedAgain).addedSessions.Nodup at once
    rw [twice] at once
    exact absurd once (by simp)

end Runs

end KiroProxy.MicrosoftSSO
