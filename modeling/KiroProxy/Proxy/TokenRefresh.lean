import KiroProxy.Config.AccountUpdates
import KiroProxy.Foundation.NamedLocks
import KiroProxy.Pool.AccountPool

/-!
# Token refresh

A transcription of `proxy/token_refresh.go`. A call of `refreshStoredAccount` is cut at its
locked sections, its channel operations and its upstream request; between two cuts other calls
and other writers of the store may run. The lock of an account is a named lock, by its ID.
-/

namespace KiroProxy.TokenRefresh

open Accounts
open Foundation.NamedLocks (Registry Phase Move Sound InUse)
open Foundation.Runs GoStrings
open Pool (tokenRefreshSkewSeconds)

set_option autoImplicit false

/-- The tokens an upstream refresh answers with. -/
structure Renewal where
  access : GoString
  refresh : GoString
  expiry : Int
  arn : GoString
  deriving DecidableEq

/-- How far a call has come. It holds the lock from `locked` to `unlocking`; what it returns
is its error, if there is one. -/
inductive Stage where
  | calling
  | waiting (address : Nat)
  | locked (address : Nat)
  | refreshing (address : Nat)
  | storing (address : Nat) (renewal : Renewal)
  | storingArn (address : Nat) (arn : GoString)
  | rereading (address : Nat)
  | unlocking (address : Nat) (result : Option GoString)
  | releasing (address : Nat) (result : Option GoString)
  | returned (result : Option GoString)
  deriving DecidableEq

/-- A call: the caller's copy of the account, and the error of its context once that has
ended. What its upstream request answered is recorded, and read by nothing. -/
structure Caller (Credit : Type) where
  account : Account Credit
  force : Bool
  canceled : Option GoString
  upstream : Option (Except GoString Renewal)
  stage : Stage

inductive Action where
  | enter
  | acquire
  | abandon
  | look (now : Int)
  | answer (answered : Except GoString Renewal)
  | store (credentialsLoaded : Bool) (unsaved : Option GoString)
  | storeArn (credentialsLoaded : Bool) (unsaved : Option GoString)
  | reread
  | unlock
  | release
  | cancel (err : GoString)

/-- A caller acts, or another writer replaces the accounts. -/
inductive Event (Credit : Type) where
  | act (caller : Nat) (action : Action)
  | write (accounts : List (Account Credit))

structure State (Credit : Type) where
  locks : Registry GoString
  accounts : List (Account Credit)
  callers : List (Caller Credit)

/-- What an action leaves of the locks, the store and its caller. -/
structure Effect (Credit : Type) where
  locks : Registry GoString
  accounts : List (Account Credit)
  caller : Caller Credit

section Model

variable {Credit : Type}

def Caller.goes (caller : Caller Credit) (stage : Stage) : Caller Credit :=
  { caller with stage := stage }

def noLongerExists (id : GoString) : GoString :=
  lit "account " ++ id ++ lit " no longer exists"

def deletedDuringRefresh (id : GoString) : GoString :=
  lit "account " ++ id ++ lit " deleted during refresh"

def tokens (account : Account Credit) : GoString × GoString :=
  (account.accessToken, account.refreshToken)

def isValid (account : Account Credit) (now : Int) : Bool :=
  account.expiresAt == 0 || decide (now < account.expiresAt - tokenRefreshSkewSeconds)

/-- The decision under the lock, from the context's end, the stored row and the time. -/
def lookUnderLock (letters : Letters) (accounts : List (Account Credit)) (now : Int)
    (address : Nat) (caller : Caller Credit) : Caller Credit :=
  match caller.canceled with
  | some err => caller.goes (.unlocking address (some err))
  | none =>
      match storedRow accounts caller.account.id with
      | none => caller.goes (.unlocking address (some (noLongerExists caller.account.id)))
      | some latest =>
          let rotated := latest.refreshToken != caller.account.refreshToken ||
            latest.accessToken != caller.account.accessToken
          let updated := { caller with account := latest }
          if isAPIKeyAccount letters latest ||
              ((!caller.force || rotated) && isValid latest now) then
            updated.goes (.unlocking address none)
          else updated.goes (.refreshing address)

def receive (answered : Except GoString Renewal) (address : Nat) (caller : Caller Credit) :
    Caller Credit :=
  { caller with
    upstream := some answered
    stage := match answered with
      | .error err => .unlocking address (some err)
      | .ok renewal => .storing address renewal }

/-- What follows a write of the store that may have failed. -/
def after (address : Nat) (next : Stage) : Option GoString → Stage
  | some err => .unlocking address (some err)
  | none => next

def rereadStore (accounts : List (Account Credit)) (address : Nat) (caller : Caller Credit) :
    Caller Credit :=
  match storedRow accounts caller.account.id with
  | none => caller.goes (.unlocking address (some (deletedDuringRefresh caller.account.id)))
  | some latest => { caller with account := latest, stage := .unlocking address none }

/-- What a caller does next, where it can act so. -/
def advance (letters : Letters) (locks : Registry GoString) (accounts : List (Account Credit))
    (caller : Caller Credit) : Stage → Action → Option (Effect Credit)
  | .calling, .enter =>
      let referred := locks.refer caller.account.id
      some ⟨referred.1, accounts, caller.goes (.waiting referred.2)⟩
  | .waiting address, .acquire =>
      if (locks.entries address).full then none
      else some ⟨locks.gate address true, accounts, caller.goes (.locked address)⟩
  | .waiting address, .abandon =>
      caller.canceled.map fun err =>
        ⟨locks, accounts, caller.goes (.releasing address (some err))⟩
  | .locked address, .look now =>
      some ⟨locks, accounts, lookUnderLock letters accounts now address caller⟩
  | .refreshing address, .answer answered =>
      some ⟨locks, accounts, receive answered address caller⟩
  | .storing address renewal, .store credentialsLoaded unsaved =>
      let stored := updateAccountToken credentialsLoaded accounts caller.account.id
        renewal.access renewal.refresh renewal.expiry unsaved
      let next := if renewal.arn ≠ [] then .storingArn address renewal.arn else .rereading address
      some ⟨locks, stored.1, caller.goes (after address next stored.2)⟩
  | .storingArn address arn, .storeArn credentialsLoaded unsaved =>
      let stored := updateAccountProfileArn credentialsLoaded accounts caller.account.id arn unsaved
      some ⟨locks, stored.1, caller.goes (after address (.rereading address) stored.2)⟩
  | .rereading address, .reread =>
      some ⟨locks, accounts, rereadStore accounts address caller⟩
  | .unlocking address result, .unlock =>
      some ⟨locks.gate address false, accounts, caller.goes (.releasing address result)⟩
  | .releasing address result, .release =>
      some ⟨locks.drop caller.account.id address, accounts, caller.goes (.returned result)⟩
  | _, .cancel err =>
      some ⟨locks, accounts, { caller with canceled := some (caller.canceled.getD err) }⟩
  | _, _ => none

def step (letters : Letters) (state : State Credit) : Event Credit → State Credit
  | .write accounts => { state with accounts := accounts }
  | .act caller action =>
      match state.callers[caller]? with
      | none => state
      | some old =>
          match advance letters state.locks state.accounts old old.stage action with
          | none => state
          | some effect =>
              ⟨effect.locks, effect.accounts, state.callers.set caller effect.caller⟩

/-- What a caller passes to `refreshStoredAccount`. -/
structure Call (Credit : Type) where
  account : Account Credit
  force : Bool
  canceled : Option GoString

def Call.caller (call : Call Credit) : Caller Credit :=
  ⟨call.account, call.force, call.canceled, none, .calling⟩

def start (accounts : List (Account Credit)) (calls : List (Call Credit)) : State Credit :=
  ⟨Registry.empty, accounts, calls.map Call.caller⟩

/-- Where a call is with the lock of its account. -/
def Stage.phase (id : GoString) : Stage → Phase GoString
  | .calling | .returned _ => .outside
  | .waiting address => .waiting id address
  | .locked address | .refreshing address | .storing address _ | .storingArn address _
  | .rereading address | .unlocking address _ => .holding id address
  | .releasing address _ => .leaving id address

def Caller.phase (caller : Caller Credit) : Phase GoString :=
  caller.stage.phase caller.account.id

def lockState (state : State Credit) : KiroProxy.Foundation.NamedLocks.State GoString :=
  ⟨state.locks, state.callers.map Caller.phase⟩

end Model

section Steps

variable {Credit : Type}

/-- The actions a caller can take, each from its stage. -/
inductive Acts (letters : Letters) (locks : Registry GoString)
    (accounts : List (Account Credit)) (caller : Caller Credit) :
    Action → Effect Credit → Prop where
  | enter (here : caller.stage = .calling) :
      Acts letters locks accounts caller .enter
        ⟨(locks.refer caller.account.id).1, accounts,
          caller.goes (.waiting (locks.refer caller.account.id).2)⟩
  | acquire (address : Nat) (here : caller.stage = .waiting address)
      (free : (locks.entries address).full = false) :
      Acts letters locks accounts caller .acquire
        ⟨locks.gate address true, accounts, caller.goes (.locked address)⟩
  | abandon (address : Nat) (err : GoString) (here : caller.stage = .waiting address)
      (canceled : caller.canceled = some err) :
      Acts letters locks accounts caller .abandon
        ⟨locks, accounts, caller.goes (.releasing address (some err))⟩
  | look (address : Nat) (now : Int) (here : caller.stage = .locked address) :
      Acts letters locks accounts caller (.look now)
        ⟨locks, accounts, lookUnderLock letters accounts now address caller⟩
  | answer (address : Nat) (answered : Except GoString Renewal)
      (here : caller.stage = .refreshing address) :
      Acts letters locks accounts caller (.answer answered)
        ⟨locks, accounts, receive answered address caller⟩
  | store (address : Nat) (renewal : Renewal) (credentialsLoaded : Bool)
      (unsaved : Option GoString) (next : Stage) (here : caller.stage = .storing address renewal)
      (follows : next = .rereading address ∨ ∃ arn, next = .storingArn address arn) :
      Acts letters locks accounts caller (.store credentialsLoaded unsaved)
        ⟨locks, (updateAccountToken credentialsLoaded accounts caller.account.id renewal.access
            renewal.refresh renewal.expiry unsaved).1,
          caller.goes (after address next (updateAccountToken credentialsLoaded accounts
            caller.account.id renewal.access renewal.refresh renewal.expiry unsaved).2)⟩
  | storeArn (address : Nat) (arn : GoString) (credentialsLoaded : Bool)
      (unsaved : Option GoString) (here : caller.stage = .storingArn address arn) :
      Acts letters locks accounts caller (.storeArn credentialsLoaded unsaved)
        ⟨locks, (updateAccountProfileArn credentialsLoaded accounts caller.account.id arn
            unsaved).1,
          caller.goes (after address (.rereading address) (updateAccountProfileArn
            credentialsLoaded accounts caller.account.id arn unsaved).2)⟩
  | reread (address : Nat) (here : caller.stage = .rereading address) :
      Acts letters locks accounts caller .reread
        ⟨locks, accounts, rereadStore accounts address caller⟩
  | unlock (address : Nat) (result : Option GoString)
      (here : caller.stage = .unlocking address result) :
      Acts letters locks accounts caller .unlock
        ⟨locks.gate address false, accounts, caller.goes (.releasing address result)⟩
  | release (address : Nat) (result : Option GoString)
      (here : caller.stage = .releasing address result) :
      Acts letters locks accounts caller .release
        ⟨locks.drop caller.account.id address, accounts, caller.goes (.returned result)⟩
  | cancel (err : GoString) :
      Acts letters locks accounts caller (.cancel err)
        ⟨locks, accounts, { caller with canceled := some (caller.canceled.getD err) }⟩

theorem acts_of_advance (letters : Letters) (locks : Registry GoString)
    (accounts : List (Account Credit)) (caller : Caller Credit) (action : Action)
    (effect : Effect Credit)
    (moved : advance letters locks accounts caller caller.stage action = some effect) :
    Acts letters locks accounts caller action effect := by
  generalize here : caller.stage = stage at moved
  unfold advance at moved
  split at moved
  · cases moved
    exact .enter here
  · split_ifs at moved with full
    cases moved
    exact .acquire _ here (Bool.eq_false_of_not_eq_true full)
  · obtain ⟨err, canceled, same⟩ := Option.map_eq_some_iff.mp moved
    cases same
    exact .abandon _ err here canceled
  · cases moved
    exact .look _ _ here
  · cases moved
    exact .answer _ _ here
  · cases moved
    apply Acts.store _ _ _ _ _ here
    split_ifs
    · exact Or.inr ⟨_, rfl⟩
    · exact Or.inl rfl
  · cases moved
    exact .storeArn _ _ _ _ here
  · cases moved
    exact .reread _ here
  · cases moved
    exact .unlock _ _ here
  · cases moved
    exact .release _ _ here
  · cases moved
    exact .cancel _
  · cases moved

/-- A step changes nothing, or writes the store, or is an action of one caller. -/
theorem step_cases (letters : Letters) (state : State Credit) (event : Event Credit) :
    step letters state event = state ∨
      (∃ accounts, event = .write accounts ∧
        step letters state event = { state with accounts := accounts }) ∨
      ∃ place action old effect, event = .act place action ∧
        state.callers[place]? = some old ∧
        Acts letters state.locks state.accounts old action effect ∧
        step letters state event =
          ⟨effect.locks, effect.accounts, state.callers.set place effect.caller⟩ := by
  cases event with
  | write accounts => exact Or.inr (Or.inl ⟨accounts, rfl, rfl⟩)
  | act place action =>
      cases here : state.callers[place]? with
      | none => exact Or.inl (by simp only [step, here])
      | some old =>
          cases moved : advance letters state.locks state.accounts old old.stage action with
          | none => exact Or.inl (by simp only [step, here, moved])
          | some effect =>
              have acts := acts_of_advance letters _ _ old action effect moved
              exact Or.inr (Or.inr ⟨place, action, old, effect, rfl, here, acts,
                by simp only [step, here, moved]⟩)

end Steps

section Locks

variable {Credit : Type}

theorem look_id (letters : Letters) (accounts : List (Account Credit)) (now : Int)
    (address : Nat) (caller : Caller Credit) :
    (lookUnderLock letters accounts now address caller).account.id = caller.account.id := by
  unfold lookUnderLock
  split
  · rfl
  · split
    · rfl
    · rename_i latest found
      dsimp only
      split_ifs
      · exact stored_row_id accounts caller.account.id latest found
      · exact stored_row_id accounts caller.account.id latest found

theorem reread_id (accounts : List (Account Credit)) (address : Nat) (caller : Caller Credit) :
    (rereadStore accounts address caller).account.id = caller.account.id := by
  unfold rereadStore
  split
  · rfl
  · rename_i latest found
    exact stored_row_id accounts caller.account.id latest found

/-- A caller stays with its account. -/
theorem acts_id (letters : Letters) (locks : Registry GoString)
    (accounts : List (Account Credit)) (caller : Caller Credit) (action : Action)
    (effect : Effect Credit) (acts : Acts letters locks accounts caller action effect) :
    effect.caller.account.id = caller.account.id := by
  cases acts with
  | look address now here => exact look_id letters accounts now address caller
  | reread address here => exact reread_id accounts address caller
  | enter | acquire | abandon | answer | store | storeArn | unlock | release | cancel => rfl

theorem look_stage (letters : Letters) (accounts : List (Account Credit)) (now : Int)
    (address : Nat) (caller : Caller Credit) :
    (∃ result, (lookUnderLock letters accounts now address caller).stage =
        .unlocking address result) ∨
      (lookUnderLock letters accounts now address caller).stage = .refreshing address := by
  unfold lookUnderLock
  split
  · exact Or.inl ⟨_, rfl⟩
  · split
    · exact Or.inl ⟨_, rfl⟩
    · dsimp only
      split_ifs
      · exact Or.inl ⟨_, rfl⟩
      · exact Or.inr rfl

theorem receive_stage (answered : Except GoString Renewal) (address : Nat)
    (caller : Caller Credit) :
    (∃ result, (receive answered address caller).stage = .unlocking address result) ∨
      ∃ renewal, (receive answered address caller).stage = .storing address renewal := by
  cases answered with
  | error err => exact Or.inl ⟨_, rfl⟩
  | ok renewal => exact Or.inr ⟨renewal, rfl⟩

theorem after_stage (address : Nat) (next : Stage) (err : Option GoString) :
    (∃ result, after address next err = .unlocking address result) ∨
      after address next err = next := by
  cases err with
  | none => exact Or.inr rfl
  | some err => exact Or.inl ⟨_, rfl⟩

theorem after_ne (address : Nat) (next stage : Stage) (err : Option GoString)
    (failed : ∀ result, .unlocking address result ≠ stage) (goes : next ≠ stage) :
    after address next err ≠ stage := by
  obtain ⟨result, same⟩ | same := after_stage address next err
  · rw [same]
    exact failed result
  · rw [same]
    exact goes

theorem reread_stage (accounts : List (Account Credit)) (address : Nat)
    (caller : Caller Credit) :
    ∃ result, (rereadStore accounts address caller).stage = .unlocking address result := by
  unfold rereadStore
  split
  · exact ⟨_, rfl⟩
  · exact ⟨_, rfl⟩

/-- An action before and after which its caller holds the lock. -/
theorem phase_held (caller new : Caller Credit) (address : Nat)
    (same : new.account.id = caller.account.id)
    (held : caller.stage.phase caller.account.id = .holding caller.account.id address)
    (holds : new.stage.phase caller.account.id = .holding caller.account.id address) :
    new.phase = caller.phase := by
  rw [Caller.phase, Caller.phase, same, held, holds]

/-- On the locks and its caller's phase an action is a move of the named locks, or nothing. -/
theorem acts_phase (letters : Letters) (locks : Registry GoString)
    (accounts : List (Account Credit)) (caller : Caller Credit) (action : Action)
    (effect : Effect Credit) (acts : Acts letters locks accounts caller action effect) :
    (effect.locks = locks ∧ effect.caller.phase = caller.phase) ∨
      ∃ move, KiroProxy.Foundation.NamedLocks.advance locks caller.phase move =
        some (effect.locks, effect.caller.phase) := by
  have kept := acts_id letters locks accounts caller action effect acts
  cases acts with
  | enter here =>
      refine Or.inr ⟨.refer caller.account.id, ?_⟩
      rw [Caller.phase, here]
      rfl
  | acquire address here free =>
      refine Or.inr ⟨.acquire, ?_⟩
      rw [Caller.phase, here]
      simp only [Stage.phase, KiroProxy.Foundation.NamedLocks.advance, free,
        Bool.false_eq_true, if_false]
      rfl
  | abandon address err here canceled =>
      refine Or.inr ⟨.abandon, ?_⟩
      rw [Caller.phase, here]
      rfl
  | look address now here =>
      refine Or.inl ⟨rfl, ?_⟩
      apply phase_held caller _ address kept (by rw [here]; rfl)
      obtain ⟨result, stage⟩ | stage := look_stage letters accounts now address caller
      · rw [stage]
        rfl
      · rw [stage]
        rfl
  | answer address answered here =>
      refine Or.inl ⟨rfl, ?_⟩
      apply phase_held caller _ address kept (by rw [here]; rfl)
      obtain ⟨result, stage⟩ | ⟨renewal, stage⟩ := receive_stage answered address caller
      · rw [stage]
        rfl
      · rw [stage]
        rfl
  | store address renewal credentialsLoaded unsaved next here follows =>
      refine Or.inl ⟨rfl, ?_⟩
      apply phase_held caller _ address kept (by rw [here]; rfl)
      obtain ⟨result, stage⟩ | stage := after_stage address next _
      · rw [Caller.goes, stage]
        rfl
      · rw [Caller.goes, stage]
        obtain rfl | ⟨arn, rfl⟩ := follows
        · rfl
        · rfl
  | storeArn address arn credentialsLoaded unsaved here =>
      refine Or.inl ⟨rfl, ?_⟩
      apply phase_held caller _ address kept (by rw [here]; rfl)
      obtain ⟨result, stage⟩ | stage := after_stage address (.rereading address) _
      · rw [Caller.goes, stage]
        rfl
      · rw [Caller.goes, stage]
        rfl
  | reread address here =>
      refine Or.inl ⟨rfl, ?_⟩
      apply phase_held caller _ address kept (by rw [here]; rfl)
      obtain ⟨result, stage⟩ := reread_stage accounts address caller
      rw [stage]
      rfl
  | unlock address result here =>
      refine Or.inr ⟨.unlock, ?_⟩
      rw [Caller.phase, here]
      rfl
  | release address result here =>
      refine Or.inr ⟨.drop, ?_⟩
      rw [Caller.phase, here]
      rfl
  | cancel err =>
      exact Or.inl ⟨rfl, rfl⟩

theorem lock_step (letters : Letters) (state : State Credit) (event : Event Credit) :
    lockState (step letters state event) = lockState state ∨
      ∃ move, lockState (step letters state event) =
        KiroProxy.Foundation.NamedLocks.step (lockState state) move := by
  obtain same | ⟨accounts, _, written⟩ | ⟨place, action, old, effect, _, here, acts, stepped⟩ :=
    step_cases letters state event
  · rw [same]
    exact Or.inl rfl
  · rw [written]
    exact Or.inl rfl
  · have phases : lockState (step letters state event) =
        ⟨effect.locks, (state.callers.map Caller.phase).set place effect.caller.phase⟩ := by
      rw [stepped, lockState, List.map_set]
    have place_phase : (state.callers.map Caller.phase)[place]? = some old.phase := by
      rw [List.getElem?_map, here]
      rfl
    rw [phases]
    obtain ⟨locks, phase⟩ | ⟨move, moved⟩ :=
      acts_phase letters state.locks state.accounts old action effect acts
    · apply Or.inl
      rw [locks, phase, lockState]
      obtain ⟨bound, same⟩ := List.getElem?_eq_some_iff.mp place_phase
      rw [← same, List.set_getElem_self bound]
    · refine Or.inr ⟨(place, move), ?_⟩
      simp only [KiroProxy.Foundation.NamedLocks.step, lockState, place_phase, moved]

theorem locked_step (letters : Letters) (state : State Credit) (event : Event Credit)
    (locked : Sound (lockState state) ∧ InUse (lockState state)) :
    Sound (lockState (step letters state event)) ∧
      InUse (lockState (step letters state event)) := by
  obtain same | ⟨move, moved⟩ := lock_step letters state event
  · rw [same]
    exact locked
  · rw [moved]
    exact KiroProxy.Foundation.NamedLocks.sound_step _ move locked.1 locked.2

/-- A run of calls is, on the locks, a run of the named locks. -/
theorem locks_follow (letters : Letters) (state : State Credit) (events : List (Event Credit)) :
    ∃ moves, lockState (run (step letters) state events) =
      run KiroProxy.Foundation.NamedLocks.step (lockState state) moves := by
  induction events generalizing state with
  | nil => exact ⟨[], rfl⟩
  | cons event events ih =>
      obtain ⟨moves, later⟩ := ih (step letters state event)
      obtain same | ⟨move, moved⟩ := lock_step letters state event
      · exact ⟨moves, by rw [run_cons, later, same]⟩
      · exact ⟨move :: moves, by rw [run_cons, run_cons, later, moved]⟩

theorem locks_sound (letters : Letters) (accounts : List (Account Credit))
    (calls : List (Call Credit)) (events : List (Event Credit)) :
    Sound (lockState (run (step letters) (start accounts calls) events)) ∧
      InUse (lockState (run (step letters) (start accounts calls) events)) := by
  obtain ⟨moves, follows⟩ := locks_follow letters (start accounts calls) events
  rw [follows]
  apply KiroProxy.Foundation.NamedLocks.run_sound
  intro phase member
  obtain ⟨caller, begun, rfl⟩ := List.mem_map.mp member
  obtain ⟨call, _, rfl⟩ := List.mem_map.mp begun
  rfl

end Locks

section Completion

variable {Credit : Type}

/-- How many steps a call has before it at most. -/
def Stage.left : Stage → Nat
  | .calling => 9
  | .waiting _ => 8
  | .locked _ => 7
  | .refreshing _ => 6
  | .storing _ _ => 5
  | .storingArn _ _ => 4
  | .rereading _ => 3
  | .unlocking _ _ => 2
  | .releasing _ _ => 1
  | .returned _ => 0

def work (state : State Credit) : Nat := (state.callers.map fun caller => caller.stage.left).sum

def Finished (state : State Credit) : Prop :=
  ∀ caller ∈ state.callers, ∃ result, caller.stage = .returned result

theorem acts_left (letters : Letters) (locks : Registry GoString)
    (accounts : List (Account Credit)) (caller : Caller Credit) (action : Action)
    (effect : Effect Credit) (acts : Acts letters locks accounts caller action effect) :
    effect.caller.stage = caller.stage ∨ effect.caller.stage.left < caller.stage.left := by
  cases acts with
  | look address now here =>
      apply Or.inr
      obtain ⟨result, stage⟩ | stage := look_stage letters accounts now address caller
      · rw [stage, here]
        simp [Stage.left]
      · rw [stage, here]
        simp [Stage.left]
  | answer address answered here =>
      apply Or.inr
      obtain ⟨result, stage⟩ | ⟨renewal, stage⟩ := receive_stage answered address caller
      · rw [stage, here]
        simp [Stage.left]
      · rw [stage, here]
        simp [Stage.left]
  | store address renewal credentialsLoaded unsaved next here follows =>
      apply Or.inr
      obtain ⟨result, stage⟩ | stage := after_stage address next _
      · rw [Caller.goes, stage, here]
        simp [Stage.left]
      · rw [Caller.goes, stage, here]
        obtain rfl | ⟨arn, rfl⟩ := follows
        · simp [Stage.left]
        · simp [Stage.left]
  | storeArn address arn credentialsLoaded unsaved here =>
      apply Or.inr
      obtain ⟨result, stage⟩ | stage := after_stage address (.rereading address) _
      · rw [Caller.goes, stage, here]
        simp [Stage.left]
      · rw [Caller.goes, stage, here]
        simp [Stage.left]
  | reread address here =>
      apply Or.inr
      obtain ⟨result, stage⟩ := reread_stage accounts address caller
      rw [stage, here]
      simp [Stage.left]
  | cancel err => exact Or.inl rfl
  | enter here | acquire address here | abandon address err here | unlock address result here
  | release address result here =>
      apply Or.inr
      rw [here]
      simp [Stage.left, Caller.goes]

theorem sum_set (values : List Nat) (place old new : Nat) (here : values[place]? = some old) :
    (values.set place new).sum + old = values.sum + new := by
  induction values generalizing place with
  | nil => simp at here
  | cons value values ih =>
      cases place with
      | zero =>
          rw [List.getElem?_cons_zero, Option.some.injEq] at here
          rw [List.set_cons_zero, List.sum_cons, List.sum_cons, here]
          omega
      | succ place =>
          have later := ih place here
          rw [List.set_cons_succ, List.sum_cons, List.sum_cons]
          omega

theorem work_set (state : State Credit) (place : Nat) (old new : Caller Credit)
    (here : state.callers[place]? = some old) (locks : Registry GoString)
    (accounts : List (Account Credit)) :
    work ⟨locks, accounts, state.callers.set place new⟩ + old.stage.left =
      work state + new.stage.left := by
  unfold work
  rw [List.map_set]
  apply sum_set
  rw [List.getElem?_map, here]
  rfl

/-- A step that brings a caller to another stage leaves less to do. -/
theorem work_step (letters : Letters) (state : State Credit) (event : Event Credit) :
    (step letters state event).callers.map Caller.stage = state.callers.map Caller.stage ∨
      work (step letters state event) < work state := by
  obtain same | ⟨accounts, _, written⟩ | ⟨place, action, old, effect, _, here, acts, stepped⟩ :=
    step_cases letters state event
  · rw [same]
    exact Or.inl rfl
  · rw [written]
    exact Or.inl rfl
  · rw [stepped]
    obtain same | less := acts_left letters state.locks state.accounts old action effect acts
    · apply Or.inl
      have place_stage : (state.callers.map Caller.stage)[place]? = some old.stage := by
        rw [List.getElem?_map, here]
        rfl
      obtain ⟨bound, stage⟩ := List.getElem?_eq_some_iff.mp place_stage
      rw [List.map_set, same, ← stage, List.set_getElem_self bound]
    · have moved := work_set state place old effect.caller here effect.locks effect.accounts
      exact Or.inr (by omega)

theorem work_act (letters : Letters) (state : State Credit) (place : Nat) (action : Action)
    (old : Caller Credit) (effect : Effect Credit) (here : state.callers[place]? = some old)
    (moved : advance letters state.locks state.accounts old old.stage action = some effect)
    (less : effect.caller.stage.left < old.stage.left) :
    work (step letters state (.act place action)) < work state := by
  have after := work_set state place old effect.caller here effect.locks effect.accounts
  simp only [step, here, moved]
  omega

/-- A caller that neither waits nor has returned can act. -/
theorem act_of_stage (letters : Letters) (locks : Registry GoString)
    (accounts : List (Account Credit)) (caller : Caller Credit)
    (entered : ∀ address, caller.stage ≠ .waiting address)
    (running : ∀ result, caller.stage ≠ .returned result) :
    ∃ action effect, advance letters locks accounts caller caller.stage action = some effect ∧
      effect.caller.stage ≠ caller.stage := by
  cases here : caller.stage with
  | calling => exact ⟨.enter, _, rfl, by simp [Caller.goes]⟩
  | waiting address => exact absurd here (entered address)
  | locked address =>
      refine ⟨.look 0, _, rfl, ?_⟩
      obtain ⟨result, stage⟩ | stage := look_stage letters accounts 0 address caller
      · simp [stage]
      · simp [stage]
  | refreshing address =>
      refine ⟨.answer (.error []), _, rfl, ?_⟩
      simp [receive]
  | storing address renewal =>
      refine ⟨.store false none, _, rfl, ?_⟩
      apply after_ne
      · simp
      · split_ifs <;> simp
  | storingArn address arn =>
      refine ⟨.storeArn false none, _, rfl, ?_⟩
      apply after_ne
      · simp
      · simp
  | rereading address =>
      refine ⟨.reread, _, rfl, ?_⟩
      obtain ⟨result, stage⟩ := reread_stage accounts address caller
      simp [stage]
  | unlocking address result => exact ⟨.unlock, _, rfl, by simp [Caller.goes]⟩
  | releasing address result => exact ⟨.release, _, rfl, by simp [Caller.goes]⟩
  | returned result => exact absurd here (running result)

/-- While a call has not returned, some caller can act. -/
theorem finished_or_works (letters : Letters) (state : State Credit)
    (sound : Sound (lockState state)) :
    Finished state ∨ ∃ event, work (step letters state event) < work state := by
  by_cases busy : ∃ caller ∈ state.callers,
      (∀ address, caller.stage ≠ .waiting address) ∧ ∀ result, caller.stage ≠ .returned result
  · obtain ⟨caller, member, entered, running⟩ := busy
    obtain ⟨place, here⟩ := List.mem_iff_getElem?.mp member
    obtain ⟨action, effect, moved, moves⟩ :=
      act_of_stage letters state.locks state.accounts caller entered running
    have acts := acts_of_advance letters _ _ caller action effect moved
    obtain same | less := acts_left letters _ _ caller action effect acts
    · exact absurd same moves
    · exact Or.inr ⟨_, work_act letters state place action caller effect here moved less⟩
  · push Not at busy
    by_cases waits : ∃ caller ∈ state.callers, ∃ address, caller.stage = .waiting address
    · -- nobody holds a lock, so the gate waited for is empty
      obtain ⟨caller, member, address, waiting⟩ := waits
      obtain ⟨place, here⟩ := List.mem_iff_getElem?.mp member
      have phase : caller.phase = .waiting caller.account.id address := by
        rw [Caller.phase, waiting]
        rfl
      have free : (state.locks.entries address).full = false := by
        apply KiroProxy.Foundation.NamedLocks.gate_empty (lockState state) sound
          caller.account.id address
        · exact List.mem_map.mpr ⟨caller, member, phase⟩
        · intro other held
          obtain ⟨holder, inside, holding⟩ := List.mem_map.mp held
          by_cases entered : ∀ address, holder.stage ≠ .waiting address
          · obtain ⟨result, returned⟩ := busy holder inside entered
            rw [Caller.phase, returned] at holding
            cases holding
          · push Not at entered
            obtain ⟨place, entered⟩ := entered
            rw [Caller.phase, entered] at holding
            cases holding
      refine Or.inr ⟨.act place .acquire, ?_⟩
      apply work_act letters state place .acquire caller
        ⟨state.locks.gate address true, state.accounts, caller.goes (.locked address)⟩ here
      · rw [waiting]
        simp only [advance, free, Bool.false_eq_true, if_false]
      · rw [waiting]
        simp [Stage.left, Caller.goes]
    · push Not at waits
      apply Or.inl
      intro caller member
      exact busy caller member (waits caller member)

end Completion

end KiroProxy.TokenRefresh
