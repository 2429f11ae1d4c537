import Mathlib.Logic.Function.Basic
import KiroProxy.Foundation.Runs
import KiroProxy.Pool.Rotation
import KiroProxy.Pool.AccountStats
import KiroProxy.Proxy.AccountOperations

/-!
# Account writes

Runs of the account operations and of the counting of finished requests. An operation reads
a copy in one step and writes it back in another; each step runs under one lock.
-/

namespace KiroProxy.AccountWrites

open Accounts
open ApiKeys (CreditAmount)
open Foundation.KeyedList Foundation.Runs GoStrings Pool

set_option autoImplicit false

section Steps

variable {Credit : Type} [CreditAmount Credit]

/-- An operation between its read and its write; the flags say whether a disable or a ban of
the account completed since the read and is in force. -/
structure Pending (Credit : Type) where
  operation : Operation Credit
  id : GoString
  copy : Account Credit
  disabledSince : Bool
  barredSince : Bool

/-- A usage counted in the pool and not saved yet; the pool's lock is held. -/
structure Recording (Credit : Type) where
  id : GoString
  stats : AccountStats Credit
  amount : Counters

/-- The store, the pool and the operations under way. `totals` are the sums of the usages
recorded, and `undone` says that a write took back a disable or a ban it had not seen. -/
structure State (Credit : Type) where
  accounts : List (Account Credit)
  pool : AccountPool Credit
  recording : Option (Recording Credit)
  pending : Nat → Option (Pending Credit)
  totals : GoString → Counters
  undone : Bool

inductive Event (Credit : Type) where
  | take (thread : Nat) (id : GoString) (operation : Operation Credit) (now : Int)
  | takeFromPool (thread : Nat) (id banStatus banReason : GoString)
  | write (thread : Nat) (now : Int)
  | updateCredentialInfo (id : GoString) (info : AccountInfo Credit)
  | beginRecord (id : GoString) (usage : Usage Credit) (now : Int)
  | finishRecord
  | reload (allowOverUsage : Bool)

/-- A completed write as another operation's copy sees it. -/
def settle (operation : Operation Credit) (id : GoString) (written : Account Credit)
    (pending : Pending Credit) : Pending Credit :=
  if pending.id = id then
    { pending with
      disabledSince := operation.disables || (pending.disabledSince && !written.enabled)
      barredSince :=
        operation.bars || (pending.barredSince && !servingStatus written.banStatus) }
  else pending

/-- `UpdateAccount` with the copy an operation made; an account that is gone is an error. -/
def commit (state : State Credit) (id : GoString) (operation : Operation Credit)
    (written : Account Credit) (disabledSince barredSince : Bool) : State Credit :=
  match storedRow state.accounts id with
  | none => state
  | some _ =>
      { state with
        accounts := updateAccount state.accounts id written
        pending := fun thread => (state.pending thread).map (settle operation id written)
        undone := state.undone || (disabledSince && written.enabled) ||
          (barredSince && servingStatus written.banStatus) }

def takeCopy (state : State Credit) (thread : Nat) (id : GoString)
    (operation : Operation Credit) (copy : Account Credit) : State Credit :=
  { state with
    pending := Function.update state.pending thread (some ⟨operation, id, copy, false, false⟩) }

def take (credentialsLoaded : Bool) (state : State Credit) (thread : Nat) (id : GoString)
    (operation : Operation Credit) (now : Int) : State Credit :=
  match storedRow state.accounts id with
  | none => state
  | some row =>
      match if credentialsLoaded then none else operation.inPlace now row with
      | some written => commit state id operation written false false
      | none => takeCopy state thread id operation row

/-- A request holds a copy of the rotation's. -/
def takeFromPool (state : State Credit) (thread : Nat) (id banStatus banReason : GoString) :
    State Credit :=
  match state.recording, state.pool.accounts.find? (hasId id) with
  | none, some copy => takeCopy state thread id (.disableAccount banStatus banReason) copy
  | _, _ => state

def write (state : State Credit) (thread : Nat) (now : Int) : State Credit :=
  match state.pending thread with
  | none => state
  | some pending =>
      let done := { state with pending := Function.update state.pending thread none }
      match pending.operation.edit now pending.copy with
      | none => done
      | some written =>
          commit done pending.id pending.operation written pending.disabledSince
            pending.barredSince

/-- `updateStats` up to the save. -/
def beginRecord (state : State Credit) (id : GoString) (usage : Usage Credit) (now : Int) :
    State Credit :=
  if state.recording.isSome || usage.isEmpty || id = [] then state
  else
    let copies := updateCopies id (usage.apply now) none state.pool.accounts
    match copies.2 with
    | some stats =>
        { state with
          pool := { state.pool with accounts := copies.1 }
          recording := some ⟨id, stats, usage.amount⟩ }
    | none =>
        match storedRow state.accounts id with
        | none => state
        | some row =>
            { state with recording := some ⟨id, statsOf (usage.apply now row), usage.amount⟩ }

def finishRecord (state : State Credit) : State Credit :=
  match state.recording with
  | none => state
  | some recording =>
      { state with
        accounts := updateAccountStats state.accounts recording.id recording.stats
        totals := Function.update state.totals recording.id
          ((state.totals recording.id).add recording.amount)
        recording := none }

def reloadPool (state : State Credit) (allowOverUsage : Bool) : State Credit :=
  if state.recording.isSome then state
  else { state with pool := reload state.pool (getEnabledAccounts state.accounts) allowOverUsage }

/-- One step under one lock. `UpdateAccountInfo` ends with an update of the info fields, which
may come at any time here. -/
def step (credentialsLoaded : Bool) (state : State Credit) : Event Credit → State Credit
  | .take thread id operation now => take credentialsLoaded state thread id operation now
  | .takeFromPool thread id banStatus banReason =>
      takeFromPool state thread id banStatus banReason
  | .write thread now => write state thread now
  | .updateCredentialInfo id info =>
      { state with accounts := updateCredentialInfo state.accounts id info }
  | .beginRecord id usage now => beginRecord state id usage now
  | .finishRecord => finishRecord state
  | .reload allowOverUsage => reloadPool state allowOverUsage

/-- The store as it is read at the start, before the pool is loaded. -/
def start (accounts : List (Account Credit)) : State Credit where
  accounts := accounts
  pool := newPool
  recording := none
  pending := fun _ => none
  totals := fun id => ((storedRow accounts id).map counters).getD ⟨0, 0, 0⟩
  undone := false

/-- The stored counters are the sums, and no ban or disable was undone. -/
structure Intact (state : State Credit) : Prop where
  counted : ∀ id row, storedRow state.accounts id = some row → counters row = state.totals id
  kept : state.undone = false

/-- What is written back counts what the store has counted by now, and leaves a disable or a
ban that completed since the copy was taken. -/
def KeepsUpdates (state : State Credit) : Event Credit → Prop
  | .write thread now =>
      ∀ pending, state.pending thread = some pending →
        ∀ written, pending.operation.edit now pending.copy = some written →
          ∀ row, storedRow state.accounts pending.id = some row →
            counters pending.copy = counters row ∧
              (pending.disabledSince = true → written.enabled = false) ∧
              (pending.barredSince = true → servingStatus written.banStatus = false)
  | _ => True

end Steps

section Flags

variable {Credit : Type}

/-- The flags of a copy under way say what the row says by now. -/
structure InForce (state : State Credit) : Prop where
  disabled : ∀ thread pending row, state.pending thread = some pending →
    storedRow state.accounts pending.id = some row →
    pending.disabledSince = true → row.enabled = false
  barred : ∀ thread pending row, state.pending thread = some pending →
    storedRow state.accounts pending.id = some row →
    pending.barredSince = true → servingStatus row.banStatus = false
  copies : ∀ thread pending, state.pending thread = some pending → pending.copy.id = pending.id

theorem settle_copy (operation : Operation Credit) (id : GoString) (written : Account Credit)
    (pending : Pending Credit) :
    (settle operation id written pending).copy = pending.copy ∧
      (settle operation id written pending).id = pending.id := by
  unfold settle
  split_ifs <;> exact ⟨rfl, rfl⟩

/-- The copies under way after a write are those before it. -/
theorem settled_copies (state : State Credit) (operation : Operation Credit) (id : GoString)
    (written : Account Credit)
    (copies : ∀ thread pending, state.pending thread = some pending → pending.copy.id = pending.id)
    (thread : Nat) (pending : Pending Credit)
    (waiting : (state.pending thread).map (settle operation id written) = some pending) :
    pending.copy.id = pending.id := by
  obtain ⟨old, before, settled⟩ := Option.map_eq_some_iff.mp waiting
  have kept := settle_copy operation id written old
  rw [← settled, kept.1, kept.2]
  exact copies thread old before

theorem waiting_after_take (state : State Credit) (thread : Nat) (id : GoString)
    (operation : Operation Credit) (copy : Account Credit) (other : Nat)
    (pending : Pending Credit)
    (waiting : (takeCopy state thread id operation copy).pending other = some pending) :
    pending = ⟨operation, id, copy, false, false⟩ ∨ state.pending other = some pending := by
  simp only [takeCopy] at waiting
  by_cases here : other = thread
  · rw [here, Function.update_self] at waiting
    exact Or.inl (Option.some.inj waiting).symm
  · rw [Function.update_of_ne here] at waiting
    exact Or.inr waiting

theorem waiting_after_done (state : State Credit) (thread other : Nat) (pending : Pending Credit)
    (waiting : Function.update state.pending thread none other = some pending) :
    state.pending other = some pending := by
  by_cases here : other = thread
  · rw [here, Function.update_self] at waiting
    simp at waiting
  · rwa [Function.update_of_ne here] at waiting

/-- Without loaded credentials an operation may change the row itself. -/
theorem changed_in_place (credentialsLoaded : Bool) (operation : Operation Credit) (now : Int)
    (row written : Account Credit)
    (changed : (if credentialsLoaded then none else operation.inPlace now row) = some written) :
    operation.inPlace now row = some written := by
  cases credentialsLoaded with
  | true => simp at changed
  | false => simpa using changed

/-- A change of other fields. -/
theorem in_force_after_change (state : State Credit) (inForce : InForce state) (id : GoString)
    (change : Account Credit → Account Credit)
    (same : ∀ account : Account Credit, (change account).id = account.id ∧
      (change account).enabled = account.enabled ∧
      (change account).banStatus = account.banStatus) (totals : GoString → Counters)
    (recording : Option (Recording Credit)) :
    InForce { state with
      accounts := updateFirst (hasId id) change state.accounts
      totals := totals
      recording := recording } := by
  have named : ∀ account : Account Credit, account.id = id → (change account).id = id :=
    fun account key => (same account).1.trans key
  have older : ∀ other row, storedRow (updateFirst (hasId id) change state.accounts) other =
      some row → ∃ old, storedRow state.accounts other = some old ∧
        row.enabled = old.enabled ∧ row.banStatus = old.banStatus := by
    intro other row found
    by_cases here : other = id
    · rw [here, stored_after_update _ _ _ named] at found
      obtain ⟨old, stored, changed⟩ := Option.map_eq_some_iff.mp found
      rw [here, ← changed]
      exact ⟨old, stored, (same old).2⟩
    · rw [stored_after_other _ _ _ _ named here] at found
      exact ⟨row, found, rfl, rfl⟩
  constructor
  · intro thread pending row waiting found flag
    obtain ⟨old, stored, enabled, _⟩ := older pending.id row found
    rw [enabled]
    exact inForce.disabled thread pending old waiting stored flag
  · intro thread pending row waiting found flag
    obtain ⟨old, stored, _, status⟩ := older pending.id row found
    rw [status]
    exact inForce.barred thread pending old waiting stored flag
  · exact inForce.copies

theorem commit_in_force (state : State Credit) (inForce : InForce state) (id : GoString)
    (operation : Operation Credit) (written : Account Credit) (disabledSince barredSince : Bool)
    (named : written.id = id) (leaves : Leaves operation written) :
    InForce (commit state id operation written disabledSince barredSince) := by
  unfold commit
  cases stored : storedRow state.accounts id with
  | none => exact inForce
  | some current =>
      have same : ∀ account : Account Credit, account.id = id →
          (preserveAccountCredentials written account).id = id := fun _ _ => named
      have saved := stored_after_update state.accounts id (preserveAccountCredentials written) same
      rw [stored, Option.map_some] at saved
      -- A copy of the account sees what was written, one of another account its old row.
      have settled : ∀ thread pending row,
          (state.pending thread).map (settle operation id written) = some pending →
          storedRow (updateAccount state.accounts id written) pending.id = some row →
          (pending.disabledSince = true → row.enabled = false) ∧
            (pending.barredSince = true → servingStatus row.banStatus = false) := by
        intro thread pending row waiting found
        obtain ⟨old, before, settled⟩ := Option.map_eq_some_iff.mp waiting
        simp only [updateAccount] at found
        by_cases here : old.id = id
        · rw [← settled, settle, if_pos here] at found ⊢
          simp only [here] at found ⊢
          rw [saved] at found
          rw [← Option.some.inj found]
          simp only [Bool.or_eq_true, Bool.and_eq_true, Bool.not_eq_true']
          exact ⟨fun flag => flag.elim leaves.1 And.right, fun flag => flag.elim leaves.2 And.right⟩
        · rw [← settled, settle, if_neg here] at found ⊢
          rw [stored_after_other _ _ _ _ same here] at found
          exact ⟨inForce.disabled thread old row before found,
            inForce.barred thread old row before found⟩
      constructor
      · exact fun thread pending row waiting found => (settled thread pending row waiting found).1
      · exact fun thread pending row waiting found => (settled thread pending row waiting found).2
      · exact settled_copies state operation id written inForce.copies

theorem take_copy_in_force (state : State Credit) (inForce : InForce state) (thread : Nat)
    (id : GoString) (operation : Operation Credit) (copy : Account Credit)
    (named : copy.id = id) : InForce (takeCopy state thread id operation copy) := by
  have taken := waiting_after_take state thread id operation copy
  constructor
  · intro other waiting row found stored flag
    cases taken other waiting found with
    | inl new => simp [new] at flag
    | inr old => exact inForce.disabled other waiting row old stored flag
  · intro other waiting row found stored flag
    cases taken other waiting found with
    | inl new => simp [new] at flag
    | inr old => exact inForce.barred other waiting row old stored flag
  · intro other waiting found
    cases taken other waiting found with
    | inl new =>
        rw [new]
        exact named
    | inr old => exact inForce.copies other waiting old

theorem done_in_force (state : State Credit) (inForce : InForce state) (thread : Nat) :
    InForce { state with pending := Function.update state.pending thread none } := by
  have before := waiting_after_done state thread
  constructor
  · intro other pending row waiting
    exact inForce.disabled other pending row (before other pending waiting)
  · intro other pending row waiting
    exact inForce.barred other pending row (before other pending waiting)
  · intro other pending waiting
    exact inForce.copies other pending (before other pending waiting)

theorem take_in_force (credentialsLoaded : Bool) (state : State Credit) (inForce : InForce state)
    (thread : Nat) (id : GoString) (operation : Operation Credit) (now : Int) :
    InForce (take credentialsLoaded state thread id operation now) := by
  unfold take
  cases stored : storedRow state.accounts id with
  | none => exact inForce
  | some row =>
      have named := stored_row_id state.accounts id row stored
      simp only
      cases changed : (if credentialsLoaded then none else operation.inPlace now row) with
      | none => exact take_copy_in_force state inForce thread id operation row named
      | some written =>
          have inPlace := changed_in_place credentialsLoaded operation now row written changed
          have same := in_place_counters operation now row written inPlace
          exact commit_in_force state inForce id operation written false false
            (same.2.trans named) (in_place_leaves operation now row written inPlace)

theorem write_in_force (state : State Credit) (inForce : InForce state) (thread : Nat)
    (now : Int) : InForce (write state thread now) := by
  unfold write
  cases waiting : state.pending thread with
  | none => exact inForce
  | some pending =>
      have done := done_in_force state inForce thread
      simp only
      cases edited : pending.operation.edit now pending.copy with
      | none => exact done
      | some written =>
          have same := edit_counters pending.operation now pending.copy written edited
          exact commit_in_force _ done pending.id pending.operation written _ _
            (same.2.trans (inForce.copies thread pending waiting))
            (edit_leaves pending.operation now pending.copy written edited)

theorem take_from_pool_in_force (state : State Credit) (inForce : InForce state) (thread : Nat)
    (id banStatus banReason : GoString) :
    InForce (takeFromPool state thread id banStatus banReason) := by
  unfold takeFromPool
  split
  · rename_i copy _ found
    exact take_copy_in_force state inForce thread id _ copy
      (stored_row_id state.pool.accounts id copy found)
  · exact inForce

theorem finish_record_in_force (state : State Credit) (inForce : InForce state) :
    InForce (finishRecord state) := by
  unfold finishRecord
  cases state.recording with
  | none => exact inForce
  | some recording =>
      exact in_force_after_change state inForce recording.id
        (fun account => withStats account recording.stats) (fun _ => ⟨rfl, rfl, rfl⟩) _ none

end Flags

section Invariant

variable {Credit : Type}

/-- The sums of an account with the usage that is being recorded. -/
def expected (state : State Credit) (id : GoString) : Counters :=
  match state.recording with
  | some recording =>
      if recording.id = id then (state.totals id).add recording.amount else state.totals id
  | none => state.totals id

/-- What every run of steps that keep the updates keeps. -/
structure Sound (state : State Credit) : Prop where
  distinct : (state.accounts.map Account.id).Nodup
  intact : Intact state
  rotation : ∀ copy ∈ state.pool.accounts, counters copy = expected state copy.id
  saving : ∀ recording, state.recording = some recording →
    recording.stats.counters = expected state recording.id
  copies : ∀ thread pending, state.pending thread = some pending → pending.copy.id = pending.id

/-- A change to one row that leaves its counters leaves all counters. -/
theorem counted_after_change (state : State Credit) (intact : Intact state) (id : GoString)
    (change : Account Credit → Account Credit)
    (same : ∀ account : Account Credit, account.id = id → (change account).id = id)
    (unchanged : ∀ row, storedRow state.accounts id = some row →
      counters (change row) = counters row) (other : GoString) (row : Account Credit)
    (found : storedRow (updateFirst (hasId id) change state.accounts) other = some row) :
    counters row = state.totals other := by
  by_cases here : other = id
  · rw [here, stored_after_update state.accounts id change same] at found
    obtain ⟨old, stored, changed⟩ := Option.map_eq_some_iff.mp found
    rw [← changed, unchanged old stored, here]
    exact intact.counted id old stored
  · rw [stored_after_other state.accounts id other change same here] at found
    exact intact.counted other row found

theorem commit_sound (state : State Credit) (sound : Sound state) (id : GoString)
    (operation : Operation Credit) (written : Account Credit) (disabledSince barredSince : Bool)
    (named : written.id = id)
    (fresh : ∀ row, storedRow state.accounts id = some row → counters written = counters row ∧
      (disabledSince = true → written.enabled = false) ∧
      (barredSince = true → servingStatus written.banStatus = false)) :
    Sound (commit state id operation written disabledSince barredSince) := by
  unfold commit
  cases stored : storedRow state.accounts id with
  | none => exact sound
  | some row =>
      obtain ⟨counted, enabled, status⟩ := fresh row stored
      have same : ∀ account : Account Credit, account.id = id →
          (preserveAccountCredentials written account).id = id := fun _ _ => named
      constructor
      · rw [updateAccount, updated_ids state.accounts id _ same]
        exact sound.distinct
      · constructor
        · apply counted_after_change state sound.intact id _ same
          intro old found
          rw [stored] at found
          rw [← Option.some.inj found]
          exact counted
        · simp only [sound.intact.kept, Bool.false_or, Bool.or_eq_false_iff]
          constructor
          · cases disabledSince with
            | false => rfl
            | true => exact enabled rfl
          · cases barredSince with
            | false => rfl
            | true => exact status rfl
      · exact sound.rotation
      · exact sound.saving
      · exact settled_copies state operation id written sound.copies

theorem take_copy_sound (state : State Credit) (sound : Sound state) (thread : Nat)
    (id : GoString) (operation : Operation Credit) (copy : Account Credit)
    (named : copy.id = id) : Sound (takeCopy state thread id operation copy) := by
  constructor
  · exact sound.distinct
  · exact ⟨sound.intact.counted, sound.intact.kept⟩
  · exact sound.rotation
  · exact sound.saving
  · intro other pending waiting
    cases waiting_after_take state thread id operation copy other pending waiting with
    | inl new =>
        rw [new]
        exact named
    | inr old => exact sound.copies other pending old

theorem take_sound (credentialsLoaded : Bool) (state : State Credit) (sound : Sound state)
    (thread : Nat) (id : GoString) (operation : Operation Credit) (now : Int) :
    Sound (take credentialsLoaded state thread id operation now) := by
  unfold take
  cases stored : storedRow state.accounts id with
  | none => exact sound
  | some row =>
      have named := stored_row_id state.accounts id row stored
      simp only
      cases changed : (if credentialsLoaded then none else operation.inPlace now row) with
      | none => exact take_copy_sound state sound thread id operation row named
      | some written =>
          have inPlace := changed_in_place credentialsLoaded operation now row written changed
          have same := in_place_counters operation now row written inPlace
          apply commit_sound state sound id operation written false false (same.2.trans named)
          intro old found
          rw [stored] at found
          rw [← Option.some.inj found]
          exact ⟨same.1, by simp, by simp⟩

theorem take_from_pool_sound (state : State Credit) (sound : Sound state) (thread : Nat)
    (id banStatus banReason : GoString) :
    Sound (takeFromPool state thread id banStatus banReason) := by
  unfold takeFromPool
  split
  · rename_i copy _ found
    apply take_copy_sound state sound thread id _ copy
    exact stored_row_id state.pool.accounts id copy found
  · exact sound

/-- An operation that is over, whatever it did. -/
theorem done_sound (state : State Credit) (sound : Sound state) (thread : Nat) :
    Sound { state with pending := Function.update state.pending thread none } := by
  constructor
  · exact sound.distinct
  · exact ⟨sound.intact.counted, sound.intact.kept⟩
  · exact sound.rotation
  · exact sound.saving
  · intro other pending waiting
    exact sound.copies other pending (waiting_after_done state thread other pending waiting)

theorem write_sound (state : State Credit) (sound : Sound state) (thread : Nat) (now : Int)
    (keeps : KeepsUpdates state (.write thread now)) : Sound (write state thread now) := by
  unfold write
  cases waiting : state.pending thread with
  | none => exact sound
  | some pending =>
      have done := done_sound state sound thread
      simp only
      cases edited : pending.operation.edit now pending.copy with
      | none => exact done
      | some written =>
          have same := edit_counters pending.operation now pending.copy written edited
          apply commit_sound _ done
          · exact same.2.trans (sound.copies thread pending waiting)
          · intro row stored
            have fresh := keeps pending waiting written edited row stored
            exact ⟨same.1.trans fresh.1, fresh.2⟩

theorem credential_info_sound (state : State Credit) (sound : Sound state) (id : GoString)
    (info : AccountInfo Credit) :
    Sound { state with accounts := updateCredentialInfo state.accounts id info } := by
  constructor
  · rw [updateCredentialInfo, updated_ids]
    · exact sound.distinct
    · exact fun _ key => key
  · constructor
    · apply counted_after_change state sound.intact id
      · exact fun _ key => key
      · exact fun _ _ => rfl
    · exact sound.intact.kept
  · exact sound.rotation
  · exact sound.saving
  · exact sound.copies

theorem expected_idle (state : State Credit) (idle : state.recording = none) (id : GoString) :
    expected state id = state.totals id := by
  rw [expected, idle]

theorem finish_record_sound (state : State Credit) (sound : Sound state) :
    Sound (finishRecord state) := by
  unfold finishRecord
  cases saving : state.recording with
  | none => exact sound
  | some recording =>
      simp only
      have amount : ∀ id, expected state id =
          Function.update state.totals recording.id
            ((state.totals recording.id).add recording.amount) id := by
        intro id
        rw [expected, saving]
        by_cases here : id = recording.id
        · simp [here]
        · rw [Function.update_of_ne here]
          simp only
          rw [if_neg (Ne.symm here)]
      have same : ∀ account : Account Credit, account.id = recording.id →
          (withStats account recording.stats).id = recording.id := fun _ key => key
      constructor
      · rw [updateAccountStats, updated_ids state.accounts recording.id _ same]
        exact sound.distinct
      · constructor
        · intro id row found
          simp only at found ⊢
          rw [← amount id]
          by_cases here : id = recording.id
          · rw [here] at found ⊢
            rw [updateAccountStats, stored_after_update _ _ _ same] at found
            obtain ⟨old, _, changed⟩ := Option.map_eq_some_iff.mp found
            rw [← changed, ← sound.saving recording saving]
            rfl
          · rw [updateAccountStats, stored_after_other _ _ _ _ same here] at found
            rw [amount, Function.update_of_ne here]
            exact sound.intact.counted id row found
        · exact sound.intact.kept
      · intro copy member
        rw [sound.rotation copy member, amount, expected_idle _ rfl]
      · intro other none
        simp at none
      · exact sound.copies

theorem start_sound (accounts : List (Account Credit))
    (distinct : (accounts.map Account.id).Nodup) : Sound (start accounts) := by
  constructor
  · exact distinct
  · constructor
    · intro id row stored
      simp only [start] at stored ⊢
      rw [stored]
      rfl
    · rfl
  · intro copy member
    simp [start, newPool] at member
  · intro recording none
    simp [start] at none
  · intro thread pending none
    simp [start] at none

/-- A write that leaves the state intact is one that keeps the updates. -/
theorem write_needed (state : State Credit) (sound : Sound state) (thread : Nat) (now : Int)
    (intact : Intact (write state thread now)) : KeepsUpdates state (.write thread now) := by
  intro pending waiting written edited row stored
  have same := edit_counters pending.operation now pending.copy written edited
  have named := same.2.trans (sound.copies thread pending waiting)
  have kept : ∀ account : Account Credit, account.id = pending.id →
      (preserveAccountCredentials written account).id = pending.id := fun _ _ => named
  unfold write at intact
  simp only [waiting, edited, commit, stored] at intact
  have saved := stored_after_update state.accounts pending.id
    (preserveAccountCredentials written) kept
  rw [stored, Option.map_some] at saved
  have counted := intact.counted pending.id _ saved
  refine ⟨?_, ?_, ?_⟩
  · rw [sound.intact.counted pending.id row stored, ← same.1]
    exact counted
  · intro disabled
    have undone := intact.kept
    simp only [disabled, Bool.true_and, Bool.or_eq_false_iff] at undone
    exact undone.1.2
  · intro barred
    have undone := intact.kept
    simp only [barred, Bool.true_and, Bool.or_eq_false_iff] at undone
    exact undone.2

end Invariant

section Runs

variable {Credit : Type} [CreditAmount Credit]

theorem begin_record_sound (state : State Credit) (sound : Sound state) (id : GoString)
    (usage : Usage Credit) (now : Int) : Sound (beginRecord state id usage now) := by
  unfold beginRecord
  split_ifs with skipped
  · exact sound
  · simp only [Bool.or_eq_true, not_or, Bool.not_eq_true, Option.isSome_eq_false_iff,
      Option.isNone_iff_eq_none] at skipped
    have idle := expected_idle state skipped.1.1
    have applied := apply_counters usage now
    simp only
    cases counted : (updateCopies id (usage.apply now) none state.pool.accounts).2 with
    | some stats =>
        have first := copies_counted id (usage.apply now) state.pool.accounts
        rw [counted, eq_comm, Option.map_eq_some_iff] at first
        obtain ⟨copy, found, same⟩ := first
        have named := stored_row_id state.pool.accounts id copy found
        have numbers : stats.counters = (state.totals id).add usage.amount := by
          rw [← same, statsOf, (applied copy).1,
            sound.rotation copy (List.mem_of_find?_eq_some found), idle, named]
        constructor
        · exact sound.distinct
        · exact ⟨sound.intact.counted, sound.intact.kept⟩
        · intro other member
          have each := updated_copies id (usage.apply now) (fun account => (applied account).2)
            none state.pool.accounts other member
          cases each with
          | inl before =>
              rw [expected]
              simp only
              rw [if_neg (Ne.symm before.2), sound.rotation other before.1, idle]
          | inr mine =>
              rw [counted, Option.some.injEq] at mine
              rw [expected]
              simp only
              rw [if_pos mine.1.symm, mine.1, ← numbers, mine.2]
              rfl
        · intro recording saving
          rw [← Option.some.inj saving, expected]
          simp only [if_true]
          exact numbers
        · exact sound.copies
    | none =>
        cases stored : storedRow state.accounts id with
        | none => exact sound
        | some row =>
            constructor
            · exact sound.distinct
            · exact ⟨sound.intact.counted, sound.intact.kept⟩
            · intro copy member
              have absent := copies_counted id (usage.apply now) state.pool.accounts
              rw [counted, eq_comm, Option.map_eq_none_iff, List.find?_eq_none] at absent
              have apart : ¬id = copy.id := by
                intro same
                apply absent copy member
                exact beq_iff_eq.mpr same.symm
              rw [expected]
              simp only
              rw [if_neg apart, sound.rotation copy member, idle]
            · intro recording saving
              rw [← Option.some.inj saving, expected]
              simp only [if_true]
              rw [statsOf, (applied row).1, sound.intact.counted id row stored]
            · exact sound.copies

/-- The rotation is made of stored rows. -/
theorem reload_sound (state : State Credit) (sound : Sound state) (allowOverUsage : Bool) :
    Sound (reloadPool state allowOverUsage) := by
  unfold reloadPool
  split_ifs with recording
  · exact sound
  · rw [Option.isSome_iff_ne_none, ne_eq, not_not] at recording
    constructor
    · exact sound.distinct
    · exact ⟨sound.intact.counted, sound.intact.kept⟩
    · intro copy member
      have stored : copy ∈ state.accounts := by
        rw [reload_accounts, mem_weighted] at member
        exact (List.mem_filter.mp (List.mem_filter.mp member).1).1
      rw [sound.intact.counted copy.id copy (stored_of_mem state.accounts sound.distinct copy stored)]
      exact (expected_idle _ recording copy.id).symm
    · exact sound.saving
    · exact sound.copies

theorem step_sound (credentialsLoaded : Bool) (state : State Credit) (event : Event Credit)
    (sound : Sound state) (keeps : KeepsUpdates state event) :
    Sound (step credentialsLoaded state event) := by
  cases event with
  | take thread id operation now =>
      exact take_sound credentialsLoaded state sound thread id operation now
  | takeFromPool thread id banStatus banReason =>
      exact take_from_pool_sound state sound thread id banStatus banReason
  | write thread now => exact write_sound state sound thread now keeps
  | updateCredentialInfo id info => exact credential_info_sound state sound id info
  | beginRecord id usage now => exact begin_record_sound state sound id usage now
  | finishRecord => exact finish_record_sound state sound
  | reload allowOverUsage => exact reload_sound state sound allowOverUsage

theorem step_in_force (credentialsLoaded : Bool) (state : State Credit) (event : Event Credit)
    (inForce : InForce state) : InForce (step credentialsLoaded state event) := by
  cases event with
  | take thread id operation now =>
      exact take_in_force credentialsLoaded state inForce thread id operation now
  | takeFromPool thread id banStatus banReason =>
      exact take_from_pool_in_force state inForce thread id banStatus banReason
  | write thread now => exact write_in_force state inForce thread now
  | updateCredentialInfo id info =>
      exact in_force_after_change state inForce id (fun account => withUsage account info)
        (fun _ => ⟨rfl, rfl, rfl⟩) state.totals state.recording
  | beginRecord id usage now =>
      change InForce (beginRecord state id usage now)
      unfold beginRecord
      split_ifs
      · exact inForce
      · simp only
        split
        · exact ⟨inForce.disabled, inForce.barred, inForce.copies⟩
        · split
          · exact inForce
          · exact ⟨inForce.disabled, inForce.barred, inForce.copies⟩
  | finishRecord => exact finish_record_in_force state inForce
  | reload allowOverUsage =>
      change InForce (reloadPool state allowOverUsage)
      unfold reloadPool
      split_ifs
      · exact inForce
      · exact ⟨inForce.disabled, inForce.barred, inForce.copies⟩

/-- In every run a copy's flags stand for a disable or a ban that the store still holds. -/
theorem flags_in_force (credentialsLoaded : Bool) (accounts : List (Account Credit))
    (events : List (Event Credit)) :
    InForce (run (step credentialsLoaded) (start accounts) events) := by
  apply invariant_of_steps (step credentialsLoaded) InForce
  · exact step_in_force credentialsLoaded
  · constructor
    · intro thread pending row none
      simp [start] at none
    · intro thread pending row none
      simp [start] at none
    · intro thread pending none
      simp [start] at none

/-- No counter and no ban is lost along a run, exactly when every whole copy is written back
in time. -/
theorem updates_kept_iff (credentialsLoaded : Bool) (accounts : List (Account Credit))
    (distinct : (accounts.map Account.id).Nodup) (events : List (Event Credit)) :
    Always (step credentialsLoaded) Intact (start accounts) events ↔
      StepsMeet (step credentialsLoaded) KeepsUpdates (start accounts) events := by
  apply always_iff_steps_meet (step credentialsLoaded) KeepsUpdates Sound Intact
  · intro state sound
    exact sound.intact
  · intro state event sound keeps
    exact step_sound credentialsLoaded state event sound keeps
  · intro state event sound intact
    cases event with
    | write thread now => exact write_needed state sound thread now intact
    | take thread id operation now => trivial
    | takeFromPool thread id banStatus banReason => trivial
    | updateCredentialInfo id info => trivial
    | beginRecord id usage now => trivial
    | finishRecord => trivial
    | reload allowOverUsage => trivial
  · exact start_sound accounts distinct

def servingAccount : Account Int := { newAccount (lit "a") with enabled := true }

/-- A fresh copy of a serving account, written back before anything else happens. -/
theorem fresh_write_kept :
    Always (step true) Intact (start [servingAccount])
      [.take 0 (lit "a") (.setAccountEnabled false) 1, (.write 0 1 : Event Int)] := by
  apply (updates_kept_iff true [servingAccount] (List.nodup_singleton _) _).mpr
  rw [steps_meet_cons, steps_meet_cons]
  refine ⟨trivial, ?_, steps_meet_nil _ _ _⟩
  intro pending waiting written edited row stored
  have held : ⟨.setAccountEnabled false, lit "a", servingAccount, false, false⟩ = pending :=
    Option.some.inj waiting
  rw [← held] at stored ⊢
  have same : servingAccount = row := Option.some.inj stored
  rw [← same]
  exact ⟨rfl, by simp, by simp⟩

/-- A usage is counted and the account is banned while an update of its identity is under
way: the update takes both back. -/
theorem stale_write_loses :
    let final := run (step true) (start [servingAccount])
      [.take 0 (lit "a") (.updateAccountInfo ⟨lit "e", [], 0, 0, []⟩) 1,
        .beginRecord (lit "a") (.outcome true 5 0) 2, .finishRecord,
        .take 1 (lit "a") (.setAccountBanStatus banned []) 3, .write 1 3,
        .write 0 4, (.reload false : Event Int)]
    final.recording = none ∧ (∀ thread, final.pending thread = none) ∧
      final.totals (lit "a") = ⟨1, 0, 5⟩ ∧
      (storedRow final.accounts (lit "a")).map counters = some ⟨0, 0, 0⟩ ∧
      (storedRow final.accounts (lit "a")).map isServing = some true ∧ final.undone = true := by
  intro final
  refine ⟨rfl, ?_, rfl, rfl, rfl, rfl⟩
  intro thread
  match thread with
  | 0 => rfl
  | 1 => rfl
  | thread + 2 => rfl

end Runs

end KiroProxy.AccountWrites
