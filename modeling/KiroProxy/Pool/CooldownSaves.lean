import KiroProxy.Foundation.AsyncSaves
import KiroProxy.Pool.Cooldowns

/-!
# Persisted cooldowns

`SaveCooldowns` of `pool/cooldown_persist.go` behind the calls that cool an
account or clear it. A failure asks for a save, which takes its snapshot under
the pool's lock and replaces the rows of the table in a transaction later. A
success clears a cooldown and asks for none.
-/

namespace KiroProxy.Pool

open ApiKeys (CreditAmount)
open Foundation.AsyncSaves Foundation.Runs

set_option autoImplicit false

/-- The rows of the table: when the cooldown of an account expires, in Unix seconds. -/
abbrev CooldownRows := GoString → Option Int

section Saving

variable {Credit : Type}

/-- What `SaveCooldowns` finds to save. -/
def activeCooldowns (pool : AccountPool Credit) (now : Time) : CooldownRows := fun id =>
  match pool.cooldowns id with
  | none => none
  | some cooldown => if now < cooldown then some (unix cooldown) else none

def recordSuccess (pool : AccountPool Credit) (id : GoString) : AccountPool Credit :=
  { pool with
    cooldowns := fun other => if other = id then none else pool.cooldowns other
    errorCounts := fun other => if other = id then 0 else pool.errorCounts other }

/-- The calls that cool or clear an account, and the two halves of a save. -/
inductive CooldownStep (Credit : Type) where
  | failure (call : FailureCall Credit)
  | success (id : GoString) (now : Time)
  | snapshot (now : Time)
  | commit (index : Nat) (now : Time)

/-- The pool with its saves; what is stored is the table. -/
structure SavingPool (Credit : Type) where
  pool : AccountPool Credit
  saves : Saver CooldownRows
  clock : Time

/-- A pool whose cooldowns are those of the table, as after `loadCooldowns`. -/
def startSaving (pool : AccountPool Credit) (now : Time) : SavingPool Credit where
  pool := pool
  saves := Saver.start (activeCooldowns pool now)
  clock := now

/-- Time passes; what there is to save is what is active now. -/
def SavingPool.advance (run : SavingPool Credit) (pool : AccountPool Credit) (now : Time) :
    SavingPool Credit where
  pool := pool
  saves := run.saves.step (.drift (activeCooldowns pool now))
  clock := now

variable [CreditAmount Credit]

def SavingPool.step (run : SavingPool Credit) : CooldownStep Credit → SavingPool Credit
  | .failure call =>
      { pool := recordFailure run.pool call
        saves := run.saves.step (.change (activeCooldowns (recordFailure run.pool call) call.now))
        clock := call.now }
  | .success id now => run.advance (recordSuccess run.pool id) now
  | .snapshot now =>
      let reached := run.advance run.pool now
      { reached with saves := reached.saves.step .snapshot }
  | .commit index now =>
      let reached := run.advance run.pool now
      { reached with saves := reached.saves.step (.commit index) }

/-- When every save has finished, the table holds the active cooldowns. -/
def TableAgrees (run : SavingPool Credit) : Prop :=
  run.saves.waiting = 0 → run.saves.taken = [] →
    ∀ id seconds, run.saves.stored id = some seconds ↔
      ∃ cooldown, run.pool.cooldowns id = some cooldown ∧ run.clock < cooldown ∧
        unix cooldown = seconds

/-- No cooldown that is active runs out by now. -/
def NoneRunsOut (run : SavingPool Credit) (now : Time) : Prop :=
  ∀ id cooldown, run.pool.cooldowns id = some cooldown → (run.clock < cooldown ↔ now < cooldown)

/-- With no save still to take its snapshot, no active cooldown is cleared or runs out; and no
newer snapshot is overwritten. -/
def SavesAgree (run : SavingPool Credit) : CooldownStep Credit → Prop
  | .failure _ => True
  | .success id now =>
      run.saves.waiting = 0 → isCooling run.pool id run.clock = false ∧ NoneRunsOut run now
  | .snapshot now => run.saves.waiting = 0 → NoneRunsOut run now
  | .commit index now =>
      (run.saves.waiting = 0 → NoneRunsOut run now) ∧
        ∀ snapshot ∈ run.saves.taken[index]?, run.saves.committed ≤ snapshot.number

end Saving

section Runs

variable {Credit : Type}

theorem active_iff (pool : AccountPool Credit) (now : Time) (id : GoString) (seconds : Int) :
    activeCooldowns pool now id = some seconds ↔
      ∃ cooldown, pool.cooldowns id = some cooldown ∧ now < cooldown ∧
        unix cooldown = seconds := by
  unfold activeCooldowns
  cases pool.cooldowns id with
  | none => simp
  | some cooldown => simp

/-- The saves are tracked, and would save what is active. -/
structure PoolTracked (run : SavingPool Credit) : Prop where
  saves : Tracked run.saves
  current : run.saves.current = activeCooldowns run.pool run.clock

theorem start_pool_tracked (pool : AccountPool Credit) (now : Time) :
    PoolTracked (startSaving pool now) := ⟨start_tracked _, rfl⟩

theorem active_kept (run : SavingPool Credit) (now : Time) (none_ : NoneRunsOut run now) :
    activeCooldowns run.pool now = activeCooldowns run.pool run.clock := by
  funext id
  unfold activeCooldowns
  cases found : run.pool.cooldowns id with
  | none => rfl
  | some cooldown => simp only [none_ id cooldown found]

/-- Clearing an account that is not cooling clears no row. -/
theorem success_kept (pool : AccountPool Credit) (cleared : GoString) (now : Time)
    (idle : isCooling pool cleared now = false) :
    activeCooldowns (recordSuccess pool cleared) now = activeCooldowns pool now := by
  funext id
  unfold activeCooldowns recordSuccess
  simp only
  split_ifs with same
  · rw [same]
    unfold isCooling at idle
    cases found : pool.cooldowns cleared with
    | none => rfl
    | some cooldown =>
        rw [found] at idle
        exact (if_neg (of_decide_eq_false idle)).symm
  · rfl

theorem advance_tracked (run : SavingPool Credit) (pool : AccountPool Credit) (now : Time)
    (tracked : PoolTracked run)
    (keeps : run.saves.waiting = 0 →
      activeCooldowns pool now = activeCooldowns run.pool run.clock) :
    PoolTracked (run.advance pool now) := by
  refine ⟨step_tracked run.saves (.drift (activeCooldowns pool now)) tracked.saves ?_, rfl⟩
  intro none_
  rw [tracked.current]
  exact keeps none_

/-- An account that is not cooling does not begin to. -/
theorem idle_later (run : SavingPool Credit) (id : GoString) (now : Time)
    (idle : isCooling run.pool id run.clock = false) (none_ : NoneRunsOut run now) :
    isCooling run.pool id now = false := by
  unfold isCooling at *
  cases found : run.pool.cooldowns id with
  | none => rfl
  | some cooldown =>
      rw [found] at idle
      have ended := of_decide_eq_false idle
      rw [none_ id cooldown found] at ended
      exact decide_eq_false ended

theorem tracked_agrees (run : SavingPool Credit) (tracked : PoolTracked run) :
    TableAgrees run := by
  intro none_ done id seconds
  rw [tracked_stored run.saves tracked.saves none_ done, tracked.current]
  exact active_iff run.pool run.clock id seconds

theorem take_snapshot_current {Value : Type} (saver : Saver Value) :
    saver.takeSnapshot.current = saver.current := by
  unfold Saver.takeSnapshot
  cases saver.waiting with
  | zero => rfl
  | succ waiting => rfl

theorem commit_current {Value : Type} (saver : Saver Value) (index : Nat) :
    (saver.commit index).current = saver.current := by
  unfold Saver.commit
  cases saver.taken[index]? with
  | none => rfl
  | some snapshot => rfl

variable [CreditAmount Credit]

theorem pool_step_tracked (run : SavingPool Credit) (step : CooldownStep Credit)
    (tracked : PoolTracked run) (agree : SavesAgree run step) : PoolTracked (run.step step) := by
  cases step with
  | failure call =>
      exact ⟨step_tracked run.saves
        (.change (activeCooldowns (recordFailure run.pool call) call.now)) tracked.saves trivial,
        rfl⟩
  | success id now =>
      apply advance_tracked run _ now tracked
      intro none_
      obtain ⟨idle, stays⟩ := agree none_
      rw [success_kept run.pool id now (idle_later run id now idle stays)]
      exact active_kept run now stays
  | snapshot now =>
      have reached := advance_tracked run run.pool now tracked
        fun none_ => active_kept run now (agree none_)
      exact ⟨step_tracked _ .snapshot reached.saves trivial,
        (take_snapshot_current _).trans reached.current⟩
  | commit index now =>
      have reached := advance_tracked run run.pool now tracked
        fun none_ => active_kept run now (agree.1 none_)
      exact ⟨step_tracked _ (.commit index) reached.saves agree.2,
        (commit_current _ index).trans reached.current⟩

/-- Where the saves agree step by step, a restart finds the cooldowns that are active. -/
theorem saved_cooldowns_agree (pool : AccountPool Credit) (now : Time)
    (steps : List (CooldownStep Credit))
    (meets : StepsMeet SavingPool.step SavesAgree (startSaving pool now) steps) :
    Always SavingPool.step TableAgrees (startSaving pool now) steps := by
  have tracked := always_of_guarded_steps SavingPool.step SavesAgree PoolTracked
    pool_step_tracked (startSaving pool now) (start_pool_tracked pool now) steps meets
  exact fun earlier later split => tracked_agrees _ (tracked earlier later split)

end Runs

section Cleared

/-- An account is throttled, and the save of that finishes. -/
def throttledSaved : List (CooldownStep Int) :=
  [.failure { id := lit "a", now := start, failure := .throttleError 0 }, .snapshot start,
    .commit 0 start]

theorem throttled_saved_agrees :
    Always SavingPool.step TableAgrees (startSaving newPool start) throttledSaved := by
  apply saved_cooldowns_agree
  rw [throttledSaved, steps_meet_cons, steps_meet_cons, steps_meet_cons]
  refine ⟨trivial, ?_, ⟨?_, ?_⟩, steps_meet_nil _ _ _⟩
  · exact fun none_ => absurd none_ (by decide)
  · exact fun _ id cooldown _ => Iff.rfl
  · exact fun snapshot _ => Nat.zero_le _

/-- A success clears the cooldown in memory only. -/
theorem success_not_saved :
    ¬Always SavingPool.step TableAgrees (startSaving newPool start)
      (throttledSaved ++ [.success (lit "a") (start + second)]) := by
  intro always
  have agrees := always _ [] (List.append_nil _).symm (by decide) rfl (lit "a")
    (unix (start + minute))
  obtain ⟨cooldown, cooling, -⟩ := agrees.mp (by decide)
  have gone : (run SavingPool.step (startSaving newPool start)
      (throttledSaved ++ [.success (lit "a") (start + second)])).pool.cooldowns (lit "a") =
        none := by decide
  exact absurd (gone.symm.trans cooling) (Option.some_ne_none cooldown).symm

end Cleared

end KiroProxy.Pool
