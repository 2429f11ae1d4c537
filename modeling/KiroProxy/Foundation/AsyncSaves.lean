import Mathlib.Data.List.Basic

/-!
# Saves behind the changes they save

A value in memory changes under a lock. A save is asked for by a change, takes
its snapshot of the value at some later time, and commits it at a time later
still, beside other saves. When all of them have finished, what is stored is the
value in memory if the saves commit in the order of their snapshots, and if the
value changes without asking for a save only while one has yet to look at it.
-/

namespace KiroProxy.Foundation.AsyncSaves

set_option autoImplicit false

structure Snapshot (Value : Type*) where
  number : Nat
  value : Value

structure Saver (Value : Type*) where
  current : Value
  stored : Value
  /-- The saves that have yet to take their snapshot. -/
  waiting : Nat
  /-- The snapshots that have yet to be committed. -/
  taken : List (Snapshot Value)
  newest : Snapshot Value
  /-- The number of the snapshot that is stored. -/
  committed : Nat

inductive SaveStep (Value : Type*) where
  /-- A change that asks for a save. -/
  | change (value : Value)
  /-- A change that asks for none. -/
  | drift (value : Value)
  | snapshot
  | commit (index : Nat)

variable {Value : Type*}

/-- A value that is stored. -/
def Saver.start (value : Value) : Saver Value := ⟨value, value, 0, [], ⟨0, value⟩, 0⟩

def Saver.takeSnapshot (saver : Saver Value) : Saver Value :=
  match saver.waiting with
  | 0 => saver
  | waiting + 1 =>
      let newest : Snapshot Value := ⟨saver.newest.number + 1, saver.current⟩
      { saver with waiting := waiting, taken := saver.taken ++ [newest], newest := newest }

def Saver.commit (saver : Saver Value) (index : Nat) : Saver Value :=
  match saver.taken[index]? with
  | none => saver
  | some snapshot =>
      { saver with
        stored := snapshot.value
        taken := saver.taken.eraseIdx index
        committed := snapshot.number }

def Saver.step (saver : Saver Value) : SaveStep Value → Saver Value
  | .change value => { saver with current := value, waiting := saver.waiting + 1 }
  | .drift value => { saver with current := value }
  | .snapshot => saver.takeSnapshot
  | .commit index => saver.commit index

/-- No newer snapshot is overwritten, and with no save to come the value stays. -/
def InOrder (saver : Saver Value) : SaveStep Value → Prop
  | .change _ => True
  | .drift value => saver.waiting = 0 → value = saver.current
  | .snapshot => True
  | .commit index => ∀ snapshot ∈ saver.taken[index]?, saver.committed ≤ snapshot.number

structure Tracked (saver : Saver Value) : Prop where
  fresh : 0 < saver.waiting ∨ saver.newest.value = saver.current
  placed : saver.newest ∈ saver.taken ∨
    saver.committed = saver.newest.number ∧ saver.stored = saver.newest.value
  numbered : ∀ snapshot ∈ saver.taken, snapshot.number ≤ saver.newest.number ∧
    (snapshot.number = saver.newest.number → snapshot = saver.newest)

theorem start_tracked (value : Value) : Tracked (Saver.start value) where
  fresh := .inr rfl
  placed := .inr ⟨rfl, rfl⟩
  numbered := fun _ member => absurd member List.not_mem_nil

theorem snapshot_tracked (saver : Saver Value) (tracked : Tracked saver) :
    Tracked saver.takeSnapshot := by
  unfold Saver.takeSnapshot
  cases waits : saver.waiting with
  | zero => exact tracked
  | succ waiting =>
      refine ⟨.inr rfl, .inl (List.mem_append_right _ List.mem_cons_self), ?_⟩
      intro snapshot member
      simp only
      rcases List.mem_append.mp member with earlier | last
      · have below := (tracked.numbered snapshot earlier).1
        exact ⟨Nat.le_succ_of_le below, fun same => by omega⟩
      · rw [List.mem_singleton.mp last]
        exact ⟨Nat.le_refl _, fun _ => rfl⟩

/-- A commit stores the newest snapshot, or leaves it to be committed. -/
theorem commit_tracked (saver : Saver Value) (index : Nat) (tracked : Tracked saver)
    (inOrder : InOrder saver (.commit index)) : Tracked (saver.commit index) := by
  unfold Saver.commit
  cases found : saver.taken[index]? with
  | none => exact tracked
  | some snapshot =>
      have member := List.mem_of_getElem? found
      have own := tracked.numbered snapshot member
      refine ⟨tracked.fresh, ?_, ?_⟩
      · by_cases last : snapshot.number = saver.newest.number
        · exact .inr ⟨last, congrArg Snapshot.value (own.2 last)⟩
        · rcases tracked.placed with pending | ⟨stored, -⟩
          · left
            obtain ⟨place, there⟩ := List.mem_iff_getElem?.mp pending
            rw [List.mem_eraseIdx_iff_getElem?]
            refine ⟨place, ?_, there⟩
            intro same
            rw [same, found] at there
            exact last (congrArg Snapshot.number (Option.some.inj there))
          · have newer := inOrder snapshot (Option.mem_def.mpr found)
            omega
      · intro other remains
        exact tracked.numbered other (List.mem_of_mem_eraseIdx remains)

theorem step_tracked (saver : Saver Value) (step : SaveStep Value) (tracked : Tracked saver)
    (inOrder : InOrder saver step) : Tracked (saver.step step) := by
  cases step with
  | change value =>
      exact ⟨.inl (Nat.succ_pos _), tracked.placed, tracked.numbered⟩
  | drift value =>
      refine ⟨?_, tracked.placed, tracked.numbered⟩
      rcases tracked.fresh with waits | same
      · exact .inl waits
      · rcases Nat.eq_zero_or_pos saver.waiting with none_ | waits
        · exact .inr (same.trans (inOrder none_).symm)
        · exact .inl waits
  | snapshot => exact snapshot_tracked saver tracked
  | commit index => exact commit_tracked saver index tracked inOrder

/-- With every save finished, the value in memory is stored. -/
theorem tracked_stored (saver : Saver Value) (tracked : Tracked saver)
    (none_ : saver.waiting = 0) (done : saver.taken = []) : saver.stored = saver.current := by
  have fresh : saver.newest.value = saver.current := by
    rcases tracked.fresh with waits | same
    · exact absurd waits (by omega)
    · exact same
  rcases tracked.placed with pending | ⟨-, stored⟩
  · rw [done] at pending
    exact absurd pending List.not_mem_nil
  · exact stored.trans fresh

end KiroProxy.Foundation.AsyncSaves
