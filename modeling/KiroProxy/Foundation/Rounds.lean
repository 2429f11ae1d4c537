import Mathlib.Data.List.Basic

/-!
# Loops of rounds

A loop whose rounds each leave a record and either go on in a next state or end the loop
with a result. A round knows how many came before it.
-/

namespace KiroProxy.Foundation.Rounds

set_option autoImplicit false

variable {State Record Result : Type*}

inductive RoundEnd (State Result : Type*) where
  | again (next : State)
  | stop (result : Result)

variable (round : Nat → State → Record × RoundEnd State Result)

/-- The records of the rounds; no result where the fuel is spent. -/
def rounds : Nat → Nat → State → List Record × Option Result
  | 0, _, _ => ([], none)
  | fuel + 1, index, state =>
      match round index state with
      | (record, .again next) =>
          (record :: (rounds fuel (index + 1) next).1, (rounds fuel (index + 1) next).2)
      | (record, .stop result) => ([record], some result)

theorem rounds_bounded (fuel index : Nat) (state : State) :
    (rounds round fuel index state).1.length ≤ fuel := by
  induction fuel generalizing index state with
  | zero => exact Nat.le_refl 0
  | succ fuel ih =>
      rw [rounds]
      split
      · exact Nat.succ_le_succ (ih _ _)
      · exact Nat.succ_le_succ (Nat.zero_le fuel)

/-- Fuel for the round that always stops is enough. -/
theorem rounds_stop (bound : Nat)
    (stops : ∀ state, ∃ result, (round bound state).2 = .stop result) (fuel index : Nat)
    (state : State) (before : index ≤ bound) (enough : bound < index + fuel) :
    ∃ result, (rounds round fuel index state).2 = some result := by
  induction fuel generalizing index state with
  | zero => omega
  | succ fuel ih =>
      rw [rounds]
      split
      next record next again =>
        apply ih
        · by_contra beyond
          have last : index = bound := by omega
          obtain ⟨result, stopped⟩ := stops state
          rw [← last, again] at stopped
          cases stopped
        · omega
      next record result stopped => exact ⟨result, rfl⟩

/-- What every round that goes on keeps of the records and the state, and every round that
stops turns into a fact about its result, holds of the result of the loop. -/
theorem rounds_track (tracks : List Record → State → Prop) (ends : List Record → Result → Prop)
    (again : ∀ before state record next, tracks before state →
      round before.length state = (record, .again next) → tracks (before ++ [record]) next)
    (stop : ∀ before state record result, tracks before state →
      round before.length state = (record, .stop result) → ends (before ++ [record]) result)
    (fuel : Nat) (before : List Record) (state : State) (initial : tracks before state)
    (result : Result) (finished : (rounds round fuel before.length state).2 = some result) :
    ends (before ++ (rounds round fuel before.length state).1) result := by
  induction fuel generalizing before state with
  | zero => cases finished
  | succ fuel ih =>
      rw [rounds] at finished ⊢
      split at finished
      next record next goes =>
        have tracked := again before state record next initial goes
        have rest := ih (before ++ [record]) next tracked
        rw [List.length_append, List.length_singleton] at rest
        rw [List.append_cons]
        exact rest finished
      next record last stopped =>
        cases finished
        exact stop before state record result initial stopped

/-- A property of every record and those before it. -/
def EachRound (property : List Record → Record → Prop) (records : List Record) : Prop :=
  ∀ earlier record later, records = earlier ++ record :: later → property earlier record

theorem each_nil (property : List Record → Record → Prop) : EachRound property [] := by
  intro earlier record later split
  exact absurd split.symm (List.append_ne_nil_of_right_ne_nil earlier (List.cons_ne_nil _ _))

theorem each_concat (property : List Record → Record → Prop) (before : List Record)
    (record : Record) (each : EachRound property before) (last : property before record) :
    EachRound property (before ++ [record]) := by
  intro earlier other later split
  rw [List.append_eq_append_iff] at split
  rcases split with ⟨between, longer, behind⟩ | ⟨between, shorter, within⟩
  · obtain ⟨none, same⟩ : between = [] ∧ record = other := by
      cases between with
      | nil => exact ⟨rfl, (List.cons.inj behind).1⟩
      | cons first rest => simp at behind
    rw [longer, none, List.append_nil, ← same]
    exact last
  · cases between with
    | nil =>
        rw [List.append_nil] at shorter
        rw [← shorter, (List.cons.inj within).1]
        exact last
    | cons first rest =>
        rw [(List.cons.inj within).1]
        exact each earlier first rest shorter

end KiroProxy.Foundation.Rounds
