import Mathlib.Data.List.Infix
import Mathlib.Order.Basic

/-!
# Runs of a step function

An interleaving of atomic operations is a list of events, and a run folds the
step function over it. The rules below lift a fact about one step to every
state a run reaches: unconditionally, or for the runs whose steps all meet a
guard on the state before the step.
-/

namespace KiroProxy.Foundation.Runs

set_option autoImplicit false

variable {State Event : Type*}

def run (step : State → Event → State) (start : State) (events : List Event) : State :=
  events.foldl step start

@[simp] theorem run_nil (step : State → Event → State) (start : State) :
    run step start [] = start := rfl

@[simp] theorem run_cons (step : State → Event → State) (start : State)
    (event : Event) (events : List Event) :
    run step start (event :: events) = run step (step start event) events := rfl

theorem run_append (step : State → Event → State) (start : State)
    (earlier later : List Event) :
    run step start (earlier ++ later) = run step (run step start earlier) later :=
  List.foldl_append

/-- What holds at the start and across every step holds after the run. -/
theorem invariant_of_steps (step : State → Event → State) (invariant : State → Prop)
    (preserved : ∀ state event, invariant state → invariant (step state event))
    (start : State) (initial : invariant start) (events : List Event) :
    invariant (run step start events) := by
  induction events generalizing start with
  | nil => exact initial
  | cons event events ih => exact ih (step start event) (preserved start event initial)

/-- The guard holds of every step of the run, read in the state before it. -/
def StepsMeet (step : State → Event → State) (guard : State → Event → Prop)
    (start : State) (events : List Event) : Prop :=
  ∀ earlier event later, events = earlier ++ event :: later →
    guard (run step start earlier) event

/-- The property holds in every state the run passes through, its last included. -/
def Always (step : State → Event → State) (property : State → Prop)
    (start : State) (events : List Event) : Prop :=
  ∀ earlier later, events = earlier ++ later → property (run step start earlier)

theorem steps_meet_nil (step : State → Event → State) (guard : State → Event → Prop)
    (start : State) : StepsMeet step guard start [] := by
  intro earlier event later same
  simp at same

theorem steps_meet_cons (step : State → Event → State) (guard : State → Event → Prop)
    (start : State) (event : Event) (events : List Event) :
    StepsMeet step guard start (event :: events) ↔
      guard start event ∧ StepsMeet step guard (step start event) events := by
  constructor
  · intro meets
    constructor
    · exact meets [] event events rfl
    · intro earlier next later same
      exact meets (event :: earlier) next later (by simp [same])
  · intro meets earlier next later same
    cases earlier with
    | nil =>
        simp only [List.nil_append, List.cons.injEq] at same
        rw [← same.1]
        exact meets.1
    | cons first earlier =>
        simp only [List.cons_append, List.cons.injEq] at same
        rw [← same.1]
        exact meets.2 earlier next later same.2

theorem always_cons (step : State → Event → State) (property : State → Prop)
    (start : State) (event : Event) (events : List Event) :
    Always step property start (event :: events) ↔
      property start ∧ Always step property (step start event) events := by
  constructor
  · intro holds
    constructor
    · exact holds [] (event :: events) rfl
    · intro earlier later same
      exact holds (event :: earlier) later (by simp [same])
  · intro holds earlier later same
    cases earlier with
    | nil => exact holds.1
    | cons first earlier =>
        simp only [List.cons_append, List.cons.injEq] at same
        rw [← same.1]
        exact holds.2 earlier later same.2

/-- If a guarded step keeps the invariant, a run of guarded steps keeps it in
every state. -/
theorem always_of_guarded_steps (step : State → Event → State)
    (guard : State → Event → Prop) (invariant : State → Prop)
    (preserved : ∀ state event, invariant state → guard state event →
      invariant (step state event))
    (start : State) (initial : invariant start) (events : List Event)
    (meets : StepsMeet step guard start events) :
    Always step invariant start events := by
  induction events generalizing start with
  | nil =>
      intro earlier later same
      have empty : earlier = [] := (List.append_eq_nil_iff.mp same.symm).1
      rw [empty]
      exact initial
  | cons event events ih =>
      rw [steps_meet_cons] at meets
      rw [always_cons]
      exact ⟨initial, ih (step start event)
        (preserved start event initial meets.1) meets.2⟩

/-- Among the runs whose steps are allowed: guards that say the same of every step, under an
invariant, say the same of the run. -/
theorem steps_meet_congr (step : State → Event → State)
    (allowed left right : State → Event → Prop) (invariant : State → Prop)
    (preserved : ∀ state event, invariant state → allowed state event →
      invariant (step state event))
    (same : ∀ state event, invariant state → allowed state event →
      (left state event ↔ right state event))
    (start : State) (initial : invariant start) (events : List Event)
    (admitted : StepsMeet step allowed start events) :
    StepsMeet step left start events ↔ StepsMeet step right start events := by
  have reached := always_of_guarded_steps step allowed invariant preserved start initial events
    admitted
  have pointwise : ∀ earlier event later, events = earlier ++ event :: later →
      (left (run step start earlier) event ↔ right (run step start earlier) event) :=
    fun earlier event later split =>
      same _ event (reached earlier (event :: later) split) (admitted earlier event later split)
  constructor
  · intro meets earlier event later split
    exact (pointwise earlier event later split).mp (meets earlier event later split)
  · intro meets earlier event later split
    exact (pointwise earlier event later split).mpr (meets earlier event later split)

/-- Among the runs whose steps are allowed: if the guard is what keeps the invariant across a
step, and what the property needs of it, a run has the property throughout exactly when its
steps all meet the guard. -/
theorem allowed_always_iff_steps_meet (step : State → Event → State)
    (allowed guard : State → Event → Prop) (invariant property : State → Prop)
    (implies : ∀ state, invariant state → property state)
    (kept : ∀ state event, invariant state → allowed state event → guard state event →
      invariant (step state event))
    (needed : ∀ state event, invariant state → property (step state event) →
      guard state event)
    (start : State) (initial : invariant start) (events : List Event)
    (admitted : StepsMeet step allowed start events) :
    Always step property start events ↔ StepsMeet step guard start events := by
  induction events generalizing start with
  | nil =>
      constructor
      · intro _
        exact steps_meet_nil step guard start
      · intro _ earlier later same
        have empty : earlier = [] := (List.append_eq_nil_iff.mp same.symm).1
        rw [empty]
        exact implies start initial
  | cons event events ih =>
      rw [steps_meet_cons] at admitted
      rw [always_cons, steps_meet_cons]
      constructor
      · intro holds
        have met : guard start event :=
          needed start event initial (holds.2 [] events rfl)
        exact ⟨met, (ih _ (kept start event initial admitted.1 met) admitted.2).mp holds.2⟩
      · intro meets
        exact ⟨implies start initial,
          (ih _ (kept start event initial admitted.1 meets.1) admitted.2).mpr meets.2⟩

/-- The same of all runs. -/
theorem always_iff_steps_meet (step : State → Event → State)
    (guard : State → Event → Prop) (invariant property : State → Prop)
    (implies : ∀ state, invariant state → property state)
    (kept : ∀ state event, invariant state → guard state event →
      invariant (step state event))
    (needed : ∀ state event, invariant state → property (step state event) →
      guard state event)
    (start : State) (initial : invariant start) (events : List Event) :
    Always step property start events ↔ StepsMeet step guard start events := by
  apply allowed_always_iff_steps_meet step (fun _ _ => True) guard invariant property implies
  · intro state event holds _
    exact kept state event holds
  · exact needed
  · exact initial
  · intro _ _ _ _
    trivial

/-- The measure never falls between two states the run passes through. -/
def Rises {Value : Type*} [LE Value] (step : State → Event → State)
    (measure : State → Value) (start : State) (events : List Event) : Prop :=
  ∀ earlier middle later, events = earlier ++ (middle ++ later) →
    measure (run step start earlier) ≤ measure (run step start (earlier ++ middle))

/-- A measure rises along a run exactly when it falls at no step of it. -/
theorem rises_iff_steps_meet {Value : Type*} [Preorder Value]
    (step : State → Event → State) (measure : State → Value)
    (guard : State → Event → Prop)
    (same : ∀ state event, measure state ≤ measure (step state event) ↔ guard state event)
    (start : State) (events : List Event) :
    Rises step measure start events ↔ StepsMeet step guard start events := by
  constructor
  · intro rises earlier event later split
    have one : measure (run step start earlier) ≤
        measure (run step start (earlier ++ [event])) :=
      rises earlier [event] later split
    rw [run_append] at one
    exact (same (run step start earlier) event).mp one
  · intro meets earlier middle
    induction middle generalizing earlier with
    | nil =>
        intro later _
        simp
    | cons event middle ih =>
        intro later split
        have met : guard (run step start earlier) event :=
          meets earlier event (middle ++ later) split
        have one : measure (run step start earlier) ≤
            measure (run step start (earlier ++ [event])) := by
          rw [run_append]
          exact (same (run step start earlier) event).mpr met
        have rest : measure (run step start (earlier ++ [event])) ≤
            measure (run step start (earlier ++ [event] ++ middle)) :=
          ih (earlier ++ [event]) later (by simp [split])
        rw [List.append_cons]
        exact le_trans one rest

theorem run_of_always (step : State → Event → State) (property : State → Prop)
    (start : State) (events : List Event) (holds : Always step property start events) :
    property (run step start events) :=
  holds events [] (by simp)

end KiroProxy.Foundation.Runs
