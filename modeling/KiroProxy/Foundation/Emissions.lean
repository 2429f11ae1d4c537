import Mathlib.Data.List.Basic
import Mathlib.Logic.IsEmpty.Basic

/-!
# Fallible steps with outputs

A step changes the state, makes outputs in order and may fault; nothing runs behind a fault.
-/

namespace KiroProxy.Foundation.Emissions

set_option autoImplicit false

variable {State Event Output Fault : Type*}

structure Emission (State Output Fault : Type*) where
  state : State
  outputs : List Output
  fault : Option Fault

namespace Emission

def done (state : State) : Emission State Output Fault := ⟨state, [], none⟩

def andThen (first : Emission State Output Fault)
    (next : State → Emission State Output Fault) : Emission State Output Fault :=
  match first.fault with
  | some fault => ⟨first.state, first.outputs, some fault⟩
  | none =>
      ⟨(next first.state).state, first.outputs ++ (next first.state).outputs,
        (next first.state).fault⟩

theorem then_of_fault (first : Emission State Output Fault)
    (next : State → Emission State Output Fault) (fault : Fault)
    (faulty : first.fault = some fault) : first.andThen next = first := by
  obtain ⟨state, outputs, other⟩ := first
  cases faulty
  rfl

theorem then_of_none (first : Emission State Output Fault)
    (next : State → Emission State Output Fault) (clean : first.fault = none) :
    first.andThen next = ⟨(next first.state).state, first.outputs ++ (next first.state).outputs,
      (next first.state).fault⟩ := by
  rw [andThen, clean]

/-- Nothing faults in a whole that does not. -/
theorem parts_clean (first : Emission State Output Fault)
    (next : State → Emission State Output Fault) (clean : (first.andThen next).fault = none) :
    first.fault = none ∧ (next first.state).fault = none := by
  cases faulty : first.fault with
  | some fault =>
      rw [then_of_fault first next fault faulty, faulty] at clean
      exact absurd clean (Option.some_ne_none fault)
  | none =>
      rw [then_of_none first next faulty] at clean
      exact ⟨rfl, clean⟩

theorem then_assoc (first : Emission State Output Fault)
    (second third : State → Emission State Output Fault) :
    (first.andThen second).andThen third =
      first.andThen fun state => (second state).andThen third := by
  cases faulty : first.fault with
  | some fault =>
      rw [then_of_fault first second fault faulty, then_of_fault first third fault faulty,
        then_of_fault first _ fault faulty]
  | none =>
      rw [then_of_none first second faulty, then_of_none first _ faulty]
      cases later : (second first.state).fault with
      | some fault => simp [andThen, later]
      | none => simp [andThen, later, List.append_assoc]

/-- A relation between states and the outputs between them holds along both parts. -/
theorem then_along (relates : State → List Output → State → Prop)
    (composes : ∀ state earlier middle later last, relates state earlier middle →
      relates middle later last → relates state (earlier ++ later) last)
    (state : State) (first : Emission State Output Fault)
    (next : State → Emission State Output Fault) (left : relates state first.outputs first.state)
    (right : ∀ middle, relates middle (next middle).outputs (next middle).state) :
    relates state (first.andThen next).outputs (first.andThen next).state := by
  cases faulty : first.fault with
  | some fault =>
      rw [then_of_fault first next fault faulty]
      exact left
  | none =>
      rw [then_of_none first next faulty]
      exact composes state first.outputs first.state _ _ left (right first.state)

section Faultless

variable [IsEmpty Fault]

theorem fault_absent (run : Emission State Output Fault) : run.fault = none :=
  Option.eq_none_iff_forall_ne_some.mpr fun fault => isEmptyElim fault

@[simp] theorem then_state (first : Emission State Output Fault)
    (next : State → Emission State Output Fault) :
    (first.andThen next).state = (next first.state).state := by
  rw [then_of_none first next (fault_absent first)]

@[simp] theorem then_outputs (first : Emission State Output Fault)
    (next : State → Emission State Output Fault) :
    (first.andThen next).outputs = first.outputs ++ (next first.state).outputs := by
  rw [then_of_none first next (fault_absent first)]

end Faultless

end Emission

open Emission

/-- The steps of a list of events, up to the first fault. -/
def emitAll (step : State → Event → Emission State Output Fault) :
    State → List Event → Emission State Output Fault
  | state, [] => done state
  | state, event :: events => (step state event).andThen fun next => emitAll step next events

/-- What every step keeps, faulty ones included, every list of events keeps. -/
theorem emit_all_keeps (step : State → Event → Emission State Output Fault)
    (invariant : State → Prop) (allowed : Event → Prop)
    (preserved : ∀ state event, invariant state → allowed event →
      invariant (step state event).state)
    (state : State) (initial : invariant state) (events : List Event)
    (each : ∀ event ∈ events, allowed event) : invariant (emitAll step state events).state := by
  induction events generalizing state with
  | nil => exact initial
  | cons event events ih =>
      have next := preserved state event initial (each event List.mem_cons_self)
      rw [emitAll]
      cases faulty : (step state event).fault with
      | some fault =>
          rw [then_of_fault _ _ fault faulty]
          exact next
      | none =>
          rw [then_of_none _ _ faulty]
          exact ih _ next fun other member => each other (List.mem_cons_of_mem _ member)

theorem emit_all_along (relates : State → List Output → State → Prop)
    (stays : ∀ state, relates state [] state)
    (composes : ∀ state earlier middle later last, relates state earlier middle →
      relates middle later last → relates state (earlier ++ later) last)
    (step : State → Event → Emission State Output Fault)
    (each : ∀ state event, relates state (step state event).outputs (step state event).state)
    (events : List Event) (state : State) :
    relates state (emitAll step state events).outputs (emitAll step state events).state := by
  induction events generalizing state with
  | nil => exact stays state
  | cons event events ih =>
      rw [emitAll]
      exact then_along relates composes state _ _ (each state event) ih

/-- A relation between the events so far, the outputs so far and the state, carried through
a list of events that does not fault. -/
theorem emit_all_tracks (step : State → Event → Emission State Output Fault)
    (tracks : List Event → List Output → State → Prop) (allowed : List Event → Event → Prop)
    (tracked : ∀ before outputs state event, tracks before outputs state → allowed before event →
      (step state event).fault = none →
      tracks (before ++ [event]) (outputs ++ (step state event).outputs) (step state event).state)
    (events before : List Event) (outputs : List Output) (state : State)
    (initial : tracks before outputs state)
    (each : ∀ earlier event later, events = earlier ++ event :: later →
      allowed (before ++ earlier) event)
    (clean : (emitAll step state events).fault = none) :
    tracks (before ++ events) (outputs ++ (emitAll step state events).outputs)
      (emitAll step state events).state := by
  induction events generalizing before outputs state with
  | nil => simpa [emitAll, done] using initial
  | cons event events ih =>
      rw [emitAll] at clean ⊢
      have parts := parts_clean _ _ clean
      have first := each [] event events rfl
      rw [List.append_nil] at first
      have next := tracked before outputs state event initial first parts.1
      have rest := ih (before ++ [event]) _ _ next (by
        intro earlier other later same
        have whole := each (event :: earlier) other later (by rw [same]; rfl)
        rwa [List.append_assoc]) parts.2
      rw [then_of_none _ _ parts.1]
      simpa [List.append_assoc] using rest

/-- Where no step faults in a tracked state, none faults. -/
theorem emit_all_clean (step : State → Event → Emission State Output Fault)
    (tracks : List Event → List Output → State → Prop) (allowed : List Event → Event → Prop)
    (tracked : ∀ before outputs state event, tracks before outputs state → allowed before event →
      (step state event).fault = none ∧
        tracks (before ++ [event]) (outputs ++ (step state event).outputs) (step state event).state)
    (events before : List Event) (outputs : List Output) (state : State)
    (initial : tracks before outputs state)
    (each : ∀ earlier event later, events = earlier ++ event :: later →
      allowed (before ++ earlier) event) : (emitAll step state events).fault = none := by
  induction events generalizing before outputs state with
  | nil => rfl
  | cons event events ih =>
      have first := each [] event events rfl
      rw [List.append_nil] at first
      obtain ⟨clean, next⟩ := tracked before outputs state event initial first
      rw [emitAll, then_of_none _ _ clean]
      apply ih (before ++ [event]) _ _ next
      intro earlier other later same
      have whole := each (event :: earlier) other later (by rw [same]; rfl)
      rwa [List.append_assoc]

/-- Steps that leave the state alone: their outputs follow each other up to a fault. -/
theorem emit_all_still (step : State → Event → Emission State Output Fault) (state : State)
    (still : ∀ event, (step state event).state = state) (events : List Event) :
    ((emitAll step state events).fault = none ↔
        ∀ event ∈ events, (step state event).fault = none) ∧
      ((emitAll step state events).fault = none →
        (emitAll step state events).outputs = events.flatMap fun event =>
          (step state event).outputs) := by
  induction events with
  | nil => simp [emitAll, done]
  | cons event events ih =>
      rw [emitAll, List.forall_mem_cons]
      cases faulty : (step state event).fault with
      | some fault =>
          rw [then_of_fault _ _ fault faulty, faulty]
          simp
      | none =>
          rw [then_of_none _ _ faulty, still]
          refine ⟨by simpa using ih.1, ?_⟩
          intro clean
          rw [List.flatMap_cons, ← ih.2 clean]

end KiroProxy.Foundation.Emissions
