import Mathlib.Algebra.BigOperators.Group.List.Basic
import Mathlib.Algebra.Order.Ring.Nat
import Mathlib.Tactic.SplitIfs

/-!
# Calls that share a flight

A call that finds a flight under way waits for it to close; otherwise it leads the next one. A
flight is worked on, ended, cleared from the group, and closed, by its leader. Whatever the
interleaving, one flight at a time is under way, and a call returns from a flight that was not
over when the call came.
-/

namespace KiroProxy.Foundation.SharedFlights

set_option autoImplicit false

inductive Stage where
  | working
  | ended
  | cleared
  | closed
  deriving DecidableEq

/-- `since` is the first flight that was not cleared when the call came. -/
inductive Call where
  | calling (since : Nat)
  | leading (since flight : Nat)
  | waiting (since flight : Nat)
  | returned (since flight : Nat)
  deriving DecidableEq

structure Group where
  running : Option Nat
  stages : List Stage
  calls : List Call

inductive Event where
  | arrive
  | enter (call : Nat)
  | finish (call : Nat)
  | clear (call : Nat)
  | close (call : Nat)
  | wake (call : Nat)

def Group.idle : Group := ⟨none, [], []⟩

def Group.frontier (group : Group) : Nat := group.running.getD group.stages.length

def Group.turn (group : Group) (place : Nat) (call : Call) : Group :=
  { group with calls := group.calls.set place call }

def Group.lead (group : Group) (place since : Nat) : Group where
  running := some group.stages.length
  stages := group.stages ++ [.working]
  calls := group.calls.set place (.leading since group.stages.length)

def Group.move (group : Group) (flight : Nat) (stage : Stage) (running : Option Nat) : Group where
  running := running
  stages := group.stages.set flight stage
  calls := group.calls

def step (group : Group) : Event → Group
  | .arrive => { group with calls := group.calls ++ [.calling group.frontier] }
  | .enter place =>
      match group.calls[place]? with
      | some (.calling since) =>
          match group.running with
          | some flight => group.turn place (.waiting since flight)
          | none => group.lead place since
      | _ => group
  | .finish place =>
      match group.calls[place]? with
      | some (.leading _ flight) =>
          if group.stages[flight]? = some .working then
            group.move flight .ended group.running
          else group
      | _ => group
  | .clear place =>
      match group.calls[place]? with
      | some (.leading _ flight) =>
          if group.stages[flight]? = some .ended then group.move flight .cleared none else group
      | _ => group
  | .close place =>
      match group.calls[place]? with
      | some (.leading since flight) =>
          if group.stages[flight]? = some .cleared then
            (group.move flight .closed group.running).turn place (.returned since flight)
          else group
      | _ => group
  | .wake place =>
      match group.calls[place]? with
      | some (.waiting since flight) =>
          if group.stages[flight]? = some .closed then group.turn place (.returned since flight)
          else group
      | _ => group

def Timely (group : Group) : Call → Prop
  | .calling since => since ≤ group.frontier
  | .leading since flight =>
      since ≤ flight ∧ ∃ stage, group.stages[flight]? = some stage ∧ stage ≠ .closed
  | .waiting since flight => since ≤ flight ∧ flight < group.stages.length
  | .returned since flight => since ≤ flight ∧ group.stages[flight]? = some .closed

/-- Each flight that is not closed has one leader. -/
structure Sound (group : Group) : Prop where
  running : ∀ flight, group.running = some flight ↔
    group.stages[flight]? = some .working ∨ group.stages[flight]? = some .ended
  last : ∀ flight, group.running = some flight → flight + 1 = group.stages.length
  calls : ∀ (place : Nat) (call : Call), group.calls[place]? = some call → Timely group call
  alone : ∀ (place other since later flight : Nat),
    group.calls[place]? = some (.leading since flight) →
    group.calls[other]? = some (.leading later flight) → place = other
  led : ∀ (flight : Nat) (stage : Stage), group.stages[flight]? = some stage → stage ≠ .closed →
    ∃ (place since : Nat), group.calls[place]? = some (.leading since flight)

theorem idle_sound : Sound Group.idle where
  running := fun flight => by simp [Group.idle]
  last := fun flight running => by cases running
  calls := fun place call found => by cases found
  alone := fun place other since later flight found => by cases found
  led := fun flight stage found => by cases found

/-- At most one flight is worked on. -/
theorem one_works {group : Group} (sound : Sound group) {flight other : Nat}
    (works : group.stages[flight]? = some .working)
    (another : group.stages[other]? = some .working) : flight = other := by
  have first := (sound.running flight).mpr (.inl works)
  have second := (sound.running other).mpr (.inl another)
  exact Option.some.inj (first.symm.trans second)

theorem frontier_le {group : Group} (sound : Sound group) :
    group.frontier ≤ group.stages.length := by
  rw [Group.frontier]
  cases running : group.running with
  | none => exact Nat.le_refl _
  | some flight =>
      have last := sound.last flight running
      rw [Option.getD_some]
      omega

section Steps

theorem set_found {Item : Type*} {items : List Item} {place other : Nat} {item found : Item}
    (here : (items.set place item)[other]? = some found) :
    place = other ∧ found = item ∨ place ≠ other ∧ items[other]? = some found := by
  rw [List.getElem?_set] at here
  split_ifs at here with same bound
  · exact .inl ⟨same, (Option.some.inj here).symm⟩
  · exact .inr ⟨same, here⟩

variable {group : Group} {place : Nat}

theorem turn_sound (sound : Sound group) {old new : Call}
    (found : group.calls[place]? = some old) (timely : Timely group new)
    (followed : ∀ since flight, old ≠ .leading since flight)
    (follows : ∀ since flight, new ≠ .leading since flight) : Sound (group.turn place new) where
  running := sound.running
  last := sound.last
  calls := by
    intro other call here
    rcases set_found here with ⟨_, same⟩ | ⟨_, here⟩
    · rw [same]
      exact timely
    · exact sound.calls other call here
  alone := by
    intro first second since later flight one two
    rcases set_found one with ⟨_, same⟩ | ⟨_, one⟩
    · exact absurd same.symm (follows since flight)
    · rcases set_found two with ⟨_, same⟩ | ⟨_, two⟩
      · exact absurd same.symm (follows later flight)
      · exact sound.alone first second since later flight one two
  led := by
    intro flight stage here pending
    obtain ⟨leader, since, leads⟩ := sound.led flight stage here pending
    have apart : place ≠ leader := by
      intro same
      rw [← same, found] at leads
      exact followed since flight (Option.some.inj leads)
    refine ⟨leader, since, ?_⟩
    rw [Group.turn, List.getElem?_set_ne apart]
    exact leads

theorem arrive_sound (sound : Sound group) : Sound (step group .arrive) where
  running := sound.running
  last := sound.last
  calls := by
    intro other call here
    rcases List.mem_append.mp (List.mem_of_getElem? here) with old | new
    · obtain ⟨place, found⟩ := List.mem_iff_getElem?.mp old
      exact sound.calls place call found
    · rw [List.mem_singleton.mp new]
      exact Nat.le_refl group.frontier
  alone := by
    have led : ∀ (other since flight : Nat),
        (group.calls ++ [.calling group.frontier])[other]? = some (.leading since flight) →
        group.calls[other]? = some (.leading since flight) := by
      intro other since flight here
      rw [List.getElem?_append] at here
      split_ifs at here with early
      · exact here
      · have member := List.mem_of_getElem? here
        cases List.mem_singleton.mp member
    intro first second since later flight one two
    exact sound.alone first second since later flight (led _ _ _ one) (led _ _ _ two)
  led := by
    intro flight stage here pending
    obtain ⟨leader, since, leads⟩ := sound.led flight stage here pending
    have bound := (List.getElem?_eq_some_iff.mp leads).1
    exact ⟨leader, since, (List.getElem?_append_left bound).trans leads⟩

theorem enter_timely (sound : Sound group) {since flight : Nat}
    (found : group.calls[place]? = some (.calling since)) (running : group.running = some flight) :
    Timely group (.waiting since flight) := by
  have before : since ≤ group.frontier := sound.calls place _ found
  have last := sound.last flight running
  rw [Group.frontier, running, Option.getD_some] at before
  exact ⟨before, by omega⟩

theorem lead_sound (sound : Sound group) {since : Nat}
    (found : group.calls[place]? = some (.calling since)) (none_ : group.running = none) :
    Sound (group.lead place since) := by
  have before : since ≤ group.stages.length := by
    have timely : since ≤ group.frontier := sound.calls place _ found
    rwa [Group.frontier, none_, Option.getD_none] at timely
  have open_ : (group.stages ++ [Stage.working])[group.stages.length]? = some .working := by
    simp
  have kept : ∀ {flight : Nat} {stage : Stage}, group.stages[flight]? = some stage →
      (group.stages ++ [Stage.working])[flight]? = some stage := by
    intro flight stage here
    have bound := (List.getElem?_eq_some_iff.mp here).1
    exact (List.getElem?_append_left bound).trans here
  have cases_ : ∀ {flight : Nat} {stage : Stage},
      (group.stages ++ [Stage.working])[flight]? = some stage →
      group.stages[flight]? = some stage ∨ flight = group.stages.length ∧ stage = .working := by
    intro flight stage here
    rw [List.getElem?_append] at here
    split_ifs at here with early
    · exact .inl here
    · have member := List.mem_of_getElem? here
      have bound := (List.getElem?_eq_some_iff.mp here).1
      rw [List.length_singleton] at bound
      exact .inr ⟨by omega, List.mem_singleton.mp member⟩
  have new : ∀ (leader since : Nat),
      group.calls[leader]? ≠ some (.leading since group.stages.length) := by
    intro leader since leads
    obtain ⟨_, stage, here, _⟩ := sound.calls leader _ leads
    exact absurd (List.getElem?_eq_some_iff.mp here).1 (Nat.lt_irrefl _)
  refine ⟨?_, ?_, ?_, ?_, ?_⟩
  · intro flight
    rw [Group.lead, Option.some.injEq]
    constructor
    · rintro rfl
      exact .inl open_
    · intro either
      rcases either with works | ended
      · rcases cases_ works with old | ⟨same, _⟩
        · have running := (sound.running flight).mpr (.inl old)
          exact absurd (none_.symm.trans running) (Option.some_ne_none flight).symm
        · exact same.symm
      · rcases cases_ ended with old | ⟨_, stage⟩
        · have running := (sound.running flight).mpr (.inr old)
          exact absurd (none_.symm.trans running) (Option.some_ne_none flight).symm
        · cases stage
  · intro flight running
    rw [← Option.some.inj running, Group.lead, List.length_append, List.length_singleton]
  · intro other call here
    rcases set_found here with ⟨_, same⟩ | ⟨_, here⟩
    · rw [same]
      exact ⟨before, .working, open_, by simp⟩
    · have timely := sound.calls other call here
      cases call with
      | calling later =>
          have earlier : later ≤ group.frontier := timely
          rw [Group.frontier, none_, Option.getD_none] at earlier
          exact earlier
      | leading later flight =>
          obtain ⟨earlier, stage, here, pending⟩ := timely
          exact ⟨earlier, stage, kept here, pending⟩
      | waiting later flight =>
          refine ⟨timely.1, ?_⟩
          rw [Group.lead, List.length_append]
          exact Nat.lt_add_right 1 timely.2
      | returned later flight => exact ⟨timely.1, kept timely.2⟩
  · intro first second one_ two_ flight one two
    rcases set_found one with ⟨here, same⟩ | ⟨_, one⟩
    · rcases set_found two with ⟨there, _⟩ | ⟨_, two⟩
      · exact here.symm.trans there
      · rw [(Call.leading.inj same).2] at two
        exact absurd two (new second two_)
    · rcases set_found two with ⟨_, same⟩ | ⟨_, two⟩
      · rw [(Call.leading.inj same).2] at one
        exact absurd one (new first one_)
      · exact sound.alone first second one_ two_ flight one two
  · intro flight stage here pending
    rcases cases_ here with old | ⟨same, _⟩
    · obtain ⟨leader, later, leads⟩ := sound.led flight stage old pending
      have apart : place ≠ leader := by
        intro same
        rw [← same, found] at leads
        cases leads
      refine ⟨leader, later, ?_⟩
      rw [Group.lead, List.getElem?_set_ne apart]
      exact leads
    · have bound := (List.getElem?_eq_some_iff.mp found).1
      exact ⟨place, since, by rw [Group.lead, same, List.getElem?_set_self bound]⟩

theorem move_frontier (flight : Nat) (stage : Stage) (running : Option Nat) :
    (group.move flight stage running).frontier = running.getD group.stages.length := by
  rw [Group.frontier, Group.move, List.length_set]

/-- A flight moves on, its leader staying. -/
theorem move_sound (sound : Sound group) {flight : Nat} {old new : Stage}
    (here : group.stages[flight]? = some old) (pending : old ≠ .closed) (open_ : new ≠ .closed)
    (running : Option Nat) (later : group.frontier ≤ running.getD group.stages.length)
    (runs : ∀ other, running = some other ↔ (group.stages.set flight new)[other]? = some .working ∨
      (group.stages.set flight new)[other]? = some .ended)
    (last : ∀ other, running = some other → other + 1 = group.stages.length) :
    Sound (group.move flight new running) := by
  have bound := (List.getElem?_eq_some_iff.mp here).1
  have moved : (group.stages.set flight new)[flight]? = some new := List.getElem?_set_self bound
  have kept : ∀ {other : Nat}, flight ≠ other →
      (group.stages.set flight new)[other]? = group.stages[other]? :=
    fun apart => List.getElem?_set_ne apart
  refine ⟨runs, ?_, ?_, sound.alone, ?_⟩
  · intro other same
    rw [Group.move, List.length_set]
    exact last other same
  · intro place call found
    have timely := sound.calls place call found
    cases call with
    | calling since =>
        have early : since ≤ group.frontier := timely
        change since ≤ (group.move flight new running).frontier
        rw [move_frontier]
        exact Nat.le_trans early later
    | leading since other =>
        obtain ⟨earlier, stage, there, unclosed⟩ := timely
        by_cases same : flight = other
        · exact ⟨earlier, new, same ▸ moved, open_⟩
        · exact ⟨earlier, stage, (kept same).trans there, unclosed⟩
    | waiting since other =>
        refine ⟨timely.1, ?_⟩
        rw [Group.move, List.length_set]
        exact timely.2
    | returned since other =>
        obtain ⟨earlier, closed⟩ := timely
        have apart : flight ≠ other := by
          intro same
          rw [← same, here] at closed
          exact pending (Option.some.inj closed)
        exact ⟨earlier, (kept apart).trans closed⟩
  · intro other stage there unclosed
    rcases set_found there with ⟨same, _⟩ | ⟨_, there⟩
    · exact sound.led other old (same ▸ here) pending
    · exact sound.led other stage there unclosed

theorem finish_sound (sound : Sound group) {flight : Nat}
    (works : group.stages[flight]? = some .working) :
    Sound (group.move flight .ended group.running) := by
  have running := (sound.running flight).mpr (.inl works)
  have bound := (List.getElem?_eq_some_iff.mp works).1
  refine move_sound sound works (by simp) (by simp) group.running (Nat.le_refl _) ?_ sound.last
  intro other
  by_cases same : flight = other
  · rw [← same, running, List.getElem?_set_self bound]
    simp
  · rw [List.getElem?_set_ne same]
    exact sound.running other

theorem clear_sound (sound : Sound group) {flight : Nat}
    (ended : group.stages[flight]? = some .ended) :
    Sound (group.move flight .cleared none) := by
  have running := (sound.running flight).mpr (.inr ended)
  have bound := (List.getElem?_eq_some_iff.mp ended).1
  refine move_sound sound ended (by simp) (by simp) none (frontier_le sound) ?_
    (fun other here => by cases here)
  intro other
  constructor
  · intro here
    cases here
  · intro open_
    by_cases same : flight = other
    · rw [← same, List.getElem?_set_self bound] at open_
      simp at open_
    · rw [List.getElem?_set_ne same] at open_
      have another := (sound.running other).mpr open_
      exact absurd (Option.some.inj (running.symm.trans another)) same

theorem close_sound (sound : Sound group) {since flight : Nat}
    (found : group.calls[place]? = some (.leading since flight))
    (cleared : group.stages[flight]? = some .cleared) :
    Sound ((group.move flight .closed group.running).turn place (.returned since flight)) := by
  have bound := (List.getElem?_eq_some_iff.mp cleared).1
  have moved : (group.stages.set flight .closed)[flight]? = some .closed :=
    List.getElem?_set_self bound
  have kept : ∀ {other : Nat}, flight ≠ other →
      (group.stages.set flight .closed)[other]? = group.stages[other]? :=
    fun apart => List.getElem?_set_ne apart
  refine ⟨?_, ?_, ?_, ?_, ?_⟩
  · intro other
    by_cases same : flight = other
    · have started := sound.running other
      rw [← same, cleared] at started
      rw [← same, Group.turn, Group.move, moved]
      simpa using started
    · rw [Group.turn, Group.move, kept same]
      exact sound.running other
  · intro other running
    rw [Group.turn, Group.move, List.length_set]
    exact sound.last other running
  · intro other call here
    rcases set_found here with ⟨_, same⟩ | ⟨apart, here⟩
    · rw [same]
      exact ⟨(sound.calls place _ found).1, moved⟩
    · have timely := sound.calls other call here
      cases call with
      | calling later =>
          have early : later ≤ group.frontier := timely
          change later ≤ (group.move flight .closed group.running).frontier
          rw [move_frontier]
          exact early
      | leading later another =>
          have differs : flight ≠ another := by
            intro same
            exact apart (sound.alone place other since later flight found (same ▸ here))
          obtain ⟨earlier, stage, there, pending⟩ := timely
          exact ⟨earlier, stage, (kept differs).trans there, pending⟩
      | waiting later another =>
          refine ⟨timely.1, ?_⟩
          rw [Group.turn, Group.move, List.length_set]
          exact timely.2
      | returned later another =>
          refine ⟨timely.1, ?_⟩
          by_cases same : flight = another
          · exact same ▸ moved
          · exact (kept same).trans timely.2
  · intro first second one_ two_ another one two
    rcases set_found one with ⟨_, same⟩ | ⟨_, one⟩
    · cases same
    · rcases set_found two with ⟨_, same⟩ | ⟨_, two⟩
      · cases same
      · exact sound.alone first second one_ two_ another one two
  · intro another stage there pending
    rcases set_found there with ⟨_, same⟩ | ⟨differs, there⟩
    · exact absurd same pending
    · obtain ⟨leader, later, leads⟩ := sound.led another stage there pending
      have apart : place ≠ leader := by
        intro same
        rw [← same, found] at leads
        exact differs (Call.leading.inj (Option.some.inj leads)).2
      refine ⟨leader, later, ?_⟩
      rw [Group.turn, Group.move, List.getElem?_set_ne apart]
      exact leads

theorem step_sound (group : Group) (event : Event) (sound : Sound group) :
    Sound (step group event) := by
  cases event with
  | arrive => exact arrive_sound sound
  | enter place =>
      rw [step]
      split
      · next since found =>
          split
          · next flight running =>
              exact turn_sound sound found (enter_timely sound found running) (by simp) (by simp)
          · next none_ => exact lead_sound sound found none_
      · exact sound
  | finish place =>
      rw [step]
      split
      · split_ifs with works
        · exact finish_sound sound works
        · exact sound
      · exact sound
  | clear place =>
      rw [step]
      split
      · split_ifs with ended
        · exact clear_sound sound ended
        · exact sound
      · exact sound
  | close place =>
      rw [step]
      split
      · next found =>
          split_ifs with cleared
          · exact close_sound sound found cleared
          · exact sound
      · exact sound
  | wake place =>
      rw [step]
      split
      · next found =>
          split_ifs with closed
          · exact turn_sound sound found ⟨(sound.calls place _ found).1, closed⟩ (by simp) (by simp)
          · exact sound
      · exact sound

end Steps

section Frames

/-- What a call has returned from stays. -/
theorem step_returned (group : Group) (event : Event) {place since flight : Nat}
    (found : group.calls[place]? = some (.returned since flight)) :
    (step group event).calls[place]? = some (.returned since flight) := by
  have kept : ∀ {other : Nat} {old : Call} (new : Call), group.calls[other]? = some old →
      (∀ since flight, old ≠ .returned since flight) →
      (group.calls.set other new)[place]? = some (.returned since flight) := by
    intro other old new here pending
    have apart : other ≠ place := by
      intro same
      rw [same, found] at here
      exact pending since flight (Option.some.inj here).symm
    rw [List.getElem?_set_ne apart]
    exact found
  cases event with
  | arrive =>
      have bound := (List.getElem?_eq_some_iff.mp found).1
      exact (List.getElem?_append_left bound).trans found
  | enter other =>
      rw [step]
      split
      · next here =>
          split
          · exact kept _ here (by simp)
          · exact kept _ here (by simp)
      · exact found
  | finish other =>
      rw [step]
      split
      · split_ifs <;> exact found
      · exact found
  | clear other =>
      rw [step]
      split
      · split_ifs <;> exact found
      · exact found
  | close other =>
      rw [step]
      split
      · next here =>
          split_ifs
          · exact kept _ here (by simp)
          · exact found
      · exact found
  | wake other =>
      rw [step]
      split
      · next here =>
          split_ifs
          · exact kept _ here (by simp)
          · exact found
      · exact found

theorem step_calls (group : Group) (event : Event) :
    group.calls.length ≤ (step group event).calls.length := by
  cases event <;> rw [step]
  · rw [List.length_append]
    exact Nat.le_add_right _ _
  · split
    · split <;> simp [Group.turn, Group.lead]
    · exact Nat.le_refl _
  all_goals
    split
    · split_ifs <;> simp [Group.turn, Group.move]
    · exact Nat.le_refl _

theorem move_works (group : Group) {flight : Nat} {old new : Stage}
    (here : group.stages[flight]? = some old) (rests : old ≠ .working) (idle : new ≠ .working)
    (other : Nat) : (group.stages.set flight new)[other]? = some .working ↔
      group.stages[other]? = some .working := by
  by_cases same : flight = other
  · rw [← same, List.getElem?_set_self (List.getElem?_eq_some_iff.mp here).1, here]
    simp [rests, idle]
  · rw [List.getElem?_set_ne same]

/-- Calls that come, clear, close or wake up leave the flights that are worked on. -/
theorem step_works (group : Group) (event : Event) (enters : ∀ place, event ≠ .enter place)
    (finishes : ∀ place, event ≠ .finish place) :
    (step group event).stages.length = group.stages.length ∧
      ∀ flight : Nat, (step group event).stages[flight]? = some .working ↔
        group.stages[flight]? = some .working := by
  cases event with
  | arrive => exact ⟨rfl, fun flight => Iff.rfl⟩
  | enter place => exact absurd rfl (enters place)
  | finish place => exact absurd rfl (finishes place)
  | clear place =>
      rw [step]
      split
      · split_ifs with ended
        · exact ⟨List.length_set, move_works group ended (by simp) (by simp)⟩
        · exact ⟨rfl, fun flight => Iff.rfl⟩
      · exact ⟨rfl, fun flight => Iff.rfl⟩
  | close place =>
      rw [step]
      split
      · split_ifs with cleared
        · exact ⟨List.length_set, move_works group cleared (by simp) (by simp)⟩
        · exact ⟨rfl, fun flight => Iff.rfl⟩
      · exact ⟨rfl, fun flight => Iff.rfl⟩
  | wake place =>
      rw [step]
      split
      · split_ifs <;> exact ⟨rfl, fun flight => Iff.rfl⟩
      · exact ⟨rfl, fun flight => Iff.rfl⟩

theorem enter_stages (group : Group) (place : Nat) :
    (step group (.enter place)).stages = group.stages ∨
      (step group (.enter place)).stages = group.stages ++ [.working] := by
  rw [step]
  split
  · split
    · exact .inl rfl
    · exact .inr rfl
  · exact .inl rfl

theorem finish_stages {group : Group} {place since flight : Nat}
    (found : group.calls[place]? = some (.leading since flight))
    (works : group.stages[flight]? = some .working) :
    step group (.finish place) = group.move flight .ended group.running := by
  rw [step, found]
  exact if_pos works

end Frames

section Progress

def Call.left : Call → Nat
  | .calling _ => 5
  | .leading _ _ => 1
  | .waiting _ _ => 1
  | .returned _ _ => 0

def Stage.left : Stage → Nat
  | .working => 3
  | .ended => 2
  | .cleared => 1
  | .closed => 0

/-- The steps that are left to the calls that have come. -/
def remaining (group : Group) : Nat :=
  (group.calls.map Call.left).sum + (group.stages.map Stage.left).sum

theorem set_weight {Item : Type*} (weight : Item → Nat) (items : List Item) {place : Nat}
    {old : Item} (found : items[place]? = some old) (new : Item) :
    ((items.set place new).map weight).sum + weight old = (items.map weight).sum + weight new := by
  induction items generalizing place with
  | nil => cases found
  | cons item items ih =>
      cases place with
      | zero =>
          rw [List.getElem?_cons_zero, Option.some.injEq] at found
          rw [List.set_cons_zero, List.map_cons, List.sum_cons, List.map_cons, List.sum_cons, found]
          omega
      | succ place =>
          have rest := ih found
          rw [List.set_cons_succ, List.map_cons, List.sum_cons, List.map_cons, List.sum_cons]
          omega

variable {group : Group} {place : Nat}

theorem turn_remaining {old : Call} (found : group.calls[place]? = some old) (new : Call) :
    remaining (group.turn place new) + old.left = remaining group + new.left := by
  have weight := set_weight Call.left group.calls found new
  rw [remaining, remaining, Group.turn]
  dsimp only
  omega

theorem move_remaining {flight : Nat} {old : Stage} (here : group.stages[flight]? = some old)
    (new : Stage) (running : Option Nat) :
    remaining (group.move flight new running) + old.left = remaining group + new.left := by
  have weight := set_weight Stage.left group.stages here new
  rw [remaining, remaining, Group.move]
  dsimp only
  omega

theorem enter_remaining {since : Nat} (found : group.calls[place]? = some (.calling since)) :
    remaining (step group (.enter place)) < remaining group := by
  rw [step, found]
  dsimp only
  cases running : group.running with
  | some flight =>
      have turned := turn_remaining found (.waiting since flight)
      simp only [Call.left] at turned
      dsimp only
      omega
  | none =>
      have turned := turn_remaining found (.leading since group.stages.length)
      simp only [Call.left, remaining, Group.turn] at turned
      simp only [remaining, Group.lead, List.map_append, List.sum_append, List.map_cons,
        List.map_nil, List.sum_cons, List.sum_nil, Stage.left]
      omega

theorem finish_remaining {since flight : Nat}
    (found : group.calls[place]? = some (.leading since flight))
    (works : group.stages[flight]? = some .working) :
    remaining (step group (.finish place)) < remaining group := by
  have moved := move_remaining works .ended group.running
  simp only [Stage.left] at moved
  rw [finish_stages found works]
  omega

/-- The leader of a flight that has ended can take its next step. -/
theorem lead_progress {since flight : Nat} {stage : Stage}
    (found : group.calls[place]? = some (.leading since flight))
    (here : group.stages[flight]? = some stage) (works : stage ≠ .working)
    (pending : stage ≠ .closed) :
    ∃ event, (event = .clear place ∨ event = .close place) ∧
      remaining (step group event) < remaining group := by
  cases stage with
  | working => exact absurd rfl works
  | ended =>
      have moved := move_remaining here .cleared none
      simp only [Stage.left] at moved
      refine ⟨.clear place, .inl rfl, ?_⟩
      rw [step, found]
      dsimp only
      rw [if_pos here]
      omega
  | cleared =>
      have moved := move_remaining here .closed group.running
      have still : (group.move flight .closed group.running).calls[place]? =
        some (.leading since flight) := found
      have turned := turn_remaining still (.returned since flight)
      simp only [Stage.left, Call.left] at moved turned
      refine ⟨.close place, .inr rfl, ?_⟩
      rw [step, found]
      dsimp only
      rw [if_pos here]
      omega
  | closed => exact absurd rfl pending

/-- Some call leads a flight that is worked on. -/
def Works (group : Group) : Prop :=
  ∃ (leader since flight : Nat), group.calls[leader]? = some (.leading since flight) ∧
    group.stages[flight]? = some .working

/-- A call that has not returned waits for work on a flight, or some step is left. -/
theorem progress (sound : Sound group) {call : Call} (found : group.calls[place]? = some call)
    (pending : ∀ since flight, call ≠ .returned since flight) :
    Works group ∨
    ∃ event, (∀ leader, event ≠ .finish leader) ∧
      remaining (step group event) < remaining group := by
  have led : ∀ {leader since flight : Nat} {stage : Stage},
      group.calls[leader]? = some (.leading since flight) →
      group.stages[flight]? = some stage → stage ≠ .closed → Works group ∨
        ∃ event, (∀ leader, event ≠ .finish leader) ∧
          remaining (step group event) < remaining group := by
    intro leader since flight stage leads here unclosed
    by_cases works : stage = .working
    · exact Or.inl ⟨leader, since, flight, leads, works ▸ here⟩
    · obtain ⟨event, either, less⟩ := lead_progress leads here works unclosed
      refine Or.inr ⟨event, ?_, less⟩
      rcases either with rfl | rfl <;> simp
  cases call with
  | calling since => exact .inr ⟨.enter place, by simp, enter_remaining found⟩
  | leading since flight =>
      obtain ⟨_, stage, here, unclosed⟩ := sound.calls place _ found
      exact led found here unclosed
  | waiting since flight =>
      obtain ⟨_, bound⟩ := sound.calls place _ found
      by_cases closed : group.stages[flight]? = some .closed
      · have turned := turn_remaining found (.returned since flight)
        simp only [Call.left] at turned
        refine .inr ⟨.wake place, by simp, ?_⟩
        rw [step, found]
        dsimp only
        rw [if_pos closed]
        omega
      · have here := List.getElem?_eq_getElem bound
        have unclosed : group.stages[flight] ≠ .closed := fun same => closed (same ▸ here)
        obtain ⟨leader, later, leads⟩ := sound.led flight _ here unclosed
        exact led leads here unclosed
  | returned since flight => exact absurd rfl (pending since flight)

end Progress

end KiroProxy.Foundation.SharedFlights
