import Mathlib.Data.List.Basic

/-!
# Machines fed in chunks

A streaming machine holds its unread input in its state. A step reads some of it
and emits output, or the machine waits for more. A step is stable when more input
behind what is held does not change it. A machine whose steps are stable answers
the same however its input is cut into chunks.
-/

namespace KiroProxy.Foundation.Streaming

set_option autoImplicit false

variable {State Symbol Token : Type*}

/-- The steps of a run and the output they emit. -/
inductive Steps (next : State → Option (State × List Token)) :
    State → List Token → State → Prop where
  | stay (state : State) : Steps next state [] state
  | step {state middle last : State} {emitted output : List Token}
      (taken : next state = some (middle, emitted))
      (rest : Steps next middle output last) :
      Steps next state (emitted ++ output) last

/-- The run ends in a state that waits for input. -/
def Settles (next : State → Option (State × List Token)) (state : State)
    (result : State × List Token) : Prop :=
  Steps next state result.2 result.1 ∧ next result.1 = none

section Steps

variable (next : State → Option (State × List Token))

theorem steps_trans {first middle last : State} {earlier later : List Token}
    (left : Steps next first earlier middle) (right : Steps next middle later last) :
    Steps next first (earlier ++ later) last := by
  induction left with
  | stay => exact right
  | step taken _ ih =>
      rw [List.append_assoc]
      exact Steps.step taken (ih right)

theorem steps_one {state after : State} {emitted : List Token}
    (taken : next state = some (after, emitted)) : Steps next state emitted after := by
  have one := Steps.step taken (Steps.stay after)
  rwa [List.append_nil] at one

/-- Steps are deterministic, so a run settles in one way only. -/
theorem settles_unique {state : State} {left right : State × List Token}
    (first : Settles next state left) (second : Settles next state right) :
    left = right := by
  obtain ⟨run, stuck⟩ := first
  obtain ⟨final, output⟩ := left
  dsimp only at run stuck
  induction run generalizing right with
  | stay state =>
      obtain ⟨other, _⟩ := second
      generalize same : right.1 = last at other
      generalize emitted : right.2 = tokens at other
      cases other with
      | stay => rw [← same, ← emitted]
      | step taken _ =>
          rw [stuck] at taken
          exact absurd taken (by simp)
  | @step state middle last emitted output taken rest ih =>
      obtain ⟨other, waiting⟩ := second
      generalize same : right.1 = final at other waiting
      generalize written : right.2 = tokens at other
      cases other with
      | stay =>
          rw [waiting] at taken
          exact absurd taken (by simp)
      | @step _ middle' _ emitted' output' taken' rest' =>
          rw [taken, Option.some.injEq, Prod.mk.injEq] at taken'
          obtain ⟨sameMiddle, sameEmitted⟩ := taken'
          subst sameMiddle sameEmitted
          have other : Settles next middle (final, output') := ⟨rest', waiting⟩
          have tail := ih other stuck
          rw [Prod.mk.injEq] at tail
          rw [← Prod.eta right, same, written, tail.1, tail.2]

end Steps

section Chunks

variable (next : State → Option (State × List Token)) (feed : State → List Symbol → State)
  (settle : State → State × List Token)

/-- Every step the machine takes from the state is the same with more input. -/
def StableUnder (state : State) (more : List Symbol) : Prop :=
  ∀ output reached after emitted, Steps next state output reached →
    next reached = some (after, emitted) →
    next (feed reached more) = some (feed after more, emitted)

def push (state : State) (chunk : List Symbol) : State × List Token :=
  settle (feed state chunk)

def pushAll (state : State) : List (List Symbol) → State × List Token
  | [] => (state, [])
  | chunk :: chunks =>
      let first := push feed settle state chunk
      let rest := pushAll first.1 chunks
      (rest.1, first.2 ++ rest.2)

/-- If more input leaves every step on the way unchanged, it leaves the way unchanged. -/
theorem steps_feed (state : State) (more : List Symbol) (output : List Token) (last : State)
    (run : Steps next state output last)
    (stable : ∀ earlier reached after emitted later, Steps next state earlier reached →
      next reached = some (after, emitted) → Steps next after later last →
      next (feed reached more) = some (feed after more, emitted)) :
    Steps next (feed state more) output (feed last more) := by
  induction run with
  | stay state => exact Steps.stay (feed state more)
  | @step state middle last emitted output taken rest ih =>
      apply Steps.step (stable [] state middle emitted output (Steps.stay state) taken rest)
      apply ih
      intro tokens reached after shown later path here
      exact stable _ reached after shown later (Steps.step taken path) here

variable (settles : ∀ state, Settles next state (settle state))

include settles

/-- Settling with more input is settling without it first. -/
theorem settle_feed (state : State) (more : List Symbol)
    (stable : StableUnder next feed state more) :
    settle (feed state more) =
      ((push feed settle (settle state).1 more).1,
        (settle state).2 ++ (push feed settle (settle state).1 more).2) := by
  apply settles_unique next (settles (feed state more))
  have first := steps_feed next feed state more _ _ (settles state).1
    (fun earlier reached after emitted _ path taken _ =>
      stable earlier reached after emitted path taken)
  have second := settles (feed (settle state).1 more)
  exact ⟨steps_trans next first second.1, second.2⟩

variable (feed_nil : ∀ state, feed state [] = state)
  (feed_append : ∀ state left right, feed (feed state left) right = feed state (left ++ right))

include feed_append

/-- If no cut of the text comes between what a step has read and what would change
it, pushing the text in chunks is pushing it whole. -/
theorem push_all_after (start : State) (earlier : List Symbol) (chunks : List (List Symbol))
    (stable : ∀ read chunk rest, earlier ++ chunks.flatten = read ++ chunk ++ rest →
      StableUnder next feed (feed start read) chunk) :
    push feed settle start (earlier ++ chunks.flatten) =
      ((pushAll feed settle (push feed settle start earlier).1 chunks).1,
        (push feed settle start earlier).2 ++
          (pushAll feed settle (push feed settle start earlier).1 chunks).2) := by
  induction chunks generalizing earlier with
  | nil => simp [pushAll]
  | cons chunk chunks ih =>
      have cut := settle_feed next feed settle settles (feed start earlier) chunk
        (stable earlier chunk chunks.flatten (by simp))
      rw [feed_append] at cut
      change push feed settle start (earlier ++ chunk) = _ at cut
      have whole := ih (earlier ++ chunk) (by
        intro read piece rest same
        exact stable read piece rest (by simpa using same))
      rw [List.flatten_cons, ← List.append_assoc, whole, cut]
      simp only [pushAll, List.append_assoc]
      rfl

include feed_nil

theorem push_all_flatten (start : State) (waiting : next start = none)
    (chunks : List (List Symbol))
    (stable : ∀ read chunk rest, chunks.flatten = read ++ chunk ++ rest →
      StableUnder next feed (feed start read) chunk) :
    pushAll feed settle start chunks = push feed settle start chunks.flatten := by
  have idle : push feed settle start [] = (start, []) := by
    unfold push
    rw [feed_nil]
    exact settles_unique next (settles start) ⟨Steps.stay start, waiting⟩
  have whole := push_all_after next feed settle settles feed_append start [] chunks
    (by simpa using stable)
  rw [List.nil_append, idle] at whole
  rw [whole, List.nil_append]

end Chunks

end KiroProxy.Foundation.Streaming
