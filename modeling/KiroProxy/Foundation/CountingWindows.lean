import Mathlib.Data.List.Basic

/-!
# Counting windows

A counter that starts again at zero when its window is over. It is measured
against the times at which something was counted: the counter is right as long
as every one of them lies before the end of the window.
-/

namespace KiroProxy.Foundation.CountingWindows

set_option autoImplicit false

structure Window where
  count : Int
  ends : Nat
  deriving DecidableEq

def Window.begin (length now : Nat) : Window := ⟨0, now + length⟩

/-- The window in force. -/
def Window.current (length now : Nat) (window : Window) : Window :=
  if now < window.ends then window else Window.begin length now

def Window.noted (window : Window) : Window := { window with count := window.count + 1 }

/-- The times since the window began. -/
def since (length : Nat) (window : Window) (times : List Nat) : List Nat :=
  times.filter fun time => decide (window.ends ≤ time + length)

structure Counts (length : Nat) (times : List Nat) (window : Window) : Prop where
  count : window.count = (since length window times).length
  past : ∀ time ∈ times, time < window.ends

variable {length now : Nat} {times : List Nat} {window : Window}

theorem begin_counts (past : ∀ time ∈ times, time < now) :
    Counts length times (Window.begin length now) where
  count := by
    have none_ : since length (Window.begin length now) times = [] := by
      rw [since, List.filter_eq_nil_iff]
      intro time member begun
      have earlier := past time member
      have later : now + length ≤ time + length := of_decide_eq_true begun
      omega
    rw [none_]
    rfl
  past := by
    intro time member
    have earlier := past time member
    change time < now + length
    omega

theorem current_counts (counts : Counts length times window) :
    Counts length times (window.current length now) := by
  unfold Window.current
  split_ifs with running
  · exact counts
  · apply begin_counts
    intro time member
    have earlier := counts.past time member
    omega

theorem current_running (positive : 0 < length) : now < (window.current length now).ends := by
  unfold Window.current
  split_ifs with running
  · exact running
  · change now < now + length
    omega

theorem current_again (positive : 0 < length) :
    (window.current length now).current length now = window.current length now :=
  if_pos (current_running positive)

theorem current_begun (begun : window.ends ≤ now + length) :
    (window.current length now).ends ≤ now + length := by
  unfold Window.current
  split_ifs
  · exact begun
  · exact Nat.le_refl _

theorem noted_counts (counts : Counts length times window) (running : now < window.ends)
    (begun : window.ends ≤ now + length) : Counts length (now :: times) window.noted where
  count := by
    have kept : since length window.noted (now :: times) = now :: since length window times :=
      List.filter_cons_of_pos (decide_eq_true begun)
    rw [kept]
    change window.count + 1 = _
    rw [counts.count, List.length_cons]
    rfl
  past := by
    intro time member
    cases List.mem_cons.mp member with
    | inl same => exact same ▸ running
    | inr earlier => exact counts.past time earlier

end KiroProxy.Foundation.CountingWindows
