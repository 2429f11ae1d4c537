import Mathlib.Data.List.Count
import Mathlib.Data.List.Rotate

/-!
# Round robin

A queue whose head is served and goes to the back. Over whole rounds every item
is served equally often.
-/

namespace KiroProxy.Foundation.RoundRobin

set_option autoImplicit false

variable {Item Other : Type*}

/-- The items served in the given number of turns. -/
def turns : Nat → List Item → List Item
  | _, [] => []
  | 0, _ :: _ => []
  | count + 1, item :: queue => item :: turns count (queue ++ [item])

@[simp] theorem turns_zero (queue : List Item) : turns 0 queue = [] := by
  cases queue <;> rfl

theorem turns_map (change : Item → Other) (count : Nat) (queue : List Item) :
    (turns count queue).map change = turns count (queue.map change) := by
  induction count generalizing queue with
  | zero => simp
  | succ count ih =>
      cases queue with
      | nil => rfl
      | cons item queue => simp [turns, ih]

theorem turns_served (served waiting : List Item) (more : Nat) :
    turns (served.length + more) (served ++ waiting) =
      served ++ turns more (waiting ++ served) := by
  induction served generalizing waiting with
  | nil => simp
  | cons item served ih =>
      have next : turns (served.length + more) (served ++ (waiting ++ [item])) =
          served ++ turns more (waiting ++ [item] ++ served) := ih (waiting ++ [item])
      rw [List.length_cons, Nat.succ_add, List.cons_append, turns, List.append_assoc, next,
        List.append_assoc]
      rfl

/-- A round serves the queue in order and leaves it as it was. -/
theorem turns_round (queue : List Item) (more : Nat) :
    turns (queue.length + more) queue = queue ++ turns more queue := by
  have round := turns_served queue [] more
  rw [List.append_nil, List.nil_append] at round
  exact round

theorem turns_rounds (queue : List Item) (rounds : Nat) :
    turns (queue.length * rounds) queue = (List.replicate rounds queue).flatten := by
  induction rounds with
  | zero => simp
  | succ rounds ih =>
      rw [Nat.mul_succ, Nat.add_comm, turns_round, ih, List.replicate_succ,
        List.flatten_cons]

theorem count_turns [BEq Item] [LawfulBEq Item] (queue : List Item) (distinct : queue.Nodup)
    (item : Item) (member : item ∈ queue) (rounds : Nat) :
    (turns (queue.length * rounds) queue).count item = rounds := by
  rw [turns_rounds, List.count_flatten, List.map_replicate, List.sum_replicate_nat,
    List.count_eq_one_of_mem distinct member]
  simp

end KiroProxy.Foundation.RoundRobin
