import Mathlib.Data.List.Basic
import Mathlib.Algebra.Order.Ring.Nat

/-!
# Pages of a list

Numbered pages of one size partition a list.
-/

namespace KiroProxy.Foundation.Pages

set_option autoImplicit false

variable {Item : Type*} (size : Nat) (items : List Item)

/-- Page `index`, the first one being page 0. -/
def pageOf (index : Nat) : List Item := (items.drop (index * size)).take size

theorem pages_flatten (count : Nat) :
    ((List.range count).map (pageOf size items)).flatten = items.take (count * size) := by
  induction count with
  | zero => rw [Nat.zero_mul]; rfl
  | succ count ih =>
      rw [List.range_succ, List.map_append, List.flatten_append, ih, Nat.succ_mul, List.take_add]
      simp only [List.map_cons, List.map_nil, List.flatten_cons, List.flatten_nil, List.append_nil]
      rfl

theorem page_beyond (index : Nat) (beyond : items.length ≤ index * size) :
    pageOf size items index = [] := by
  unfold pageOf
  rw [List.drop_eq_nil_of_le beyond, List.take_nil]

/-- A slice whose bounds are cut down to the list is the part of it that is there. -/
theorem clamped_slice (start : Nat) :
    (items.drop (min start items.length)).take
        (min (min start items.length + size) items.length - min start items.length) =
      (items.drop start).take size := by
  by_cases inside : start ≤ items.length
  · rw [Nat.min_eq_left inside, List.take_eq_take_iff, List.length_drop]
    omega
  · have beyond : items.length ≤ start := by omega
    rw [Nat.min_eq_right beyond, List.drop_length, List.drop_eq_nil_of_le beyond, List.take_nil,
      List.take_nil]

/-- How many pages there are. -/
def pageCount : Nat := (items.length + size - 1) / size

variable {size}

theorem pages_cover (some_ : 0 < size) : items.length ≤ pageCount size items * size := by
  unfold pageCount
  have quotient := Nat.div_add_mod (items.length + size - 1) size
  have rest := Nat.mod_lt (items.length + size - 1) some_
  rw [Nat.mul_comm] at quotient
  omega

theorem page_starts (some_ : 0 < size) (index : Nat) (inside : index < pageCount size items) :
    index * size < items.length := by
  unfold pageCount at inside
  have quotient := Nat.div_mul_le_self (items.length + size - 1) size
  have more := Nat.mul_le_mul_right size (Nat.succ_le_of_lt inside)
  rw [Nat.succ_mul] at more
  omega

/-- Its pages, one behind the other, are the list. -/
theorem all_pages (some_ : 0 < size) :
    ((List.range (pageCount size items)).map (pageOf size items)).flatten = items := by
  rw [pages_flatten, List.take_of_length_le (pages_cover items some_)]

/-- Where every turned page is there, all of them are the list. -/
theorem turned_pages (some_ : 0 < size) (turn : Nat → Option (List Item))
    (each : ∀ index, index < pageCount size items → turn index = some (pageOf size items index)) :
    ((List.range (pageCount size items)).mapM turn).map List.flatten = some items := by
  have turned : ∀ indices : List Nat, (∀ index ∈ indices, index < pageCount size items) →
      indices.mapM turn = some (indices.map (pageOf size items)) := by
    intro indices inside
    induction indices with
    | nil => rfl
    | cons index indices ih =>
        rw [List.mapM_cons, each index (inside index List.mem_cons_self),
          ih fun other member => inside other (List.mem_cons_of_mem _ member)]
        rfl
  rw [turned _ fun index member => List.mem_range.mp member, Option.map_some,
    all_pages items some_]

end KiroProxy.Foundation.Pages
