import Mathlib.Algebra.BigOperators.Group.List.Basic
import Mathlib.Algebra.Order.Ring.Int

/-!
# Keeping what fits

The items of a list are kept from its start while their sizes fit a limit, but for a least
number of them that is kept whatever their sizes.
-/

namespace KiroProxy.Foundation.Budget

set_option autoImplicit false

variable {Item : Type*} (size : Item → Int) (limit : Int) (least : Nat)

/-- How many items are kept behind `kept` others; `running` is the size so far. -/
def keptCount (running : Int) (kept : Nat) : List Item → Nat
  | [] => 0
  | item :: items =>
      if limit < running + size item ∧ least < kept + 1 then 0
      else keptCount (running + size item) (kept + 1) items + 1

def total (items : List Item) : Int := (items.map size).sum

theorem total_cons (item : Item) (items : List Item) :
    total size (item :: items) = size item + total size items := by
  simp [total]

theorem total_append (items more : List Item) :
    total size (items ++ more) = total size items + total size more := by
  simp [total]

theorem total_reverse (items : List Item) : total size items.reverse = total size items := by
  induction items with
  | nil => rfl
  | cons item items ih =>
      rw [List.reverse_cons, total_append, ih, total_cons, total_cons]
      simp only [total, List.map_nil, List.sum_nil]
      omega

theorem total_nonneg (items : List Item) (nonneg : ∀ item ∈ items, 0 ≤ size item) :
    0 ≤ total size items := by
  induction items with
  | nil => exact Int.le_refl 0
  | cons item items ih =>
      have head := nonneg item List.mem_cons_self
      have rest := ih fun other member => nonneg other (List.mem_cons_of_mem _ member)
      rw [total_cons]
      omega

theorem kept_le_length (running : Int) (kept : Nat) (items : List Item) :
    keptCount size limit least running kept items ≤ items.length := by
  induction items generalizing running kept with
  | nil => exact Nat.le_refl 0
  | cons item items ih =>
      rw [keptCount, List.length_cons]
      split_ifs
      · exact Nat.zero_le _
      · exact Nat.succ_le_succ (ih _ _)

/-- The least number is kept, as far as there are so many. -/
theorem least_kept (running : Int) (kept : Nat) (items : List Item) :
    min least (kept + items.length) ≤ kept + keptCount size limit least running kept items := by
  induction items generalizing running kept with
  | nil => exact Nat.min_le_right _ _
  | cons item items ih =>
      rw [keptCount]
      split_ifs with exceeds
      · omega
      · have rest := ih (running + size item) (kept + 1)
        rw [List.length_cons]
        omega

/-- Beyond the limit only the least number is kept. -/
theorem only_least_kept (running : Int) (kept : Nat) (items : List Item)
    (nonneg : ∀ item ∈ items, 0 ≤ size item) (full : limit < running) (few : kept ≤ least) :
    keptCount size limit least running kept items = min (least - kept) items.length := by
  induction items generalizing running kept with
  | nil => simp [keptCount]
  | cons item items ih =>
      have head := nonneg item List.mem_cons_self
      have exceeds : limit < running + size item := by omega
      rw [keptCount, List.length_cons]
      by_cases enough : least < kept + 1
      · rw [if_pos ⟨exceeds, enough⟩]
        omega
      · have later := ih (running + size item) (kept + 1)
          (fun other member => nonneg other (List.mem_cons_of_mem _ member)) exceeds (by omega)
        rw [if_neg fun stop => enough stop.2, later]
        omega

/-- Keeping stops at an item that exceeds the limit. -/
theorem kept_stops (running : Int) (kept : Nat) (items : List Item)
    (short : keptCount size limit least running kept items < items.length) :
    limit < running +
      total size (items.take (keptCount size limit least running kept items + 1)) := by
  induction items generalizing running kept with
  | nil => exact absurd short (Nat.not_lt_zero _)
  | cons item items ih =>
      rw [keptCount] at short ⊢
      split_ifs at short ⊢ with stop
      · rw [List.take_succ_cons, total_cons]
        simpa [total] using stop.1
      · rw [List.take_succ_cons, total_cons, ← Int.add_assoc]
        exact ih (running + size item) (kept + 1) (Nat.lt_of_succ_lt_succ short)

/-- What is kept beyond the least number fits. -/
theorem kept_fits (running : Int) (kept : Nat) (items : List Item)
    (beyond : least < kept + keptCount size limit least running kept items)
    (fits : least < kept → running ≤ limit) :
    running + total size (items.take (keptCount size limit least running kept items)) ≤ limit := by
  induction items generalizing running kept with
  | nil =>
      simp only [keptCount, Nat.add_zero] at beyond
      simpa [total] using fits beyond
  | cons item items ih =>
      rw [keptCount] at beyond ⊢
      split_ifs at beyond ⊢ with exceeds
      · simpa [total] using fits beyond
      · rw [List.take_succ_cons, total_cons, ← Int.add_assoc]
        apply ih
        · omega
        · intro more
          omega

/-- Where the least number fits, everything kept does. -/
theorem kept_within (running : Int) (items : List Item)
    (fits : running + total size (items.take least) ≤ limit) :
    running + total size (items.take (keptCount size limit least running 0 items)) ≤ limit := by
  by_cases beyond : least < keptCount size limit least running 0 items
  · apply kept_fits
    · rwa [Nat.zero_add]
    · intro none
      exact absurd none (Nat.not_lt_zero _)
  · have enough := least_kept size limit least running 0 items
    have bounded := kept_le_length size limit least running 0 items
    rw [Nat.zero_add, Nat.zero_add] at enough
    have same : items.take (keptCount size limit least running 0 items) = items.take least := by
      by_cases short : items.length ≤ least
      · rw [List.take_of_length_le short, List.take_of_length_le (by omega)]
      · congr 1
        omega
    rw [same]
    exact fits

end KiroProxy.Foundation.Budget
