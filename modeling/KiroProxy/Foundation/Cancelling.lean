import Mathlib.Data.List.Count

/-!
# Cancelled copies

A list less the copies of its items that are met elsewhere. Items are copies of each other where
their keys are equal, and the first copies are the ones cancelled.
-/

namespace KiroProxy.Foundation.Cancelling

set_option autoImplicit false

variable {Item Key : Type*} [DecidableEq Key] (key : Item → Key)

/-- How many items of the list have the key. -/
def copies (items : List Item) (wanted : Key) : Nat := (items.map key).count wanted

def cancel : (Key → Nat) → List Item → List Item
  | _, [] => []
  | met, item :: items =>
      if 0 < met (key item) then
        cancel (Function.update met (key item) (met (key item) - 1)) items
      else item :: cancel met items

theorem copies_cons (item : Item) (items : List Item) (wanted : Key) :
    copies key (item :: items) wanted =
      copies key items wanted + if key item = wanted then 1 else 0 := by
  unfold copies
  rw [List.map_cons, List.count_cons]
  simp only [beq_iff_eq]

theorem copies_append (earlier later : List Item) (wanted : Key) :
    copies key (earlier ++ later) wanted = copies key earlier wanted + copies key later wanted := by
  unfold copies
  rw [List.map_append, List.count_append]

theorem cancel_sublist (met : Key → Nat) (items : List Item) :
    List.Sublist (cancel key met items) items := by
  induction items generalizing met with
  | nil => exact List.Sublist.refl []
  | cons item items ih =>
      rw [cancel]
      split_ifs
      · exact (ih _).cons item
      · exact (ih met).cons_cons item

/-- Of every key as many copies are left as there are more than were met. -/
theorem copies_cancel (met : Key → Nat) (items : List Item) (wanted : Key) :
    copies key (cancel key met items) wanted = copies key items wanted - met wanted := by
  induction items generalizing met with
  | nil => exact (Nat.zero_sub _).symm
  | cons item items ih =>
      rw [cancel, copies_cons]
      by_cases again : 0 < met (key item)
      · rw [if_pos again, ih]
        by_cases same : key item = wanted
        · subst same
          rw [Function.update_self, if_pos rfl]
          omega
        · rw [Function.update_of_ne (Ne.symm same), if_neg same, Nat.add_zero]
      · rw [if_neg again, copies_cons, ih]
        by_cases same : key item = wanted
        · subst same
          rw [if_pos rfl]
          omega
        · rw [if_neg same, Nat.add_zero, Nat.add_zero]

end KiroProxy.Foundation.Cancelling
