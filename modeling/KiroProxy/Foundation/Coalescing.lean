import Mathlib.Data.List.Basic

/-!
# Coalescing of blocks

Sequences of blocks and of other entries. A block has a front and a back; two blocks that meet
become one where the fronts and the backs keep their order, that is where the first has no back
or the second has no front. Two sequences are the same where nothing put in front of them, and
nothing put behind, coalesces differently.
-/

namespace KiroProxy.Foundation.Coalescing

set_option autoImplicit false

variable {α β γ : Type}

inductive Entry (α β γ : Type) where
  | block (front : List α) (back : List β)
  | single (value : γ)

/-- One more entry, on entries with the newest first. -/
def push : List (Entry α β γ) → Entry α β γ → List (Entry α β γ)
  | .block front back :: entries, .block front' back' =>
      if back.isEmpty || front'.isEmpty then .block (front ++ front') (back ++ back') :: entries
      else .block front' back' :: .block front back :: entries
  | entries, entry => entry :: entries

def pushAll (entries more : List (Entry α β γ)) : List (Entry α β γ) := more.foldl push entries

def coalesce (entries : List (Entry α β γ)) : List (Entry α β γ) := (pushAll [] entries).reverse

example : coalesce [.block [1] [2], .block [] [3], .block [4] [5]] =
    ([.block [1] [2, 3], .block [4] [5]] : List (Entry Nat Nat Empty)) := rfl

/-- Sequences that coalesce alike behind any other. -/
def Same (left right : List (Entry α β γ)) : Prop :=
  ∀ entries, pushAll entries left = pushAll entries right

namespace Same

variable {left right : List (Entry α β γ)}

theorem refl (entries : List (Entry α β γ)) : Same entries entries := fun _ => rfl

theorem symm (same : Same left right) : Same right left := fun entries => (same entries).symm

theorem trans {last : List (Entry α β γ)} (first : Same left right) (second : Same right last) :
    Same left last := fun entries => (first entries).trans (second entries)

theorem append {left' right' : List (Entry α β γ)} (first : Same left right)
    (second : Same left' right') : Same (left ++ left') (right ++ right') := by
  intro entries
  have front := first entries
  unfold pushAll at front ⊢
  rw [List.foldl_append, List.foldl_append, front]
  exact second _

theorem coalesced (same : Same left right) : coalesce left = coalesce right :=
  congrArg List.reverse (same [])

end Same

section Blocks

theorem push_ne_nil (entries : List (Entry α β γ)) (entry : Entry α β γ) :
    push entries entry ≠ [] := by
  unfold push
  split
  · split_ifs <;> exact List.cons_ne_nil _ _
  · exact List.cons_ne_nil _ _

theorem push_all_ne_nil (entries more : List (Entry α β γ)) (some_ : entries ≠ []) :
    pushAll entries more ≠ [] := by
  induction more generalizing entries with
  | nil => exact some_
  | cons entry more ih => exact ih (push entries entry) (push_ne_nil entries entry)

/-- No entry coalesces to nothing. -/
theorem same_nil (entries : List (Entry α β γ)) (same : Same [] entries) : entries = [] := by
  cases entries with
  | nil => rfl
  | cons entry entries =>
      exact absurd (same []).symm (push_all_ne_nil (push [] entry) entries (push_ne_nil [] entry))

theorem push_joins (entries : List (Entry α β γ)) (first front : List α) (last back : List β)
    (ordered : last = [] ∨ front = []) :
    push (.block first last :: entries) (.block front back) =
      .block (first ++ front) (last ++ back) :: entries := by
  apply if_pos
  rw [Bool.or_eq_true, List.isEmpty_iff, List.isEmpty_iff]
  exact ordered

theorem push_stands (entries : List (Entry α β γ)) (first front : List α) (last back : List β)
    (closed : last ≠ []) (opens : front ≠ []) :
    push (.block first last :: entries) (.block front back) =
      .block front back :: .block first last :: entries := by
  apply if_neg
  rw [Bool.or_eq_true, List.isEmpty_iff, List.isEmpty_iff, not_or]
  exact ⟨closed, opens⟩

/-- A block without a back takes the next one in. -/
theorem push_front (entries : List (Entry α β γ)) (front front' : List α) (back' : List β) :
    push (push entries (.block front [])) (.block front' back') =
      push entries (.block (front ++ front') back') := by
  cases entries with
  | nil => exact push_joins [] front front' [] back' (.inl rfl)
  | cons entry entries =>
      cases entry with
      | single value => exact push_joins _ front front' [] back' (.inl rfl)
      | block first last =>
          by_cases empty : front = []
          · rw [empty, push_joins _ _ _ _ _ (.inr rfl), List.append_nil, List.append_nil,
              List.nil_append]
          · by_cases joins : last = []
            · rw [joins, push_joins _ _ _ _ _ (.inl rfl), List.nil_append,
                push_joins _ _ _ _ _ (.inl rfl), push_joins _ _ _ _ _ (.inl rfl),
                List.append_assoc]
            · have longer : front ++ front' ≠ [] := fun none_ =>
                empty (List.append_eq_nil_iff.mp none_).1
              rw [push_stands _ _ _ _ _ joins empty, push_joins _ _ _ _ _ (.inl rfl),
                push_stands _ _ _ _ _ joins longer, List.nil_append]

/-- A block without a front is taken in by the one before. -/
theorem push_back (entries : List (Entry α β γ)) (front : List α) (back back' : List β) :
    push (push entries (.block front back)) (.block [] back') =
      push entries (.block front (back ++ back')) := by
  cases entries with
  | nil =>
      change push [.block front back] _ = [.block front (back ++ back')]
      rw [push_joins [] front [] back back' (.inr rfl), List.append_nil]
  | cons entry entries =>
      cases entry with
      | single value =>
          change push (.block front back :: .single value :: entries) _ =
            .block front (back ++ back') :: .single value :: entries
          rw [push_joins _ front [] back back' (.inr rfl), List.append_nil]
      | block first last =>
          by_cases joins : last = [] ∨ front = []
          · rw [push_joins _ _ _ _ _ joins, push_joins _ _ _ _ _ (.inr rfl),
              push_joins _ _ _ _ _ joins, List.append_nil, List.append_assoc]
          · obtain ⟨closed, opens⟩ := not_or.mp joins
            rw [push_stands _ _ _ _ _ closed opens, push_joins _ _ _ _ _ (.inr rfl),
              push_stands _ _ _ _ _ closed opens, List.append_nil]

variable (γ)

/-- Blocks that keep their order are one. -/
theorem blocks_meet (front front' : List α) (back back' : List β)
    (ordered : back = [] ∨ front' = []) :
    Same [Entry.block front back, .block front' back']
      ([.block (front ++ front') (back ++ back')] : List (Entry α β γ)) := by
  intro entries
  change push (push entries _) _ = push entries _
  rcases ordered with none_ | none_
  · rw [none_]
    exact push_front entries front front' back'
  · rw [none_, List.append_nil]
    exact push_back entries front back back'

theorem fronts_meet (front : List α) (fronts : List (List α)) :
    Same (.block front [] :: fronts.map fun text => .block text [])
      ([.block (front ++ fronts.flatten) []] : List (Entry α β γ)) := by
  induction fronts generalizing front with
  | nil =>
      rw [List.flatten_nil, List.append_nil]
      exact .refl _
  | cons next fronts ih =>
      have first := blocks_meet γ front next ([] : List β) [] (.inl rfl)
      have rest := ih (front ++ next)
      rw [List.append_assoc] at rest
      exact (first.append (.refl (fronts.map fun text => .block text []))).trans rest

theorem backs_meet (front : List α) (back : List β) (backs : List (List β)) :
    Same (.block front back :: backs.map fun calls => .block [] calls)
      ([.block front (back ++ backs.flatten)] : List (Entry α β γ)) := by
  induction backs generalizing back with
  | nil =>
      rw [List.flatten_nil, List.append_nil]
      exact .refl _
  | cons next backs ih =>
      have first := blocks_meet γ front ([] : List α) back next (.inr rfl)
      have rest := ih (back ++ next)
      rw [List.append_assoc] at rest
      rw [List.append_nil] at first
      exact (first.append (.refl (backs.map fun calls => .block [] calls))).trans rest

/-- Fronts and then backs are one block, where there are any. -/
theorem fronts_backs_meet (fronts : List (List α)) (backs : List (List β))
    (some_ : fronts ≠ [] ∨ backs ≠ []) :
    Same ((fronts.map fun text => .block text []) ++ backs.map fun calls => .block [] calls)
      ([.block fronts.flatten backs.flatten] : List (Entry α β γ)) := by
  cases fronts with
  | nil =>
      cases backs with
      | nil => exact absurd rfl (some_.resolve_left (· rfl))
      | cons back backs => exact backs_meet γ [] back backs
  | cons front fronts =>
      have texts := fronts_meet (β := β) γ front fronts
      have all := texts.append (.refl (backs.map fun calls => .block ([] : List α) calls))
      exact all.trans (backs_meet γ (front ++ fronts.flatten) [] backs)

end Blocks

end KiroProxy.Foundation.Coalescing
