import Mathlib.Data.List.SplitBy

/-!
# Grouping loops

Loops that work group by group without building the groups. One kind looks at the entry that
comes next and closes a group where that entry does not join it; the other looks back and merges
an entry into its last result. Both are loops over the groups of `List.splitBy`.
-/

namespace KiroProxy.Foundation.Grouping

set_option autoImplicit false

variable {α β σ : Type*} (joins : α → α → Bool)

section Groups

/-- Groups with one more entry in front of the first. -/
theorem split_by_joined (first second : α) (items group : List α) (groups : List (List α))
    (split : (second :: items).splitBy joins = (second :: group) :: groups)
    (joined : joins first second = true) :
    (first :: second :: items).splitBy joins = (first :: second :: group) :: groups := by
  obtain ⟨flat, filled, chains, apart⟩ := List.splitBy_eq_iff.mp split
  rw [List.splitBy_eq_iff]
  refine ⟨by rw [flat]; simp, by simpa using filled, ?_, ?_⟩
  · intro part member
    obtain rfl | inside := List.mem_cons.mp member
    · exact List.isChain_cons_cons.mpr ⟨joined, chains _ (List.mem_cons_self ..)⟩
    · exact chains part (List.mem_cons_of_mem _ inside)
  · cases groups with
    | nil => exact List.isChain_singleton _
    | cons next groups =>
        rw [List.isChain_cons_cons] at apart ⊢
        obtain ⟨⟨_, nonempty, boundary⟩, rest⟩ := apart
        exact ⟨⟨List.cons_ne_nil _ _, nonempty, by simpa using boundary⟩, rest⟩

/-- The first group of a list starts as the list does. -/
theorem split_by_head (first : α) (items : List α) :
    ∃ group groups, (first :: items).splitBy joins = (first :: group) :: groups := by
  cases split : (first :: items).splitBy joins with
  | nil => simp at split
  | cons group groups =>
      obtain ⟨flat, filled, _, _⟩ := List.splitBy_eq_iff.mp split
      cases group with
      | nil => simp at filled
      | cons head group =>
          simp only [List.flatten_cons, List.cons_append, List.cons.injEq] at flat
          exact ⟨group, groups, by rw [flat.1]⟩

theorem split_by_apart (first second : α) (items : List α)
    (apart : joins first second = false) :
    (first :: second :: items).splitBy joins = [first] :: (second :: items).splitBy joins :=
  List.splitBy_append_cons (l := [first]) items (by simpa using apart)

end Groups

section LookingAhead

/-- A loop whose step sees the entry that comes next. -/
def scan (step : σ → α → Option α → σ) : σ → List α → σ
  | state, [] => state
  | state, item :: items => scan step (step state item items.head?) items

theorem scan_map (step : σ → β → Option β → σ) (read : α → β) (state : σ) (items : List α) :
    scan step state (items.map read) =
      scan (fun state item next => step state (read item) (next.map read)) state items := by
  induction items generalizing state with
  | nil => rfl
  | cons item items ih => simp only [List.map_cons, scan, List.head?_map, ih]

/-- Steps that agree on the states of an invariant, which holds as long as entries follow. -/
theorem scan_within (step other : σ → α → Option α → σ) (within : σ → Prop)
    (agree : ∀ state item next, within state → step state item next = other state item next)
    (kept : ∀ state item next, within state → within (other state item (some next)))
    (state : σ) (items : List α) (start : within state) :
    scan step state items = scan other state items := by
  induction items generalizing state with
  | nil => rfl
  | cons item items ih =>
      rw [scan, scan, agree state item items.head? start]
      cases items with
      | nil => rfl
      | cons next items => exact ih _ (kept state item next start)

variable (step : σ → α → Option α → σ) (take : σ → List α → Bool → σ)

/-- The step closes a group at an entry that the next one does not join, and passes the state on
within a group. -/
theorem scan_groups
    (closes : ∀ state item next, (∀ other ∈ next, joins item other = false) →
      step state item next = take state [item] next.isNone)
    (passes : ∀ state item other group last, joins item other = true →
      take (step state item (some other)) (other :: group) last =
        take state (item :: other :: group) last)
    (state : σ) (items : List α) :
    scan step state items =
      scan (fun state group next => take state group next.isNone) state
        (items.splitBy joins) := by
  induction items generalizing state with
  | nil => rfl
  | cons first items ih =>
      rw [scan, ih]
      cases items with
      | nil => exact closes state first none (by simp)
      | cons second items =>
          obtain ⟨group, groups, split⟩ := split_by_head joins second items
          by_cases joined : joins first second = true
          · rw [split_by_joined joins first second items group groups split joined, split]
            simp only [scan, List.head?_cons]
            rw [passes state first second group groups.head?.isNone joined]
          · have apart : joins first second = false := by simpa using joined
            rw [split_by_apart joins first second items apart, split]
            simp only [scan, List.head?_cons]
            rw [closes state first (some second) (by simpa using apart)]
            rfl

end LookingAhead

section LookingBack

/-- One more entry, which joins the entry before it or starts a result of its own. -/
def gather (start : α → β) (merge : β → α → β) (state : List β × Option α) (item : α) :
    List β × Option α :=
  match state.1.getLast?, state.2 with
  | some last, some previous =>
      if joins previous item then (state.1.dropLast ++ [merge last item], some item)
      else (state.1 ++ [start item], some item)
  | _, _ => (state.1 ++ [start item], some item)

/-- A group as one result. -/
def merged (start : α → β) (merge : β → α → β) : List α → Option β
  | [] => none
  | first :: group => some (group.foldl merge (start first))

variable (start : α → β) (merge : β → α → β)

/-- The loop from a result that is still open. -/
theorem gather_open (done : List β) (last : β) (previous : α) (items group : List α)
    (groups : List (List α))
    (split : (previous :: items).splitBy joins = (previous :: group) :: groups) :
    (items.foldl (gather joins start merge) (done ++ [last], some previous)).1 =
      done ++ group.foldl merge last :: groups.filterMap (merged start merge) := by
  induction items generalizing done last previous group groups with
  | nil =>
      cases split
      rfl
  | cons item items ih =>
      obtain ⟨inner, outer, inside⟩ := split_by_head joins item items
      by_cases joined : joins previous item = true
      · rw [split_by_joined joins previous item items inner outer inside joined] at split
        cases split
        have stepped : gather joins start merge (done ++ [last], some previous) item =
            (done ++ [merge last item], some item) := by simp [gather, joined]
        rw [List.foldl_cons, stepped, ih done (merge last item) item inner groups inside]
        rfl
      · have apart : joins previous item = false := by simpa using joined
        rw [split_by_apart joins previous item items apart, inside] at split
        cases split
        have stepped : gather joins start merge (done ++ [last], some previous) item =
            ((done ++ [last]) ++ [start item], some item) := by simp [gather, joined]
        rw [List.foldl_cons, stepped, ih (done ++ [last]) (start item) item inner outer inside]
        simp [merged]

theorem gather_groups (items : List α) :
    (items.foldl (gather joins start merge) ([], none)).1 =
      (items.splitBy joins).filterMap (merged start merge) := by
  cases items with
  | nil => rfl
  | cons first items =>
      obtain ⟨group, groups, split⟩ := split_by_head joins first items
      have opened := gather_open joins start merge [] (start first) first items group groups split
      rw [split]
      simpa [gather, merged] using opened

end LookingBack

end KiroProxy.Foundation.Grouping
