import Mathlib.Data.List.Basic

/-!
# Lists searched by key

A store that keeps its records in a list finds a record by the first element
with the key and changes that element in place. Only the first match is ever
read or written, so keys need not be unique until the last lemma.
-/

namespace KiroProxy.Foundation.KeyedList

set_option autoImplicit false

variable {Item : Type*}

def updateFirst (isKey : Item → Bool) (change : Item → Item) : List Item → List Item
  | [] => []
  | item :: items =>
      if isKey item then change item :: items
      else item :: updateFirst isKey change items

theorem find_update_first (isKey : Item → Bool) (change : Item → Item)
    (keyed : ∀ item, isKey item → isKey (change item)) (items : List Item) :
    (updateFirst isKey change items).find? isKey = (items.find? isKey).map change := by
  induction items with
  | nil => rfl
  | cons item items ih =>
      by_cases match_ : isKey item
      · simp [updateFirst, match_, keyed item match_]
      · simp [updateFirst, match_, ih]

theorem find_update_first_other (isKey other : Item → Bool) (change : Item → Item)
    (apart : ∀ item, isKey item → other item = false)
    (changed : ∀ item, isKey item → other (change item) = false) (items : List Item) :
    (updateFirst isKey change items).find? other = items.find? other := by
  induction items with
  | nil => rfl
  | cons item items ih =>
      by_cases match_ : isKey item
      · simp [updateFirst, match_, apart item match_, changed item match_]
      · simp [updateFirst, match_, List.find?_cons, ih]

theorem update_first_absent (isKey : Item → Bool) (change : Item → Item) (items : List Item)
    (absent : ∀ item ∈ items, isKey item = false) : updateFirst isKey change items = items := by
  induction items with
  | nil => rfl
  | cons item items ih =>
      rw [updateFirst, absent item List.mem_cons_self,
        ih fun other member => absent other (List.mem_cons_of_mem _ member)]
      rfl

/-- What a change keeps of every record is kept of the list. -/
theorem map_update_first {Part : Type*} (part : Item → Part) (isKey : Item → Bool)
    (change : Item → Item) (keeps : ∀ item, part (change item) = part item) (items : List Item) :
    (updateFirst isKey change items).map part = items.map part := by
  induction items with
  | nil => rfl
  | cons item items ih =>
      rw [updateFirst]
      split_ifs
      · rw [List.map_cons, keeps, List.map_cons]
      · rw [List.map_cons, ih, List.map_cons]

/-- A change leaves the list as it is exactly when it leaves the record it finds. -/
theorem update_first_same_iff (isKey : Item → Bool) (change : Item → Item) (items : List Item)
    (item : Item) (found : items.find? isKey = some item) :
    updateFirst isKey change items = items ↔ change item = item := by
  induction items with
  | nil => exact absurd found (Option.some_ne_none item).symm
  | cons first items ih =>
      by_cases match_ : isKey first
      · simp only [List.find?_cons, match_, Option.some.injEq] at found
        rw [updateFirst, if_pos match_, found, List.cons.injEq, and_iff_left rfl]
      · simp only [List.find?_cons, match_] at found
        rw [updateFirst, if_neg match_, List.cons.injEq, and_iff_right rfl, ih found]

/-- Writing back the record that is there changes nothing. -/
theorem update_first_found (isKey : Item → Bool) (items : List Item) (item : Item)
    (found : items.find? isKey = some item) :
    updateFirst isKey (fun _ => item) items = items :=
  (update_first_same_iff isKey (fun _ => item) items item found).mpr rfl

/-- Up to its place, the record with the key is the one that changes. -/
theorem perm_update_first (isKey : Item → Bool) (change : Item → Item) (items : List Item)
    (item : Item) (found : items.find? isKey = some item) :
    (updateFirst isKey change items).Perm (change item :: items.eraseP isKey) := by
  induction items with
  | nil => exact absurd found (Option.some_ne_none item).symm
  | cons first items ih =>
      by_cases match_ : isKey first
      · simp only [List.find?_cons, match_, Option.some.injEq] at found
        rw [updateFirst, if_pos match_, List.eraseP_cons_of_pos match_, found]
      · simp only [List.find?_cons, match_] at found
        rw [updateFirst, if_neg match_, List.eraseP_cons_of_neg match_]
        exact ((ih found).cons first).trans (List.Perm.swap _ _ _)

theorem perm_erase_first (isKey : Item → Bool) (items : List Item) (item : Item)
    (found : items.find? isKey = some item) : items.Perm (item :: items.eraseP isKey) := by
  have whole := perm_update_first isKey (fun _ => item) items item found
  rw [update_first_found isKey items item found] at whole
  exact whole

/-- Where no key is used twice, whatever has the key is what is found. -/
theorem find_of_distinct {Key : Type*} [BEq Key] [LawfulBEq Key] (key : Item → Key) (items : List Item)
    (distinct : (items.map key).Nodup) (item : Item) (member : item ∈ items) :
    items.find? (fun other => key other == key item) = some item := by
  induction items with
  | nil => exact absurd member List.not_mem_nil
  | cons first items ih =>
      rw [List.map_cons, List.nodup_cons] at distinct
      rw [List.find?_cons]
      cases List.mem_cons.mp member with
      | inl same =>
          rw [same]
          simp
      | inr later =>
          have apart : (key first == key item) = false := by
            rw [beq_eq_false_iff_ne]
            intro same
            exact distinct.1 (same ▸ List.mem_map_of_mem later)
          rw [apart]
          exact ih distinct.2 later

end KiroProxy.Foundation.KeyedList
