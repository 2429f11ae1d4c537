import Mathlib.Data.List.Induction
import Mathlib.Data.List.Nodup

/-!
# Items merged by key, in order of first appearance

A listing is gone through once: an item of a new key is put at the end, one of a known key is
merged into the item that is there.
-/

namespace KiroProxy.Foundation.FirstSeen

set_option autoImplicit false

variable {Item Key : Type*} [DecidableEq Key]

section Definitions

variable (key : Item → Key) (merge : Item → Item → Item)

def absorb (merged : List Item) (item : Item) : List Item :=
  if key item ∈ merged.map key then
    merged.map fun other => if key other = key item then merge other item else other
  else merged ++ [item]

def absorbAll (merged items : List Item) : List Item := items.foldl (absorb key merge) merged

/-- All the items of a key in one, the first taking in the later ones. -/
def combined (items : List Item) (wanted : Key) : Option Item :=
  match items.filter fun item => decide (key item = wanted) with
  | [] => none
  | first :: rest => some (rest.foldl merge first)

end Definitions

variable {key : Item → Key} {merge : Item → Item → Item}

theorem absorb_keys (keyed : ∀ item other, key (merge item other) = key item)
    (merged : List Item) (item : Item) :
    (absorb key merge merged item).map key =
      if key item ∈ merged.map key then merged.map key else merged.map key ++ [key item] := by
  rw [absorb]
  split_ifs with known
  · rw [List.map_map]
    apply List.map_congr_left
    intro other _
    rw [Function.comp_apply]
    split_ifs
    · exact keyed other item
    · rfl
  · rw [List.map_append, List.map_singleton]

theorem absorb_distinct (keyed : ∀ item other, key (merge item other) = key item)
    (merged : List Item) (distinct : (merged.map key).Nodup) (item : Item) :
    ((absorb key merge merged item).map key).Nodup := by
  rw [absorb_keys keyed]
  split_ifs with known
  · exact distinct
  · exact List.nodup_append.mpr ⟨distinct, List.nodup_singleton _, fun first member second last =>
      fun same => known ((List.mem_singleton.mp last ▸ same) ▸ member)⟩

/-- No key is listed twice, the keys that were there keep their places, and every key that comes
is listed. -/
theorem absorb_all_keys (keyed : ∀ item other, key (merge item other) = key item)
    (items merged : List Item) (distinct : (merged.map key).Nodup) :
    ((absorbAll key merge merged items).map key).Nodup ∧
      merged.map key <+: (absorbAll key merge merged items).map key ∧
      ∀ wanted, wanted ∈ (absorbAll key merge merged items).map key ↔
        wanted ∈ merged.map key ∨ wanted ∈ items.map key := by
  induction items generalizing merged with
  | nil => exact ⟨distinct, List.prefix_refl _, fun wanted => by simp [absorbAll]⟩
  | cons item items ih =>
      obtain ⟨later, extends_, listed⟩ :=
        ih (absorb key merge merged item) (absorb_distinct keyed merged distinct item)
      have keys := absorb_keys keyed merged item
      refine ⟨later, List.IsPrefix.trans ?_ extends_, fun wanted => (listed wanted).trans ?_⟩
      · rw [keys]
        split_ifs
        · exact List.prefix_refl _
        · exact List.prefix_append _ _
      · rw [keys, List.map_cons, List.mem_cons]
        split_ifs with known
        · constructor
          · exact fun either => either.imp_right .inr
          · rintro (old | here | new)
            · exact .inl old
            · exact .inl (here ▸ known)
            · exact .inr new
        · rw [List.mem_append, List.mem_singleton, or_assoc]

theorem found_key {merged : List Item} {wanted : Key} {other : Item}
    (found : merged.find? (fun other => decide (key other = wanted)) = some other) :
    key other = wanted := by
  have here := List.find?_some found
  exact of_decide_eq_true here

theorem find_absent {merged : List Item} {wanted : Key} (absent : wanted ∉ merged.map key) :
    merged.find? (fun other => decide (key other = wanted)) = none := by
  rw [List.find?_eq_none]
  intro other member here
  exact absent (of_decide_eq_true here ▸ List.mem_map_of_mem member)

/-- Whichever key is looked for, an item that comes is merged into what is there. -/
theorem absorb_find (keyed : ∀ item other, key (merge item other) = key item)
    (merged : List Item) (item : Item) (wanted : Key) :
    (absorb key merge merged item).find? (fun other => decide (key other = wanted)) =
      if key item = wanted then
        some (((merged.find? fun other => decide (key other = wanted)).map
          fun other => merge other item).getD item)
      else merged.find? fun other => decide (key other = wanted) := by
  rw [absorb]
  split_ifs with known same same
  · subst same
    rw [List.find?_map]
    have test : ((fun other => decide (key other = key item)) ∘
        fun other => if key other = key item then merge other item else other) =
        fun other => decide (key other = key item) := by
      funext other
      rw [Function.comp_apply]
      split_ifs
      · rw [keyed]
      · rfl
    rw [test]
    obtain ⟨other, member, known⟩ := List.mem_map.mp known
    cases found : merged.find? fun other => decide (key other = key item) with
    | none => exact absurd known (of_decide_eq_false (by
        simpa using List.find?_eq_none.mp found other member))
    | some other =>
        have here := found_key found
        simp [here]
  · rw [List.find?_map]
    have test : ((fun other => decide (key other = wanted)) ∘
        fun other => if key other = key item then merge other item else other) =
        fun other => decide (key other = wanted) := by
      funext other
      rw [Function.comp_apply]
      split_ifs
      · rw [keyed]
      · rfl
    rw [test]
    cases found : merged.find? fun other => decide (key other = wanted) with
    | none => rfl
    | some other =>
        have here := found_key found
        have apart : key other ≠ key item := fun equal => same (equal.symm.trans here)
        simp [apart]
  · subst same
    rw [List.find?_append, find_absent known]
    simp
  · rw [List.find?_append]
    simp [same]

/-- After a listing each key has all its items, in one. -/
theorem absorb_all_find (keyed : ∀ item other, key (merge item other) = key item)
    (items : List Item) (wanted : Key) :
    (absorbAll key merge [] items).find? (fun other => decide (key other = wanted)) =
      combined key merge items wanted := by
  induction items using List.reverseRecOn with
  | nil => rfl
  | append_singleton items item ih =>
      rw [absorbAll, List.foldl_append, List.foldl_cons, List.foldl_nil, absorb_find keyed]
      rw [absorbAll] at ih
      rw [ih, combined, combined, List.filter_append]
      split_ifs with same
      · have last : [item].filter (fun item => decide (key item = wanted)) = [item] := by
          simp [same]
        rw [last]
        cases items.filter fun item => decide (key item = wanted) with
        | nil => rfl
        | cons first rest => simp
      · have none_ : [item].filter (fun item => decide (key item = wanted)) = [] := by
          simp [same]
        rw [none_, List.append_nil]

end KiroProxy.Foundation.FirstSeen
