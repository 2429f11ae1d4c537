import Mathlib.Data.List.Basic
import Mathlib.Data.List.Nodup

/-!
# Values under keys

Maps written as the list of their entries, for values that are made of maps themselves. A key
is written where it stands, or at the end.
-/

namespace KiroProxy.Foundation

set_option autoImplicit false
set_option linter.unusedSectionVars false

abbrev Keyed (Key Value : Type) := List (Key × Value)

namespace Keyed

variable {Key Value Other : Type}

def mapValues (change : Value → Other) (entries : Keyed Key Value) : Keyed Key Other :=
  entries.map fun entry => (entry.1, change entry.2)

theorem keys_map_values (change : Value → Other) (entries : Keyed Key Value) :
    (mapValues change entries).map Prod.fst = entries.map Prod.fst := by
  rw [mapValues, List.map_map]
  rfl

variable [DecidableEq Key] [BEq Key] [LawfulBEq Key]

def get (entries : Keyed Key Value) (key : Key) : Option Value := entries.lookup key

def delete (entries : Keyed Key Value) (key : Key) : Keyed Key Value :=
  entries.filter fun entry => entry.1 != key

def set (entries : Keyed Key Value) (key : Key) (value : Value) : Keyed Key Value :=
  match entries with
  | [] => [(key, value)]
  | entry :: rest => if entry.1 = key then (key, value) :: rest else entry :: set rest key value

section Reading

variable (entries : Keyed Key Value) (key other : Key) (value : Value)

theorem get_cons (entry : Key × Value) :
    get (entry :: entries) key = if entry.1 = key then some entry.2 else get entries key := by
  obtain ⟨name, found⟩ := entry
  rw [get, List.lookup_cons]
  by_cases same : name = key
  · rw [if_pos same, same, beq_self_eq_true]
  · have apart : (key == name) = false := beq_false_of_ne (Ne.symm same)
    rw [if_neg same, apart]
    rfl

theorem get_set_same : (set entries key value).get key = some value := by
  induction entries with
  | nil => rw [set, get_cons, if_pos rfl]
  | cons entry entries ih =>
      rw [set]
      split_ifs with same
      · rw [get_cons, if_pos rfl]
      · rw [get_cons, if_neg same, ih]

theorem get_set_other (apart : other ≠ key) :
    (set entries key value).get other = entries.get other := by
  induction entries with
  | nil => rw [set, get_cons, if_neg apart.symm]
  | cons entry entries ih =>
      rw [set]
      split_ifs with same
      · rw [get_cons, if_neg apart.symm, get_cons, if_neg (same ▸ apart.symm)]
      · rw [get_cons, get_cons, ih]

theorem set_set (first second : Value) :
    (set entries key first).set key second = entries.set key second := by
  induction entries with
  | nil => rw [set, set, set, if_pos rfl]
  | cons entry entries ih =>
      rw [set]
      split_ifs with same
      · rw [set, if_pos rfl, set, if_pos same]
      · rw [set, if_neg same, ih, set, if_neg same]

theorem set_found (found : entries.get key = some value) : set entries key value = entries := by
  induction entries with
  | nil => exact absurd found.symm (Option.some_ne_none value)
  | cons entry entries ih =>
      rw [get_cons] at found
      rw [set]
      split_ifs at found ⊢ with same
      · rw [← same, ← Option.some.inj found]
      · rw [ih found]

theorem delete_cons (entry : Key × Value) :
    delete (entry :: entries) key =
      if entry.1 = key then delete entries key else entry :: delete entries key := by
  rw [delete, List.filter_cons]
  by_cases same : entry.1 = key
  · rw [if_pos same, if_neg (by rw [same, bne_self_eq_false]; exact Bool.false_ne_true)]
    rfl
  · rw [if_neg same, if_pos (bne_iff_ne.mpr same)]
    rfl

theorem get_delete_same : (delete entries key).get key = none := by
  induction entries with
  | nil => rfl
  | cons entry entries ih =>
      rw [delete_cons]
      split_ifs with same
      · exact ih
      · rw [get_cons, if_neg same, ih]

theorem get_delete_other (apart : other ≠ key) :
    (delete entries key).get other = entries.get other := by
  induction entries with
  | nil => rfl
  | cons entry entries ih =>
      rw [delete_cons, get_cons]
      split_ifs with gone here
      · exact absurd (here.symm.trans gone) apart
      · exact ih
      · rw [get_cons, if_pos ‹_›]
      · rw [get_cons, if_neg ‹_›, ih]

theorem delete_set_same : (set entries key value).delete key = entries.delete key := by
  induction entries with
  | nil => rw [set, delete_cons, if_pos rfl]
  | cons entry entries ih =>
      rw [set]
      split_ifs with same
      · rw [delete_cons, if_pos rfl, delete_cons, if_pos same]
      · rw [delete_cons, if_neg same, ih, delete_cons, if_neg same]

theorem mem_of_get (found : entries.get key = some value) : (key, value) ∈ entries := by
  obtain ⟨before, after, split, _⟩ := List.lookup_eq_some_iff.mp found
  rw [split]
  exact List.mem_append_right _ List.mem_cons_self

theorem mem_delete (entry : Key × Value) :
    entry ∈ delete entries key ↔ entry ∈ entries ∧ entry.1 ≠ key := by
  rw [delete, List.mem_filter, bne_iff_ne]

theorem mem_set (entry : Key × Value) (member : entry ∈ set entries key value) :
    entry = (key, value) ∨ entry ∈ entries := by
  induction entries with
  | nil => exact .inl (List.mem_singleton.mp member)
  | cons head entries ih =>
      rw [set] at member
      split_ifs at member with same
      · rcases List.mem_cons.mp member with here | below
        · exact .inl here
        · exact .inr (List.mem_cons_of_mem _ below)
      · rcases List.mem_cons.mp member with here | below
        · exact .inr (here ▸ List.mem_cons_self)
        · exact (ih below).imp_right (List.mem_cons_of_mem _)

end Reading

section Distinct

variable (entries : Keyed Key Value) (key : Key) (value : Value)
  (distinct : (entries.map Prod.fst).Nodup)

include distinct

theorem keys_set : ((set entries key value).map Prod.fst).Nodup := by
  induction entries with
  | nil => exact List.pairwise_singleton _ key
  | cons head entries ih =>
      rw [List.map_cons, List.nodup_cons] at distinct
      rw [set]
      split_ifs with same
      · rw [List.map_cons, List.nodup_cons, ← same]
        exact distinct
      · rw [List.map_cons, List.nodup_cons]
        refine ⟨?_, ih distinct.2⟩
        intro member
        obtain ⟨entry, inside, here⟩ := List.mem_map.mp member
        rcases mem_set entries key value entry inside with rfl | old
        · exact same here.symm
        · exact distinct.1 (here ▸ List.mem_map_of_mem old)

theorem keys_delete : ((delete entries key).map Prod.fst).Nodup :=
  distinct.sublist (List.filter_sublist.map Prod.fst)

theorem get_of_mem (member : (key, value) ∈ entries) : entries.get key = some value := by
  induction entries with
  | nil => exact absurd member List.not_mem_nil
  | cons head entries ih =>
      rw [List.map_cons, List.nodup_cons] at distinct
      rw [get_cons]
      rcases List.mem_cons.mp member with rfl | below
      · rw [if_pos rfl]
      · rw [if_neg ?_, ih distinct.2 below]
        intro same
        exact distinct.1 (same ▸ List.mem_map_of_mem below)

theorem mem_set_distinct (entry : Key × Value) (member : entry ∈ set entries key value) :
    entry = (key, value) ∨ entry ∈ entries.delete key := by
  by_cases same : entry.1 = key
  · have found := get_of_mem _ entry.1 entry.2 (keys_set entries key value distinct) member
    rw [same, get_set_same] at found
    exact .inl (Prod.ext same (Option.some.inj found).symm)
  · rcases mem_set entries key value entry member with rfl | old
    · exact absurd rfl same
    · exact .inr ((mem_delete entries key entry).mpr ⟨old, same⟩)

end Distinct

section Mapped

variable (change : Value → Other) (entries : Keyed Key Value) (key : Key)

theorem get_map_values :
    (mapValues change entries).get key = (entries.get key).map change := by
  induction entries with
  | nil => rfl
  | cons entry entries ih =>
      rw [mapValues] at ih ⊢
      rw [List.map_cons, get_cons, get_cons]
      split_ifs
      · rfl
      · exact ih

theorem delete_map_values :
    (mapValues change entries).delete key = mapValues change (entries.delete key) := by
  rw [delete, mapValues, List.filter_map]
  rfl

theorem set_map_values (value : Value) :
    (mapValues change entries).set key (change value) =
      mapValues change (entries.set key value) := by
  induction entries with
  | nil => rfl
  | cons entry entries ih =>
      rw [mapValues] at ih ⊢
      rw [List.map_cons, set, set]
      split_ifs
      · rfl
      · rw [ih]
        rfl

end Mapped

end Keyed
end KiroProxy.Foundation
