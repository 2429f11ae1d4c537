import KiroProxy.Foundation.Tables
import Mathlib.Tactic.SplitIfs

/-!
# Capped tables

A table of entries that expire and of a bounded size. When a new key finds it full, the expired
entries go, and then as many others as leave it at a lower mark, whichever the range loop visits
first. Measured against the table that is never full, it holds a part of it; it loses nothing
unexpired while what is unexpired stays below the mark.
-/

namespace KiroProxy.Foundation.CappedTables

open Foundation.Tables

set_option autoImplicit false

structure Stamped (Value : Type*) where
  value : Value
  expiresAt : Nat

variable {Key Value : Type*}

def unexpired (table : Table Key (Stamped Value)) (now : Nat) : Table Key (Stamped Value) :=
  table.keep fun _ entry => decide (now ≤ entry.expiresAt)

/-- The table without the first entries that a range loop visits. -/
def dropVisited (range : MapRange (Key × Value)) (count : Nat) (table : Table Key Value) :
    Table Key Value where
  entries := (range.visit table.entries).drop count
  distinct := by
    have visited : ((range.visit table.entries).map Prod.fst).Nodup :=
      ((range.perm table.entries).map Prod.fst).nodup_iff.mpr table.distinct
    exact ((List.drop_sublist count _).map Prod.fst).nodup visited

def evict (range : MapRange (Key × Stamped Value)) (mark : Nat)
    (table : Table Key (Stamped Value)) (now : Nat) : Table Key (Stamped Value) :=
  dropVisited range ((unexpired table now).size - mark) (unexpired table now)

variable [DecidableEq Key]

/-- The key is new and the table is full. -/
def Full (cap : Nat) (table : Table Key (Stamped Value)) (key : Key) : Prop :=
  (table.get key).isNone = true ∧ cap ≤ table.size

instance (cap : Nat) (table : Table Key (Stamped Value)) (key : Key) :
    Decidable (Full cap table key) :=
  inferInstanceAs (Decidable (_ ∧ _))

def record (range : MapRange (Key × Stamped Value)) (cap mark : Nat)
    (table : Table Key (Stamped Value)) (key : Key) (entry : Stamped Value) (now : Nat) :
    Table Key (Stamped Value) :=
  (if Full cap table key then evict range mark table now else table).put key entry

section Sizes

omit [DecidableEq Key] in
theorem keep_size (table : Table Key Value) (test : Key → Value → Bool) :
    (table.keep test).size ≤ table.size :=
  List.length_filter_le _ _

theorem erase_size (table : Table Key Value) (key : Key) : (table.erase key).size ≤ table.size :=
  keep_size table _

theorem put_size (table : Table Key Value) (key : Key) (value : Value) :
    (table.put key value).size ≤ table.size + 1 :=
  Nat.succ_le_succ (erase_size table key)

theorem put_present_size (table : Table Key Value) (key : Key) (value : Value)
    (present : (table.get key).isNone = false) : (table.put key value).size ≤ table.size := by
  obtain ⟨old, stored⟩ := Option.isSome_iff_exists.mp (by simpa using present)
  have member : (key, old) ∈ table.entries := (mem_iff_get table key old).mpr stored
  have shorter : (table.erase key).entries.length < table.entries.length := by
    apply List.length_filter_lt_length_iff_exists.mpr
    exact ⟨(key, old), member, by simp⟩
  exact shorter

omit [DecidableEq Key] in
theorem evict_size (range : MapRange (Key × Stamped Value)) (mark : Nat)
    (table : Table Key (Stamped Value)) (now : Nat) : (evict range mark table now).size ≤ mark := by
  change ((range.visit (unexpired table now).entries).drop _).length ≤ mark
  rw [List.length_drop, (range.perm _).length_eq]
  change (unexpired table now).size - ((unexpired table now).size - mark) ≤ mark
  omega

/-- What recording makes of the size: a full table falls below the mark. -/
theorem record_size (range : MapRange (Key × Stamped Value)) (cap mark : Nat)
    (table : Table Key (Stamped Value)) (key : Key) (entry : Stamped Value) (now : Nat) :
    (Full cap table key ∧ (record range cap mark table key entry now).size ≤ mark + 1) ∨
      (¬ Full cap table key ∧
        (record range cap mark table key entry now).size ≤
          max table.size (min cap (table.size + 1))) := by
  unfold record
  by_cases full : Full cap table key
  · rw [if_pos full]
    have room := Nat.succ_le_succ (evict_size range mark table now)
    exact .inl ⟨full, Nat.le_trans (put_size _ key entry) room⟩
  · rw [if_neg full]
    refine .inr ⟨full, ?_⟩
    cases present : (table.get key).isNone with
    | false => exact Nat.le_trans (put_present_size table key entry present) (Nat.le_max_left _ _)
    | true =>
        have room : table.size < cap := Nat.lt_of_not_le fun most => full ⟨present, most⟩
        have grown := put_size table key entry
        omega

end Sizes

section Reading

theorem get_unexpired (table : Table Key (Stamped Value)) (now : Nat) (key : Key)
    (entry : Stamped Value) : (unexpired table now).get key = some entry ↔
      table.get key = some entry ∧ now ≤ entry.expiresAt := by
  rw [unexpired, get_keep, Option.filter_eq_some_iff, decide_eq_true_eq]

theorem get_drop_visited (range : MapRange (Key × Value)) (count : Nat) (table : Table Key Value)
    (key : Key) (value : Value)
    (stored : (dropVisited range count table).get key = some value) :
    table.get key = some value := by
  rw [← mem_iff_get] at stored ⊢
  exact (range.perm table.entries).mem_iff.mp (List.mem_of_mem_drop stored)

/-- An eviction leaves entries as they were. -/
theorem get_evict (range : MapRange (Key × Stamped Value)) (mark : Nat)
    (table : Table Key (Stamped Value)) (now : Nat) (key : Key) (entry : Stamped Value)
    (stored : (evict range mark table now).get key = some entry) : table.get key = some entry :=
  ((get_unexpired table now key entry).mp (get_drop_visited range _ _ key entry stored)).1

/-- An eviction from few enough unexpired entries takes the expired ones only. -/
theorem evict_spares (range : MapRange (Key × Stamped Value)) (mark : Nat)
    (table : Table Key (Stamped Value)) (now : Nat) (few : (unexpired table now).size ≤ mark)
    (key : Key) (entry : Stamped Value) (stored : table.get key = some entry)
    (live : now ≤ entry.expiresAt) : (evict range mark table now).get key = some entry := by
  rw [← mem_iff_get]
  change _ ∈ (range.visit (unexpired table now).entries).drop _
  rw [Nat.sub_eq_zero_of_le few, List.drop_zero, (range.perm _).mem_iff, mem_iff_get]
  exact (get_unexpired table now key entry).mpr ⟨stored, live⟩

theorem get_record (range : MapRange (Key × Stamped Value)) (cap mark : Nat)
    (table : Table Key (Stamped Value)) (key : Key) (entry : Stamped Value) (now : Nat)
    (other : Key) (found : Stamped Value)
    (stored : (record range cap mark table key entry now).get other = some found) :
    if other = key then found = entry else table.get other = some found := by
  unfold record at stored
  rw [get_put] at stored
  split_ifs at stored ⊢ with same full
  · exact (Option.some_inj.mp stored).symm
  · exact get_evict range mark table now other found stored
  · exact stored

theorem record_spares (range : MapRange (Key × Stamped Value)) (cap mark : Nat)
    (table : Table Key (Stamped Value)) (key : Key) (entry : Stamped Value) (now : Nat)
    (few : (unexpired table now).size ≤ mark) (other : Key) (apart : other ≠ key)
    (found : Stamped Value) (stored : table.get other = some found) (live : now ≤ found.expiresAt) :
    (record range cap mark table key entry now).get other = some found := by
  unfold record
  rw [get_put, if_neg apart]
  split_ifs
  · exact evict_spares range mark table now few other found stored live
  · exact stored

end Reading

section Parts

/-- A table that holds a part of another one has no more entries. -/
theorem part_size (part whole : Table Key Value)
    (inside : ∀ key value, part.get key = some value → whole.get key = some value) :
    part.size ≤ whole.size := by
  have subset : part.entries ⊆ whole.entries := by
    intro entry member
    exact (mem_iff_get whole entry.1 entry.2).mpr
      (inside entry.1 entry.2 ((mem_iff_get part entry.1 entry.2).mp member))
  exact (List.subperm_of_subset (List.Nodup.of_map Prod.fst part.distinct) subset).length_le

end Parts

end KiroProxy.Foundation.CappedTables
