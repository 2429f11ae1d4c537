import Mathlib.Algebra.BigOperators.Group.List.Basic
import Mathlib.Data.List.Nodup

/-!
# Tables

A map of finitely many keys, as the list of its entries. The order of the
entries is that of no source: only what is stored under a key, and how many
keys there are, may be read.
-/

namespace KiroProxy.Foundation.Tables

set_option autoImplicit false

/-- The order in which a range loop visits the entries of a map. -/
structure MapRange (Entry : Type*) where
  visit : List Entry → List Entry
  perm : ∀ entries, (visit entries).Perm entries

def MapRange.asStored (Entry : Type*) : MapRange Entry := ⟨id, fun entries => .refl entries⟩

structure Table (Key Value : Type*) where
  entries : List (Key × Value)
  distinct : (entries.map Prod.fst).Nodup

variable {Key Value : Type*}

def Table.empty : Table Key Value := ⟨[], List.nodup_nil⟩

def Table.size (table : Table Key Value) : Nat := table.entries.length

/-- The table without the entries that fail the test. -/
def Table.keep (table : Table Key Value) (test : Key → Value → Bool) : Table Key Value where
  entries := table.entries.filter fun entry => test entry.1 entry.2
  distinct := (List.filter_sublist.map Prod.fst).nodup table.distinct

/-- The table with another value under each of its keys. -/
def Table.change (table : Table Key Value) (value : Value → Value) : Table Key Value where
  entries := table.entries.map fun entry => (entry.1, value entry.2)
  distinct := by
    rw [List.map_map]
    exact table.distinct

variable [DecidableEq Key]

def Table.get (table : Table Key Value) (key : Key) : Option Value := table.entries.lookup key

def Table.erase (table : Table Key Value) (key : Key) : Table Key Value :=
  table.keep fun other _ => decide (other ≠ key)

def Table.put (table : Table Key Value) (key : Key) (value : Value) : Table Key Value where
  entries := (key, value) :: (table.erase key).entries
  distinct := by
    rw [List.map_cons, List.nodup_cons]
    constructor
    · intro member
      obtain ⟨entry, inside, same⟩ := List.mem_map.mp member
      exact of_decide_eq_true (List.mem_filter.mp inside).2 same
    · exact (table.erase key).distinct

section Reading

@[simp] theorem get_empty (key : Key) : (Table.empty : Table Key Value).get key = none := rfl

theorem mem_iff_get (table : Table Key Value) (key : Key) (value : Value) :
    (key, value) ∈ table.entries ↔ table.get key = some value := by
  obtain ⟨entries, distinct⟩ := table
  change _ ↔ entries.lookup key = some value
  induction entries with
  | nil => simp
  | cons entry entries ih =>
      obtain ⟨other, stored⟩ := entry
      rw [List.map_cons, List.nodup_cons] at distinct
      rw [List.mem_cons, List.lookup_cons]
      by_cases same : key = other
      · have absent : (key, value) ∉ entries := by
          intro member
          exact distinct.1 (List.mem_map.mpr ⟨(key, value), member, same⟩)
        simp [same ▸ absent, same, eq_comm]
      · have apart : (key == other) = false := by simpa using same
        rw [apart, ih distinct.2]
        simp [same]

theorem get_eq_none_iff (table : Table Key Value) (key : Key) :
    table.get key = none ↔ ∀ value, (key, value) ∉ table.entries := by
  rw [Option.eq_none_iff_forall_ne_some]
  exact forall_congr' fun value => not_congr (mem_iff_get table key value).symm

theorem get_keep (table : Table Key Value) (test : Key → Value → Bool) (key : Key) :
    (table.keep test).get key = (table.get key).filter (test key) := by
  apply Option.ext
  intro value
  rw [← mem_iff_get, Option.filter_eq_some_iff, ← mem_iff_get]
  exact List.mem_filter

theorem get_change (table : Table Key Value) (value : Value → Value) (key : Key) :
    (table.change value).get key = (table.get key).map value := by
  obtain ⟨entries, distinct⟩ := table
  change (entries.map fun entry => (entry.1, value entry.2)).lookup key =
    (entries.lookup key).map value
  clear distinct
  induction entries with
  | nil => rfl
  | cons entry entries ih =>
      rw [List.map_cons, List.lookup_cons, List.lookup_cons, ih]
      cases key == entry.1 <;> rfl

theorem get_erase (table : Table Key Value) (key other : Key) :
    (table.erase key).get other = if other = key then none else table.get other := by
  rw [Table.erase, get_keep]
  split_ifs with same
  · rw [same]
    cases table.get key <;> simp
  · cases table.get other <;> simp [same]

theorem get_put (table : Table Key Value) (key other : Key) (value : Value) :
    (table.put key value).get other = if other = key then some value else table.get other := by
  change List.lookup other ((key, value) :: (table.erase key).entries) = _
  rw [List.lookup_cons]
  split_ifs with same
  · simp [same]
  · have apart : (other == key) = false := by simpa using same
    rw [apart]
    change (table.erase key).get other = _
    rw [get_erase, if_neg same]

end Reading

section Visits

/-- Tables of the same entries, whatever their order. -/
theorem get_of_perm (left right : Table Key Value) (same : left.entries.Perm right.entries)
    (key : Key) : left.get key = right.get key := by
  apply Option.ext
  intro value
  rw [← mem_iff_get, ← mem_iff_get]
  exact same.mem_iff

/-- A loop that puts something under every key of a table, from what is stored there. -/
theorem get_fold_put {Source : Type*} (change : Source → Option Value → Value)
    (source : Table Key Source) (range : MapRange (Key × Source)) (table : Table Key Value)
    (key : Key) :
    ((range.visit source.entries).foldl
      (fun table entry => table.put entry.1 (change entry.2 (table.get entry.1))) table).get key =
        match source.get key with
        | none => table.get key
        | some value => some (change value (table.get key)) := by
  have each : ∀ (visited : Table Key Source) (table : Table Key Value),
      (visited.entries.foldl
        (fun table entry => table.put entry.1 (change entry.2 (table.get entry.1))) table).get key =
          match visited.get key with
          | none => table.get key
          | some value => some (change value (table.get key)) := by
    rintro ⟨entries, distinct⟩ table
    change _ = match entries.lookup key with
      | none => table.get key
      | some value => some (change value (table.get key))
    induction entries generalizing table with
    | nil => rfl
    | cons entry entries ih =>
        rw [List.map_cons, List.nodup_cons] at distinct
        have rest := ih distinct.2 (table.put entry.1 (change entry.2 (table.get entry.1)))
        rw [List.foldl_cons, rest, List.lookup_cons, get_put]
        by_cases same : key = entry.1
        · have absent : entries.lookup key = none := by
            rw [List.lookup_eq_none_iff]
            intro other member
            rw [bne_iff_ne]
            intro equal
            exact distinct.1 (same ▸ equal ▸ List.mem_map_of_mem member)
          rw [absent, if_pos same, same, beq_self_eq_true]
        · rw [if_neg same, beq_false_of_ne same]
  have nodup : ((range.visit source.entries).map Prod.fst).Nodup :=
    ((range.perm source.entries).map Prod.fst).nodup_iff.mpr source.distinct
  have same := get_of_perm ⟨range.visit source.entries, nodup⟩ source (range.perm _) key
  rw [← same]
  exact each ⟨range.visit source.entries, nodup⟩ table

end Visits

section Sums

variable {Amount : Type*} [AddCommMonoid Amount] (amount : Value → Amount)

/-- What the entries amount to in all. -/
def Table.sum (table : Table Key Value) : Amount :=
  (table.entries.map fun entry => amount entry.2).sum

/-- The sum is what is stored under a key and the sum of the others. -/
theorem sum_erase (table : Table Key Value) (key : Key) :
    table.sum amount = ((table.get key).map amount).getD 0 + (table.erase key).sum amount := by
  obtain ⟨entries, distinct⟩ := table
  change (entries.map fun entry => amount entry.2).sum = ((entries.lookup key).map amount).getD 0 +
    ((entries.filter fun entry => decide (entry.1 ≠ key)).map fun entry => amount entry.2).sum
  induction entries with
  | nil => exact (zero_add 0).symm
  | cons entry entries ih =>
      rw [List.map_cons, List.nodup_cons] at distinct
      rw [List.map_cons, List.sum_cons, List.lookup_cons, List.filter_cons]
      by_cases same : key = entry.1
      · have others : (entries.filter fun other => decide (other.1 ≠ key)) = entries := by
          rw [List.filter_eq_self]
          intro other member
          rw [decide_eq_true_eq]
          intro again
          exact distinct.1 (List.mem_map.mpr ⟨other, member, again.trans same⟩)
        rw [others]
        simp [same]
      · have apart : (key == entry.1) = false := by simpa using same
        have kept : decide (entry.1 ≠ key) = true := by
          rw [decide_eq_true_eq]
          exact fun again => same again.symm
        rw [apart, if_pos kept, ih distinct.2, List.map_cons, List.sum_cons, add_left_comm]

theorem sum_put (table : Table Key Value) (key : Key) (value : Value) (added : Amount)
    (grown : amount value = ((table.get key).map amount).getD 0 + added) :
    (table.put key value).sum amount = table.sum amount + added := by
  have whole : (table.put key value).sum amount = amount value + (table.erase key).sum amount := by
    change (((key, value) :: (table.erase key).entries).map fun entry => amount entry.2).sum = _
    rw [List.map_cons, List.sum_cons]
    rfl
  rw [whole, grown, sum_erase amount table key, add_right_comm]

end Sums

end KiroProxy.Foundation.Tables
