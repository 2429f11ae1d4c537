import Mathlib.Data.List.Nodup
import Mathlib.Data.List.Perm.Subperm
import Mathlib.Data.List.Range

/-!
# Keeping the newest rows

Rows in an order of age. The rank of a row is the number of newer ones, and those of the lowest
ranks are retained, whatever the order of the list.
-/

namespace KiroProxy.Foundation.Retention

set_option autoImplicit false

variable {Row : Type*} (older : Row → Row → Bool)

/-- `older a b` puts `b` after `a`: rows that differ are of different ages. -/
structure Ages (rows : List Row) : Prop where
  irrefl : ∀ a, older a a = false
  trans : ∀ a b c, older a b = true → older b c = true → older a c = true
  total : ∀ a ∈ rows, ∀ b ∈ rows, a ≠ b → older a b = true ∨ older b a = true

/-- How many rows are newer. -/
def rank (rows : List Row) (row : Row) : Nat := rows.countP (older row)

/-- The newest rows, as many as there are to be kept. -/
def retained (keep : Nat) (rows : List Row) : List Row :=
  rows.filter fun row => rank older rows row < keep

variable {older} {rows : List Row}

/-- A row that is older has a higher rank. -/
theorem rank_lt (ages : Ages older rows) (a b : Row) (member : b ∈ rows)
    (aged : older a b = true) : rank older rows b < rank older rows a := by
  obtain ⟨front, back, split⟩ := List.append_of_mem member
  have passes : ∀ part : List Row, part.countP (older b) ≤ part.countP (older a) :=
    fun part => List.countP_mono_left fun c _ newer => ages.trans a b c aged newer
  have own : older b b = false := ages.irrefl b
  simp only [rank, split, List.countP_append, List.countP_cons, own, aged, if_true]
  have before := passes front
  have after := passes back
  simp only [Bool.false_eq_true, if_false]
  omega

theorem rank_bounded (ages : Ages older rows) (row : Row) (member : row ∈ rows) :
    rank older rows row < rows.length := by
  apply lt_of_le_of_ne List.countP_le_length
  intro all
  have every := List.countP_eq_length.mp all row member
  rw [ages.irrefl row] at every
  cases every

/-- The ranks are the numbers below the number of rows. -/
theorem ranks_perm (ages : Ages older rows) (distinct : rows.Nodup) :
    (rows.map (rank older rows)).Perm (List.range rows.length) := by
  have injective : ∀ a ∈ rows, ∀ b ∈ rows, rank older rows a = rank older rows b → a = b := by
    intro a first b second same
    by_contra apart
    obtain aged | aged := ages.total a first b second apart
    · exact (rank_lt ages a b second aged).ne same.symm
    · exact (rank_lt ages b a first aged).ne same
  have nodup : (rows.map (rank older rows)).Nodup :=
    distinct.map_on injective
  have inside : rows.map (rank older rows) ⊆ List.range rows.length := by
    intro number member
    obtain ⟨row, found, rfl⟩ := List.mem_map.mp member
    exact List.mem_range.mpr (rank_bounded ages row found)
  exact (nodup.subperm inside).perm_of_length_le (by simp)

theorem range_below (count keep : Nat) :
    (List.range count).countP (fun number => decide (number < keep)) = min keep count := by
  induction count with
  | zero => simp
  | succ count ih =>
      rw [List.range_succ, List.countP_append, ih, List.countP_singleton]
      simp only [decide_eq_true_eq]
      split_ifs <;> omega

/-- As many rows are left as there are to be kept, if there are so many. -/
theorem retained_length (ages : Ages older rows) (distinct : rows.Nodup) (keep : Nat) :
    (retained older keep rows).length = min keep rows.length := by
  calc (retained older keep rows).length
    _ = rows.countP fun row => decide (rank older rows row < keep) :=
        List.countP_eq_length_filter.symm
    _ = (rows.map (rank older rows)).countP fun number => decide (number < keep) := by
        rw [List.countP_map]
        rfl
    _ = min keep rows.length := by
        rw [(ranks_perm ages distinct).countP_eq, range_below]

/-- A row that goes is older than every row that is retained. -/
theorem retained_newest (ages : Ages older rows) (keep : Nat) (gone kept : Row)
    (member : gone ∈ rows) (dropped : gone ∉ retained older keep rows)
    (stays : kept ∈ retained older keep rows) : older gone kept = true := by
  simp only [retained, List.mem_filter, decide_eq_true_eq, not_and, not_lt] at dropped stays
  have high := dropped member
  have apart : gone ≠ kept := by
    rintro rfl
    omega
  obtain aged | aged := ages.total gone member kept stays.1 apart
  · exact aged
  · have lower := rank_lt ages kept gone member aged
    omega

end KiroProxy.Foundation.Retention
