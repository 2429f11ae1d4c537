import Mathlib.Data.List.Sort
import Mathlib.Data.List.Pairwise

/-!
# Sorting by a comparison

A sort that is promised to order a list only where its comparison is a weak order on the items of
that list.
-/

namespace KiroProxy.Foundation.Sorting

set_option autoImplicit false

variable {Item : Type*}

section Orders

/-- A strict weak order on the items. -/
structure StrictWeak (less : Item → Item → Bool) (items : List Item) : Prop where
  asymm : ∀ a ∈ items, ∀ b ∈ items, less a b = true → less b a = false
  trans : ∀ a ∈ items, ∀ b ∈ items, ∀ c ∈ items,
    less b a = false → less c b = false → less c a = false

/-- No item of the list is less than one before it. -/
def Ordered (less : Item → Item → Bool) (items : List Item) : Prop :=
  items.Pairwise fun earlier later => less later earlier = false

/-- A comparison of three outcomes, by its sign. -/
structure Compares (compare : Item → Item → Int) : Prop where
  flips : ∀ a b, compare a b < 0 ↔ 0 < compare b a
  trans : ∀ a b c, compare a b ≤ 0 → compare b c ≤ 0 → compare a c ≤ 0

theorem difference_compares (key : Item → Int) : Compares fun a b => key a - key b where
  flips := by
    intro a b
    omega
  trans := by
    intro a b c first second
    omega

def threeWay {Key : Type*} [LT Key] [DecidableLT Key] (a b : Key) : Int :=
  if a < b then -1 else if b < a then 1 else 0

theorem three_way_compares {Key : Type*} [LT Key] [DecidableLT Key] (key : Item → Key)
    (asymm : ∀ a b : Key, a < b → ¬b < a) (trans : ∀ a b c : Key, ¬b < a → ¬c < b → ¬c < a) :
    Compares fun a b => threeWay (key a) (key b) := by
  have sign : ∀ a b : Key, threeWay a b ≤ 0 ↔ ¬b < a := by
    intro a b
    unfold threeWay
    split_ifs with low high
    · exact ⟨fun _ => asymm a b low, fun _ => by omega⟩
    · exact ⟨fun other => by omega, fun other => absurd high other⟩
    · exact ⟨fun _ => high, fun _ => by omega⟩
  constructor
  · intro a b
    have right := (sign (key b) (key a)).not
    have left : threeWay (key a) (key b) < 0 ↔ key a < key b := by
      unfold threeWay
      split_ifs with low high
      · exact ⟨fun _ => low, fun _ => by omega⟩
      · exact ⟨fun other => by omega, fun other => absurd other low⟩
      · exact ⟨fun other => by omega, fun other => absurd other low⟩
    rw [left, ← Int.not_le, right, not_not]
  · intro a b c first second
    exact (sign _ _).mpr (trans _ _ _ ((sign _ _).mp first) ((sign _ _).mp second))

/-- The second comparison decides where the first one is 0. -/
theorem tie_compares (first second : Item → Item → Int) (left : Compares first)
    (right : Compares second) :
    Compares fun a b => if first a b = 0 then second a b else first a b := by
  have even : ∀ a b, first a b = 0 ↔ first b a = 0 := by
    intro a b
    have here := left.flips a b
    have there := left.flips b a
    omega
  constructor
  · intro a b
    have same := even a b
    by_cases tie : first a b = 0
    · simp only [if_pos tie, if_pos (same.mp tie)]
      exact right.flips a b
    · simp only [if_neg tie, if_neg fun other => tie (same.mpr other)]
      exact left.flips a b
  · intro a b c
    have ab := left.trans a b c
    have bc := left.trans b c a
    have ca := left.trans c a b
    have low := left.flips a b
    have middle := left.flips b c
    have high := left.flips a c
    have onTie := right.trans a b c
    have ab0 := even a b
    have bc0 := even b c
    have ac0 := even a c
    split_ifs <;> omega

variable {compare : Item → Item → Int} (compares : Compares compare) (items : List Item)

include compares in
theorem ascending_weak : StrictWeak (fun a b => decide (compare a b < 0)) items where
  asymm := by
    intro a _ b _ less
    have flips := compares.flips a b
    simp only [decide_eq_true_eq, decide_eq_false_iff_not] at less ⊢
    omega
  trans := by
    intro a _ b _ c _ first second
    have low := compares.flips b a
    have middle := compares.flips c b
    have high := compares.flips c a
    have whole := compares.trans a b c
    simp only [decide_eq_false_iff_not] at first second ⊢
    omega

include compares in
theorem descending_weak : StrictWeak (fun a b => decide (0 < compare a b)) items where
  asymm := by
    intro a _ b _ less
    have flips := compares.flips b a
    simp only [decide_eq_true_eq, decide_eq_false_iff_not] at less ⊢
    omega
  trans := by
    intro a _ b _ c _ first second
    have whole := compares.trans c b a
    simp only [decide_eq_false_iff_not] at first second ⊢
    omega

end Orders

section Sorts

/-- A sort by swaps: it always returns the same items, in order where there is one. -/
structure SliceSort (Item : Type*) where
  slice : (Item → Item → Bool) → List Item → List Item
  perm : ∀ less items, (slice less items).Perm items
  ordered : ∀ less items, StrictWeak less items → Ordered less (slice less items)

/-- A merge sort that compares the items of the list only. -/
def mergeSlice (less : Item → Item → Bool) (items : List Item) : List Item :=
  (items.attach.mergeSort fun a b => !less b.1 a.1).map Subtype.val

theorem merge_slice_perm (less : Item → Item → Bool) (items : List Item) :
    (mergeSlice less items).Perm items := by
  have same := (List.mergeSort_perm items.attach fun a b => !less b.1 a.1).map Subtype.val
  rwa [List.attach_map_subtype_val] at same

theorem merge_slice_ordered (less : Item → Item → Bool) (items : List Item)
    (weak : StrictWeak less items) : Ordered less (mergeSlice less items) := by
  apply List.pairwise_map.mpr
  refine List.Pairwise.imp ?_ (List.pairwise_mergeSort ?_ ?_ items.attach)
  · intro a b inOrder
    exact (Bool.not_eq_true' _).mp inOrder
  · intro a b c first second
    rw [Bool.not_eq_true'] at first second ⊢
    exact weak.trans a.1 a.2 b.1 b.2 c.1 c.2 first second
  · intro a b
    rw [Bool.or_eq_true, Bool.not_eq_true', Bool.not_eq_true']
    by_cases first : less b.1 a.1 = true
    · exact .inr (weak.asymm b.1 b.2 a.1 a.2 first)
    · exact .inl (Bool.not_eq_true _ ▸ first)

def mergeSliceSort (Item : Type*) : SliceSort Item where
  slice := mergeSlice
  perm := merge_slice_perm
  ordered := merge_slice_ordered

variable (wanted : Item → Item → Bool)

/-- Where `less` leaves items even, the other way than wanted. -/
def against (less : Item → Item → Bool) (a b : Item) : Bool :=
  less a b || (!less b a && wanted b a)

theorem against_weak (less : Item → Item → Bool) (items : List Item)
    (weak : StrictWeak less items) (wantedWeak : StrictWeak wanted items) :
    StrictWeak (against wanted less) items where
  asymm := by
    intro a inA b inB first
    have left := weak.asymm a inA b inB
    have right := wantedWeak.asymm b inB a inA
    unfold against at first ⊢
    grind
  trans := by
    intro a inA b inB c inC first second
    have ab := weak.asymm a inA b inB
    have bc := weak.asymm b inB c inC
    have ca := weak.asymm c inC a inA
    have abc := weak.trans a inA b inB c inC
    have cab := weak.trans c inC a inA b inB
    have bca := weak.trans b inB c inC a inA
    have cba := weak.trans c inC b inB a inA
    have bac := weak.trans b inB a inA c inC
    have acb := weak.trans a inA c inC b inB
    have back := wantedWeak.trans c inC b inB a inA
    unfold against at first second ⊢
    grind

theorem reversed_weak (items : List Item) (weak : StrictWeak wanted items) :
    StrictWeak (fun a b => wanted b a) items where
  asymm := fun a inA b inB first => weak.asymm b inB a inA first
  trans := fun a inA b inB c inC first second => weak.trans c inC b inB a inA second first

open Classical in
/-- A sort that keeps its promise and no more. -/
noncomputable def contrarySort : SliceSort Item where
  slice := fun less items =>
    if StrictWeak less items then
      if StrictWeak wanted items then mergeSlice (against wanted less) items
      else mergeSlice less items
    else mergeSlice (fun a b => wanted b a) items
  perm := by
    intro less items
    split_ifs
    · exact merge_slice_perm _ _
    · exact merge_slice_perm _ _
    · exact merge_slice_perm _ _
  ordered := by
    intro less items weak
    rw [if_pos weak]
    split_ifs with wantedWeak
    · refine List.Pairwise.imp ?_ (merge_slice_ordered _ _
        (against_weak wanted less items weak wantedWeak))
      intro earlier later inOrder
      exact (Bool.or_eq_false_iff.mp inOrder).1
    · exact merge_slice_ordered _ _ weak

variable {wanted}

/-- A comparison that is the wanted one on the items orders them as wanted. -/
theorem agreeing_ordered (sort : SliceSort Item) (less : Item → Item → Bool) (items : List Item)
    (wantedWeak : StrictWeak wanted items)
    (agrees : ∀ a ∈ items, ∀ b ∈ items, less a b = wanted a b) :
    Ordered wanted (sort.slice less items) := by
  have weak : StrictWeak less items := by
    constructor
    · intro a inA b inB first
      rw [agrees a inA b inB] at first
      rw [agrees b inB a inA]
      exact wantedWeak.asymm a inA b inB first
    · intro a inA b inB c inC first second
      rw [agrees b inB a inA] at first
      rw [agrees c inC b inB] at second
      rw [agrees c inC a inA]
      exact wantedWeak.trans a inA b inB c inC first second
  have members := fun item => (sort.perm less items).mem_iff (a := item)
  refine List.Pairwise.imp_of_mem ?_ (sort.ordered less items weak)
  intro earlier later inEarlier inLater inOrder
  rwa [← agrees later ((members later).mp inLater) earlier ((members earlier).mp inEarlier)]

/-- Two items that a comparison does not have the wanted way may come out the other way. -/
theorem contrary_unordered (less : Item → Item → Bool) (items : List Item)
    (wantedWeak : StrictWeak wanted items) (a b : Item) (inA : a ∈ items) (inB : b ∈ items)
    (before : wanted b a = true) (wrong : less b a = false ∨ less a b = true) :
    ¬Ordered wanted ((contrarySort wanted).slice less items) := by
  intro inOrder
  have apart : a ≠ b := by
    rintro rfl
    have other := wantedWeak.asymm a inA a inA before
    exact absurd (before.symm.trans other) Bool.true_eq_false_eq_False
  have placed : ∃ chosen : Item → Item → Bool, chosen a b = true ∧
      Ordered chosen ((contrarySort wanted).slice less items) := by
    by_cases weak : StrictWeak less items
    · refine ⟨against wanted less, ?_, ?_⟩
      · have one := weak.asymm a inA b inB
        unfold against
        grind
      · have merged := merge_slice_ordered _ _ (against_weak wanted less items weak wantedWeak)
        simp only [contrarySort, if_pos weak, if_pos wantedWeak]
        exact merged
    · have merged := merge_slice_ordered _ _ (reversed_weak wanted items wantedWeak)
      refine ⟨fun a b => wanted b a, before, ?_⟩
      simp only [contrarySort, if_neg weak]
      exact merged
  obtain ⟨chosen, first, inChosen⟩ := placed
  have members := fun item => ((contrarySort wanted).perm less items).mem_iff (a := item)
  have symmetric : Std.Symm fun x y =>
      (wanted y x = false ∧ chosen y x = false) ∨ (wanted x y = false ∧ chosen x y = false) :=
    ⟨fun _ _ either => either.symm⟩
  have placed : ((contrarySort wanted).slice less items).Pairwise fun x y =>
      (wanted y x = false ∧ chosen y x = false) ∨ (wanted x y = false ∧ chosen x y = false) :=
    (List.Pairwise.and inOrder inChosen).imp Or.inl
  rcases placed.forall ((members a).mpr inA) ((members b).mpr inB) apart with ⟨one, -⟩ | ⟨-, two⟩
  · exact Bool.false_ne_true (one.symm.trans before)
  · exact Bool.false_ne_true (two.symm.trans first)

end Sorts

end KiroProxy.Foundation.Sorting
