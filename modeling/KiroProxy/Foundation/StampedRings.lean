import Mathlib.Algebra.BigOperators.Group.List.Basic
import Mathlib.Data.List.Induction
import Mathlib.Algebra.GroupWithZero.Nat
import Mathlib.Order.Nat

/-!
# Stamped rings

A ring of slots that holds one bucket for each of the last minutes. A slot is reused when the
ring has gone round, so a bucket carries the minute it is of, and one with an older stamp is
cleared when it is written and skipped when it is read.
-/

namespace KiroProxy.Foundation.StampedRings

set_option autoImplicit false

section Rings

variable {Bucket Event : Type*} {slots : Nat} [NeZero slots]

abbrev Ring (Bucket : Type*) (slots : Nat) := Fin slots → Bucket

/-- How a bucket of a minute starts, which minute it is of, and how an event changes the
bucket of its minute. -/
structure Stamping (Bucket Event : Type*) where
  stamp : Bucket → Nat
  fresh : Nat → Bucket
  stamp_fresh : ∀ minute, stamp (fresh minute) = minute
  minute : Event → Nat
  change : Event → Bucket → Bucket
  keeps : ∀ event bucket, stamp (change event bucket) = stamp bucket

variable (stamping : Stamping Bucket Event)

/-- The bucket of the minute, cleared where its slot holds another minute. -/
def touched (ring : Ring Bucket slots) (minute : Nat) : Bucket :=
  if stamping.stamp (ring (Fin.ofNat slots minute)) = minute then ring (Fin.ofNat slots minute)
  else stamping.fresh minute

def write (ring : Ring Bucket slots) (event : Event) : Ring Bucket slots :=
  Function.update ring (Fin.ofNat slots (stamping.minute event))
    (stamping.change event (touched stamping ring (stamping.minute event)))

theorem stamp_touched (ring : Ring Bucket slots) (minute : Nat) :
    stamping.stamp (touched stamping ring minute) = minute := by
  unfold touched
  split_ifs with same
  · exact same
  · exact stamping.stamp_fresh minute

end Rings

section Replays

variable {Bucket Event : Type*} {slots : Nat} [NeZero slots] (stamping : Stamping Bucket Event)

/-- The bucket that the events of a minute make, in the order of the log. -/
def replay (log : List Event) (minute : Nat) : Bucket :=
  (log.filter fun event => stamping.minute event == minute).foldl
    (fun bucket event => stamping.change event bucket) (stamping.fresh minute)

theorem replay_concat (log : List Event) (event : Event) (minute : Nat) :
    replay stamping (log ++ [event]) minute =
      if stamping.minute event = minute then stamping.change event (replay stamping log minute)
      else replay stamping log minute := by
  unfold replay
  rw [List.filter_append, List.foldl_append, List.filter_singleton]
  by_cases same : stamping.minute event = minute
  · simp [same]
  · simp [beq_false_of_ne same, if_neg same]

theorem replay_none (log : List Event) (minute : Nat)
    (none : ∀ event ∈ log, stamping.minute event ≠ minute) :
    replay stamping log minute = stamping.fresh minute := by
  unfold replay
  rw [List.filter_eq_nil_iff.mpr fun event member => by simp [none event member]]
  rfl

/-- What a ring holds of a log whose minutes are not beyond the last one: a slot holds what the
log makes of the minute it is stamped with, and its minutes behind that one are not in the log. -/
structure Holds (ring : Ring Bucket slots) (log : List Event) (last : Nat) : Prop where
  past : ∀ event ∈ log, stamping.minute event ≤ last
  stamps : ∀ slot, stamping.stamp (ring slot) ≤ last
  placed : ∀ slot : Fin slots, stamping.stamp (ring slot) % slots = slot ∨
    stamping.stamp (ring slot) = 0
  current : ∀ minute, stamping.stamp (ring (Fin.ofNat slots minute)) = minute →
    ring (Fin.ofNat slots minute) = replay stamping log minute
  absent : ∀ minute, stamping.stamp (ring (Fin.ofNat slots minute)) < minute →
    ∀ event ∈ log, stamping.minute event ≠ minute

theorem fresh_holds (last : Nat) :
    Holds stamping (fun _ => stamping.fresh 0 : Ring Bucket slots) [] last where
  past := by
    intro event member
    cases member
  stamps := fun _ => (stamping.stamp_fresh 0).le.trans (Nat.zero_le last)
  placed := fun _ => .inr (stamping.stamp_fresh 0)
  current := by
    intro minute same
    rw [stamping.stamp_fresh] at same
    rw [← same]
    rfl
  absent := by
    intro minute _ event member
    cases member

variable {stamping}

theorem Holds.later {ring : Ring Bucket slots} {log : List Event} {last : Nat}
    (holds : Holds stamping ring log last) (later : Nat) (after : last ≤ later) :
    Holds stamping ring log later where
  past := fun event member => (holds.past event member).trans after
  stamps := fun slot => (holds.stamps slot).trans after
  placed := holds.placed
  current := holds.current
  absent := holds.absent

/-- A slot that is not stamped with a later minute shows what the log makes of the minute. -/
theorem Holds.touched {ring : Ring Bucket slots} {log : List Event} {last : Nat}
    (holds : Holds stamping ring log last) (minute : Nat)
    (behind : stamping.stamp (ring (Fin.ofNat slots minute)) ≤ minute) :
    touched stamping ring minute = replay stamping log minute := by
  unfold StampedRings.touched
  split_ifs with same
  · exact holds.current minute same
  · exact (replay_none stamping log minute
      (holds.absent minute (Nat.lt_of_le_of_ne behind same))).symm

theorem write_holds {ring : Ring Bucket slots} {log : List Event} {last : Nat}
    (holds : Holds stamping ring log last) (event : Event)
    (after : last ≤ stamping.minute event) :
    Holds stamping (write stamping ring event) (log ++ [event])
      (stamping.minute event) := by
  have stamped : stamping.stamp
      (write stamping ring event (Fin.ofNat slots (stamping.minute event))) =
        stamping.minute event := by
    rw [write, Function.update_self, stamping.keeps event, stamp_touched]
  have others : ∀ slot, slot ≠ Fin.ofNat slots (stamping.minute event) →
      write stamping ring event slot = ring slot :=
    fun slot apart => Function.update_of_ne apart _ _
  constructor
  · intro other member
    cases List.mem_append.mp member with
    | inl inside => exact (holds.past other inside).trans after
    | inr final => rw [List.mem_singleton.mp final]
  · intro slot
    by_cases same : slot = Fin.ofNat slots (stamping.minute event)
    · rw [same, stamped]
    · rw [others slot same]
      exact (holds.stamps slot).trans after
  · intro slot
    by_cases same : slot = Fin.ofNat slots (stamping.minute event)
    · rw [same, stamped]
      exact .inl rfl
    · rw [others slot same]
      exact holds.placed slot
  · intro minute current
    by_cases same : Fin.ofNat slots minute = Fin.ofNat slots (stamping.minute event)
    · rw [same, stamped] at current
      rw [replay_concat, if_pos current, ← current, write, Function.update_self,
        holds.touched (stamping.minute event) ((holds.stamps _).trans after)]
    · rw [others _ same] at current ⊢
      have other : stamping.minute event ≠ minute := by
        intro equal
        exact same (by rw [equal])
      rw [replay_concat, if_neg other]
      exact holds.current minute current
  · intro minute behind other member
    by_cases same : Fin.ofNat slots minute = Fin.ofNat slots (stamping.minute event)
    · rw [same, stamped] at behind
      cases List.mem_append.mp member with
      | inl inside =>
          have before := (holds.past other inside).trans after
          omega
      | inr final =>
          rw [List.mem_singleton.mp final]
          omega
    · rw [others _ same] at behind
      cases List.mem_append.mp member with
      | inl inside => exact holds.absent minute behind other inside
      | inr final =>
          rw [List.mem_singleton.mp final]
          intro equal
          exact same (by rw [equal])

/-- A log of which the minutes never go back. -/
theorem writes_hold (ring : Ring Bucket slots) (before log : List Event) (last : Nat)
    (holds : Holds stamping ring before last)
    (ordered : (log.map stamping.minute).Pairwise (· ≤ ·))
    (after : ∀ event ∈ log, last ≤ stamping.minute event) (now : Nat) (reached : last ≤ now)
    (past : ∀ event ∈ log, stamping.minute event ≤ now) :
    Holds stamping (log.foldl (write stamping) ring) (before ++ log) now := by
  induction log generalizing ring before last with
  | nil =>
      rw [List.append_nil]
      exact holds.later now reached
  | cons event log ih =>
      rw [List.map_cons, List.pairwise_cons] at ordered
      rw [List.foldl_cons, List.append_cons]
      apply ih _ _ (stamping.minute event)
      · exact write_holds holds event (after event List.mem_cons_self)
      · exact ordered.2
      · intro other member
        exact ordered.1 (stamping.minute other) (List.mem_map_of_mem member)
      · exact past event List.mem_cons_self
      · exact fun other member => past other (List.mem_cons_of_mem _ member)

/-- A ring shows what the log makes of the minutes that are not a full turn ago. -/
theorem Holds.shows {ring : Ring Bucket slots} {log : List Event} {now : Nat}
    (holds : Holds stamping ring log now) (minute : Nat) (recent : now < minute + slots) :
    StampedRings.touched stamping ring minute = replay stamping log minute := by
  apply holds.touched
  by_contra ahead
  have limit := holds.stamps (Fin.ofNat slots minute)
  cases holds.placed (Fin.ofNat slots minute) with
  | inr zero => omega
  | inl turn =>
      -- A later stamp in this slot is a full turn later, which is beyond now.
      have congruent : stamping.stamp (ring (Fin.ofNat slots minute)) % slots =
          minute % slots := turn
      have apart := Nat.sub_mod_eq_zero_of_mod_eq congruent
      obtain ⟨turns, whole⟩ := Nat.dvd_of_mod_eq_zero apart
      cases turns with
      | zero => omega
      | succ turns =>
          have full : slots ≤ slots * (turns + 1) := Nat.le_mul_of_pos_right _ (by omega)
          omega

end Replays

section Measures

variable {Bucket Event : Type*} {slots : Nat} [NeZero slots] (stamping : Stamping Bucket Event)

/-- An amount that is read off a bucket, and what an event adds to it. Adding need not be
associative: a sum says in which order it is made. -/
structure Measure (Amount : Type*) [Zero Amount] [Add Amount] where
  value : Bucket → Amount
  part : Event → Amount
  fresh : ∀ minute, value (stamping.fresh minute) = 0
  adds : ∀ event bucket, value (stamping.change event bucket) = value bucket + part event
  add_zero : ∀ amount : Amount, amount + 0 = amount

variable {stamping} {Amount : Type*} [Zero Amount] [Add Amount]
  (measure : Measure stamping Amount)

/-- What the events of the minute that many minutes ago add up to, in the order of the log. -/
def minuteSum (log : List Event) (now offset : Nat) : Amount :=
  (log.filter fun event => decide (stamping.minute event + offset = now)).foldl
    (fun sum event => sum + measure.part event) 0

/-- The sums of some minutes, newest minute first, added to what there is. -/
def windowSum (log : List Event) (now near width : Nat) (start : Amount) : Amount :=
  (List.range' near width).foldl (fun sum offset => sum + minuteSum measure log now offset) start

theorem value_replay (log : List Event) (now offset : Nat) (within : offset ≤ now) :
    measure.value (replay stamping log (now - offset)) = minuteSum measure log now offset := by
  have same : (fun event => stamping.minute event == now - offset) =
      fun event => decide (stamping.minute event + offset = now) := by
    funext event
    rw [Bool.eq_iff_iff, beq_iff_eq, decide_eq_true_eq]
    omega
  unfold replay minuteSum
  rw [same, ← measure.fresh (now - offset)]
  generalize log.filter _ = events
  generalize stamping.fresh (now - offset) = bucket
  induction events generalizing bucket with
  | nil => rfl
  | cons event events ih => rw [List.foldl_cons, List.foldl_cons, ih, measure.adds]

/-- What the ring shows of the minutes that many minutes ago. -/
def shownAgo (ring : Ring Bucket slots) (now offset : Nat) : Amount :=
  if offset ≤ now then measure.value (touched stamping ring (now - offset)) else 0

theorem shown_logged {ring : Ring Bucket slots} {log : List Event} {now : Nat}
    (holds : Holds stamping ring log now) (offset : Nat) (recent : offset < slots) :
    shownAgo measure ring now offset = minuteSum measure log now offset := by
  unfold shownAgo
  split_ifs with within
  · rw [holds.shows _ (by omega), value_replay measure log now offset within]
  · unfold minuteSum
    rw [List.filter_eq_nil_iff.mpr]
    · rfl
    · intro event _ same
      have reached := of_decide_eq_true same
      omega

variable {State : Type*}

/-- A loop over a window adds up its minutes. -/
theorem foldl_window {ring : Ring Bucket slots} {log : List Event} {now : Nat}
    (holds : Holds stamping ring log now) (near width : Nat) (short : near + width ≤ slots)
    (read : State → Amount) (step : State → Nat → State)
    (adds : ∀ state offset, offset < near + width →
      read (step state offset) = read state + shownAgo measure ring now offset) (state : State) :
    read ((List.range' near width).foldl step state) =
      windowSum measure log now near width (read state) := by
  induction width with
  | zero => rfl
  | succ width ih =>
      unfold windowSum at ih ⊢
      rw [List.range'_concat, List.foldl_append, List.foldl_append, Nat.one_mul,
        List.foldl_cons, List.foldl_nil, List.foldl_cons, List.foldl_nil,
        adds _ _ (by omega), shown_logged measure holds _ (by omega),
        ih (by omega) fun state offset inside => adds state offset (by omega)]

/-- A loop that counts the first minutes of its window only. -/
theorem foldl_part {ring : Ring Bucket slots} {log : List Event} {now : Nat}
    (holds : Holds stamping ring log now) (far width : Nat) (within : far ≤ width)
    (short : width ≤ slots) (read : State → Amount) (step : State → Nat → State)
    (adds : ∀ state offset, offset < width → read (step state offset) =
      read state + if offset < far then shownAgo measure ring now offset else 0) (state : State) :
    read ((List.range' 0 width).foldl step state) =
      windowSum measure log now 0 far (read state) := by
  obtain ⟨rest, whole⟩ := Nat.exists_eq_add_of_le within
  subst whole
  induction rest with
  | zero =>
      apply foldl_window measure holds 0 far (by omega)
      intro state offset inside
      rw [adds state offset (by omega), if_pos (by omega)]
  | succ rest ih =>
      rw [← Nat.add_assoc, List.range'_concat, List.foldl_append, List.foldl_cons, List.foldl_nil,
        adds _ _ (by omega), if_neg (by omega), measure.add_zero]
      exact ih (by omega) (by omega) fun state offset inside => adds state offset (by omega)

end Measures

section Sums

variable {Bucket Event : Type*} {stamping : Stamping Bucket Event}
  {Amount : Type*} [AddCommMonoid Amount] (measure : Measure stamping Amount)

/-- What the events of a log amount to, over the minutes that pass the test. -/
def logged (log : List Event) (test : Nat → Bool) : Amount :=
  ((log.filter fun event => test (stamping.minute event)).map measure.part).sum

theorem logged_none (log : List Event) (test : Nat → Bool)
    (none : ∀ event ∈ log, test (stamping.minute event) = false) :
    logged measure log test = 0 := by
  unfold logged
  rw [List.filter_eq_nil_iff.mpr fun event member => by simp [none event member]]
  rfl

/-- Two tests that no minute passes together. -/
theorem logged_split (log : List Event) (left right test : Nat → Bool)
    (apart : ∀ event ∈ log,
      ¬ (left (stamping.minute event) = true ∧ right (stamping.minute event) = true))
    (whole : ∀ event ∈ log, test (stamping.minute event) =
      (left (stamping.minute event) || right (stamping.minute event))) :
    logged measure log test = logged measure log left + logged measure log right := by
  unfold logged
  induction log with
  | nil => exact (add_zero (0 : Amount)).symm
  | cons event log ih =>
      have rest := ih (fun other inside => apart other (List.mem_cons_of_mem _ inside))
        fun other inside => whole other (List.mem_cons_of_mem _ inside)
      have first := apart event List.mem_cons_self
      rw [List.filter_cons, List.filter_cons, List.filter_cons, whole event List.mem_cons_self]
      cases near : left (stamping.minute event) <;> cases far : right (stamping.minute event)
      · simpa using rest
      · simp [rest, add_left_comm]
      · simp [rest, add_assoc]
      · exact absurd ⟨near, far⟩ first

/-- The minutes from `near` minutes ago to before `far` minutes ago. -/
def ago (now near far minute : Nat) : Bool := decide (minute + near ≤ now ∧ now < minute + far)

/-- Where adding is associative, a window adds up to the sum over the log. -/
theorem windowSum_logged (log : List Event) (now near width : Nat) (start : Amount) :
    windowSum measure log now near width start =
      start + logged measure log (ago now near (near + width)) := by
  induction width with
  | zero =>
      rw [logged_none, add_zero]
      · rfl
      · intro event member
        exact decide_eq_false (by omega)
  | succ width ih =>
      have oldest : minuteSum measure log now (near + width) =
          logged measure log fun minute => decide (minute + (near + width) = now) := by
        unfold minuteSum logged
        rw [← List.foldl_map, ← List.sum_eq_foldl]
      unfold windowSum at ih ⊢
      rw [List.range'_concat, List.foldl_append, List.foldl_cons, List.foldl_nil, Nat.one_mul, ih,
        oldest, add_assoc]
      congr 1
      symm
      apply logged_split
      · intro event member both
        have recent := of_decide_eq_true both.1
        have exact_ := of_decide_eq_true both.2
        omega
      · intro event member
        rw [Bool.eq_iff_iff, Bool.or_eq_true, ago, ago, decide_eq_true_eq, decide_eq_true_eq,
          decide_eq_true_eq]
        omega

/-- Items that add nothing may be left out. -/
theorem sum_filter {Item : Type*} (keep : Item → Bool) (part : Item → Amount) (items : List Item)
    (nothing : ∀ item ∈ items, keep item = false → part item = 0) :
    ((items.filter keep).map part).sum = (items.map part).sum := by
  induction items with
  | nil => rfl
  | cons item items ih =>
      have rest := ih fun other member => nothing other (List.mem_cons_of_mem _ member)
      rw [List.filter_cons, List.map_cons, List.sum_cons, ← rest]
      split_ifs with kept
      · rw [List.map_cons, List.sum_cons]
      · rw [nothing item List.mem_cons_self (Bool.eq_false_iff.mpr kept), zero_add]

end Sums

end KiroProxy.Foundation.StampedRings
