import KiroProxy.Foundation.Runs
import Mathlib.Algebra.BigOperators.Group.List.Basic
import Mathlib.Algebra.Order.BigOperators.Group.List
import Mathlib.Algebra.Order.Group.Basic
import Mathlib.Tactic.Abel

/-!
# Ledgers of reservations

A counter per key carries what has been used and what is only reserved. A hold
adds its reserved amount to the counter; settling the hold replaces it by the
actual amount; a wipe sets the counter of a key to zero while holds on that key
may still be open. The counter never shows a negative balance: a settlement
that would take it below zero leaves it at zero.
-/

namespace KiroProxy.Foundation.ReservationLedger

open Foundation.Runs

set_option autoImplicit false

variable {Key Amount : Type*} [DecidableEq Key]
  [AddCommGroup Amount] [LinearOrder Amount]

abbrev NonNeg (Amount : Type*) [AddCommGroup Amount] [LinearOrder Amount] :=
  { amount : Amount // 0 ≤ amount }

/-- `actual` is what the hold was settled with, if it was. `stale` marks a hold
made before the last wipe of its key, `forgotten` one settled before it. -/
structure Hold (Key Amount : Type*) [AddCommGroup Amount] [LinearOrder Amount] where
  key : Key
  reserved : NonNeg Amount
  actual : Option (NonNeg Amount)
  stale : Bool
  forgotten : Bool

structure Ledger (Key Amount : Type*) [AddCommGroup Amount] [LinearOrder Amount] where
  counter : Key → Amount
  holds : List (Hold Key Amount)

inductive Posting (Key Amount : Type*) [AddCommGroup Amount] [LinearOrder Amount] where
  | reserve (key : Key) (amount : NonNeg Amount)
  | settle (index : Nat) (actual : NonNeg Amount)
  | wipe (key : Key)
  | idle

def Hold.countedAmount (hold : Hold Key Amount) (key : Key) : Amount :=
  if hold.key = key ∧ hold.forgotten = false then
    (hold.actual.map Subtype.val).getD 0
  else 0

def Hold.pendingAmount (hold : Hold Key Amount) (key : Key) : Amount :=
  if hold.key = key ∧ hold.stale = false ∧ hold.actual = none then hold.reserved.val
  else 0

/-- What was settled on the key since its last wipe. -/
def Ledger.counted (ledger : Ledger Key Amount) (key : Key) : Amount :=
  (ledger.holds.map (fun hold => hold.countedAmount key)).sum

/-- What is reserved on the key by holds made since its last wipe. -/
def Ledger.pending (ledger : Ledger Key Amount) (key : Key) : Amount :=
  (ledger.holds.map (fun hold => hold.pendingAmount key)).sum

def Hold.wiped (key : Key) (hold : Hold Key Amount) : Hold Key Amount :=
  if hold.key = key then
    match hold.actual with
    | none => { hold with stale := true }
    | some _ => { hold with forgotten := true }
  else hold

/-- The balance a settlement leaves before it is kept from going negative. -/
def settledBalance (counter : Amount) (reserved actual : NonNeg Amount) : Amount :=
  counter + (actual.val - reserved.val)

def post (ledger : Ledger Key Amount) : Posting Key Amount → Ledger Key Amount
  | .reserve key amount =>
      { counter := Function.update ledger.counter key (ledger.counter key + amount.val)
        holds := ledger.holds ++ [⟨key, amount, none, false, false⟩] }
  | .settle index actual =>
      match ledger.holds[index]? with
      | none => ledger
      | some hold =>
          if hold.actual = none then
            { counter := Function.update ledger.counter hold.key
                (max 0 (settledBalance (ledger.counter hold.key) hold.reserved actual))
              holds := ledger.holds.set index { hold with actual := some actual } }
          else ledger
  | .wipe key =>
      { counter := Function.update ledger.counter key 0
        holds := ledger.holds.map (Hold.wiped key) }
  | .idle => ledger

/-- The posting on counters that keep of a sum what `store` makes of it. -/
def postStored (store : Amount → Amount) (ledger : Ledger Key Amount)
    (posting : Posting Key Amount) : Ledger Key Amount where
  counter :=
    match posting with
    | .reserve key amount =>
        Function.update ledger.counter key (store (ledger.counter key + amount.val))
    | .settle index actual =>
        match ledger.holds[index]? with
        | none => ledger.counter
        | some hold =>
            if hold.actual = none then
              Function.update ledger.counter hold.key
                (max 0 (store (settledBalance (ledger.counter hold.key) hold.reserved actual)))
            else ledger.counter
    | .wipe key => Function.update ledger.counter key 0
    | .idle => ledger.counter
  holds := (post ledger posting).holds

/-- The sum the posting writes to the counter of the key is stored as it is. -/
def StoresSum (store : Amount → Amount) (ledger : Ledger Key Amount) (key : Key) :
    Posting Key Amount → Prop
  | .reserve other amount => other = key →
      store (ledger.counter key + amount.val) = ledger.counter key + amount.val
  | .settle index actual => ∀ hold, ledger.holds[index]? = some hold → hold.actual = none →
      hold.key = key →
        store (settledBalance (ledger.counter key) hold.reserved actual) =
          settledBalance (ledger.counter key) hold.reserved actual
  | _ => True

theorem stored_counter (store : Amount → Amount) (ledger : Ledger Key Amount) (key : Key)
    (posting : Posting Key Amount) (stores : StoresSum store ledger key posting) :
    (postStored store ledger posting).counter key = (post ledger posting).counter key := by
  cases posting with
  | reserve other amount =>
      by_cases same : other = key
      · subst same
        simp [postStored, post, stores rfl]
      · simp [postStored, post, Function.update_of_ne (Ne.symm same)]
  | settle index actual =>
      cases found : ledger.holds[index]? with
      | none => simp [postStored, post, found]
      | some hold =>
          by_cases opened : hold.actual = none
          · by_cases same : hold.key = key
            · simp [postStored, post, found, opened, same, stores hold found opened same]
            · simp [postStored, post, found, opened, Function.update_of_ne (Ne.symm same)]
          · simp [postStored, post, found, opened]
  | wipe other => rfl
  | idle => rfl

/-- Where every counter stores its sum, the posting is the exact one. -/
theorem post_stored (store : Amount → Amount) (ledger : Ledger Key Amount)
    (posting : Posting Key Amount) (stores : ∀ key, StoresSum store ledger key posting) :
    postStored store ledger posting = post ledger posting := by
  have counters : (postStored store ledger posting).counter = (post ledger posting).counter :=
    funext fun key => stored_counter store ledger key posting (stores key)
  rw [show post ledger posting =
    ⟨(post ledger posting).counter, (post ledger posting).holds⟩ from rfl, ← counters]
  rfl

section Sums

omit [LinearOrder Amount] in
theorem sum_map_set {Item : Type*} (weight : Item → Amount) (items : List Item)
    (index : Nat) (old new : Item) (found : items[index]? = some old) :
    ((items.set index new).map weight).sum =
      (items.map weight).sum - weight old + weight new := by
  rw [List.map_set, List.sum_set']
  rcases List.getElem?_eq_some_iff.mp found with ⟨bound, same⟩
  have mapped : index < (items.map weight).length := by simpa using bound
  rw [dif_pos mapped, List.getElem_map, same]
  abel

theorem counted_amount_nonneg (hold : Hold Key Amount) (key : Key) :
    0 ≤ hold.countedAmount key := by
  unfold Hold.countedAmount
  split_ifs
  · cases settled : hold.actual with
    | none => simp
    | some amount => simpa using amount.property
  · exact le_refl 0

theorem pending_amount_nonneg (hold : Hold Key Amount) (key : Key) :
    0 ≤ hold.pendingAmount key := by
  unfold Hold.pendingAmount
  split_ifs
  · exact hold.reserved.property
  · exact le_refl 0

variable [IsOrderedAddMonoid Amount]

theorem counted_nonneg (ledger : Ledger Key Amount) (key : Key) :
    0 ≤ ledger.counted key := by
  apply List.sum_nonneg
  intro amount member
  rcases List.mem_map.mp member with ⟨hold, _, same⟩
  rw [← same]
  exact counted_amount_nonneg hold key

theorem pending_nonneg (ledger : Ledger Key Amount) (key : Key) :
    0 ≤ ledger.pending key := by
  apply List.sum_nonneg
  intro amount member
  rcases List.mem_map.mp member with ⟨hold, _, same⟩
  rw [← same]
  exact pending_amount_nonneg hold key

/-- An open hold is part of what is pending on its key. -/
theorem reserved_le_pending (ledger : Ledger Key Amount) (index : Nat)
    (hold : Hold Key Amount) (found : ledger.holds[index]? = some hold)
    (opened : hold.actual = none) (fresh : hold.stale = false) :
    hold.reserved.val ≤ ledger.pending hold.key := by
  have amount : hold.pendingAmount hold.key = hold.reserved.val := by
    simp [Hold.pendingAmount, opened, fresh]
  rw [← amount]
  apply List.single_le_sum
  · intro other member
    rcases List.mem_map.mp member with ⟨source, _, same⟩
    rw [← same]
    exact pending_amount_nonneg source hold.key
  · exact List.mem_map.mpr ⟨hold, List.mem_of_getElem? found, rfl⟩

end Sums

section Postings

variable (ledger : Ledger Key Amount) (key : Key)

theorem counted_reserve (other : Key) (amount : NonNeg Amount) :
    (post ledger (.reserve other amount)).counted key = ledger.counted key := by
  simp [Ledger.counted, post, Hold.countedAmount]

theorem pending_reserve (other : Key) (amount : NonNeg Amount) :
    (post ledger (.reserve other amount)).pending key =
      ledger.pending key + if other = key then amount.val else 0 := by
  simp [Ledger.pending, post, Hold.pendingAmount]

theorem counter_reserve (other : Key) (amount : NonNeg Amount) :
    (post ledger (.reserve other amount)).counter key =
      ledger.counter key + if other = key then amount.val else 0 := by
  by_cases same : other = key
  · simp [post, same]
  · simp [post, same, Function.update_of_ne (Ne.symm same)]

variable (index : Nat) (hold : Hold Key Amount) (actual : NonNeg Amount)
  (found : ledger.holds[index]? = some hold) (opened : hold.actual = none)

include found opened

theorem post_settle :
    post ledger (.settle index actual) =
      { counter := Function.update ledger.counter hold.key
          (max 0 (settledBalance (ledger.counter hold.key) hold.reserved actual))
        holds := ledger.holds.set index { hold with actual := some actual } } := by
  simp [post, found, opened]

theorem counted_settle (remembered : hold.forgotten = false) :
    (post ledger (.settle index actual)).counted key =
      ledger.counted key + if hold.key = key then actual.val else 0 := by
  rw [post_settle ledger index hold actual found opened]
  simp only [Ledger.counted]
  rw [sum_map_set _ _ _ hold _ found]
  by_cases same : hold.key = key
  · simp [Hold.countedAmount, same, opened, remembered]
  · simp [Hold.countedAmount, same]

theorem pending_settle :
    (post ledger (.settle index actual)).pending key =
      ledger.pending key - hold.pendingAmount key := by
  rw [post_settle ledger index hold actual found opened]
  simp only [Ledger.pending]
  rw [sum_map_set _ _ _ hold _ found]
  simp [Hold.pendingAmount]

theorem counter_settle_other (apart : hold.key ≠ key) :
    (post ledger (.settle index actual)).counter key = ledger.counter key := by
  rw [post_settle ledger index hold actual found opened]
  simp [Function.update_of_ne (Ne.symm apart)]

theorem counter_settle_same :
    (post ledger (.settle index actual)).counter hold.key =
      max 0 (settledBalance (ledger.counter hold.key) hold.reserved actual) := by
  rw [post_settle ledger index hold actual found opened]
  simp

end Postings

/-- A settlement of a hold that is missing or already settled changes nothing. -/
theorem post_settle_noop (ledger : Ledger Key Amount) (index : Nat)
    (actual : NonNeg Amount)
    (closed : ∀ hold, ledger.holds[index]? = some hold → hold.actual ≠ none) :
    post ledger (.settle index actual) = ledger := by
  simp only [post]
  cases found : ledger.holds[index]? with
  | none => rfl
  | some hold => simp [closed hold found]

theorem wiped_counted_amount (hold : Hold Key Amount) (key other : Key) :
    (hold.wiped other).countedAmount key =
      if key = other then 0 else hold.countedAmount key := by
  by_cases wiped : hold.key = other
  · cases settled : hold.actual with
    | none =>
        by_cases same : key = other <;>
          simp [Hold.wiped, Hold.countedAmount, wiped, settled, same]
    | some amount =>
        by_cases same : key = other
        · simp [Hold.wiped, Hold.countedAmount, wiped, settled, same]
        · simp [Hold.wiped, Hold.countedAmount, wiped, settled, same, Ne.symm same]
  · by_cases same : key = other
    · simp [Hold.wiped, Hold.countedAmount, wiped, same]
    · simp [Hold.wiped, wiped, same]

theorem wiped_pending_amount (hold : Hold Key Amount) (key other : Key) :
    (hold.wiped other).pendingAmount key =
      if key = other then 0 else hold.pendingAmount key := by
  by_cases wiped : hold.key = other
  · cases settled : hold.actual with
    | none =>
        by_cases same : key = other
        · simp [Hold.wiped, Hold.pendingAmount, wiped, settled, same]
        · simp [Hold.wiped, Hold.pendingAmount, wiped, settled, same, Ne.symm same]
    | some amount =>
        by_cases same : key = other <;>
          simp [Hold.wiped, Hold.pendingAmount, wiped, settled, same]
  · by_cases same : key = other
    · simp [Hold.wiped, Hold.pendingAmount, wiped, same]
    · simp [Hold.wiped, wiped, same]

theorem counted_wipe (ledger : Ledger Key Amount) (key other : Key) :
    (post ledger (.wipe other)).counted key =
      if key = other then 0 else ledger.counted key := by
  by_cases same : key = other
  · simp [Ledger.counted, post, wiped_counted_amount, Function.comp_def, same]
  · simp [Ledger.counted, post, wiped_counted_amount, Function.comp_def, same]

theorem pending_wipe (ledger : Ledger Key Amount) (key other : Key) :
    (post ledger (.wipe other)).pending key =
      if key = other then 0 else ledger.pending key := by
  by_cases same : key = other
  · simp [Ledger.pending, post, wiped_pending_amount, Function.comp_def, same]
  · simp [Ledger.pending, post, wiped_pending_amount, Function.comp_def, same]

/-- A settlement keeps what is true of every hold whatever it was settled with. -/
theorem remembered_settle (ledger : Ledger Key Amount) (index : Nat)
    (actual : NonNeg Amount) (property : Hold Key Amount → Prop)
    (kept : ∀ hold, property hold → property { hold with actual := some actual })
    (before : ∀ hold ∈ ledger.holds, property hold) :
    ∀ hold ∈ (post ledger (.settle index actual)).holds, property hold := by
  intro hold member
  simp only [post] at member
  cases found : ledger.holds[index]? with
  | none =>
      simp only [found] at member
      exact before hold member
  | some old =>
      simp only [found] at member
      split_ifs at member
      · rcases List.mem_or_eq_of_mem_set member with earlier | same
        · exact before hold earlier
        · rw [same]
          exact kept old (before old (List.mem_of_getElem? found))
      · exact before hold member

section Balance

variable [IsOrderedAddMonoid Amount] (start : Key → NonNeg Amount)

/-- No hold outlived a wipe of its key. -/
def Unwiped (ledger : Ledger Key Amount) : Prop :=
  ∀ hold ∈ ledger.holds, hold.stale = false ∧ hold.forgotten = false

/-- The counter of the key is its starting value plus what was settled plus what is still
reserved. -/
def Balanced (ledger : Ledger Key Amount) (key : Key) : Prop :=
  ledger.counter key = (start key).val + ledger.counted key + ledger.pending key

def Wipes : Posting Key Amount → Prop
  | .wipe _ => True
  | _ => False

theorem balanced_settles_exactly (ledger : Ledger Key Amount) (unwiped : Unwiped ledger)
    (index : Nat) (hold : Hold Key Amount) (actual : NonNeg Amount)
    (found : ledger.holds[index]? = some hold) (opened : hold.actual = none)
    (balanced : Balanced start ledger hold.key) :
    0 ≤ settledBalance (ledger.counter hold.key) hold.reserved actual := by
  have fresh := (unwiped hold (List.mem_of_getElem? found)).1
  have part := reserved_le_pending ledger index hold found opened fresh
  have counted := counted_nonneg ledger hold.key
  have initial := (start hold.key).property
  have paid := actual.property
  rw [settledBalance, balanced]
  calc
    (0 : Amount) ≤ (start hold.key).val + ledger.counted hold.key + actual.val :=
      add_nonneg (add_nonneg initial counted) paid
    _ ≤ (start hold.key).val + ledger.counted hold.key + actual.val +
          (ledger.pending hold.key - hold.reserved.val) :=
      le_add_of_nonneg_right (sub_nonneg.mpr part)
    _ = (start hold.key).val + ledger.counted hold.key + ledger.pending hold.key +
          (actual.val - hold.reserved.val) := by abel

omit [IsOrderedAddMonoid Amount] in
theorem unwiped_post (ledger : Ledger Key Amount) (unwiped : Unwiped ledger)
    (posting : Posting Key Amount) (keeps : ¬Wipes posting) : Unwiped (post ledger posting) := by
  cases posting with
  | reserve key amount =>
      intro hold member
      simp only [post, List.mem_append, List.mem_singleton] at member
      rcases member with earlier | same
      · exact unwiped hold earlier
      · simp [same]
  | settle index actual =>
      exact remembered_settle ledger index actual
        (fun hold => hold.stale = false ∧ hold.forgotten = false) (fun _ flags => flags) unwiped
  | wipe key => exact absurd trivial keeps
  | idle => exact unwiped

theorem balanced_post (ledger : Ledger Key Amount) (unwiped : Unwiped ledger)
    (posting : Posting Key Amount) (keeps : ¬Wipes posting) (key : Key)
    (balanced : Balanced start ledger key) : Balanced start (post ledger posting) key := by
  unfold Balanced at balanced ⊢
  cases posting with
  | reserve other amount =>
      rw [counter_reserve, counted_reserve, pending_reserve, balanced]
      abel
  | settle index actual =>
      cases found : ledger.holds[index]? with
      | none =>
          rw [post_settle_noop ledger index actual (by simp [found])]
          exact balanced
      | some hold =>
          by_cases opened : hold.actual = none
          · have flags := unwiped hold (List.mem_of_getElem? found)
            rw [counted_settle ledger key index hold actual found opened flags.2,
              pending_settle ledger key index hold actual found opened]
            by_cases same : hold.key = key
            · subst same
              have exactly := balanced_settles_exactly start ledger unwiped index hold actual
                found opened balanced
              rw [counter_settle_same ledger index hold actual found opened,
                max_eq_right exactly, settledBalance, balanced]
              simp only [Hold.pendingAmount, opened, flags.1, if_true, and_self]
              abel
            · rw [counter_settle_other ledger key index hold actual found opened same, balanced]
              simp [Hold.pendingAmount, same]
          · have closed : ∀ other, ledger.holds[index]? = some other →
                other.actual ≠ none := by
              intro other present
              rw [found, Option.some.injEq] at present
              rw [← present]
              exact opened
            rw [post_settle_noop ledger index actual closed]
            exact balanced
  | wipe key => exact absurd trivial keeps
  | idle => exact balanced

end Balance

section Wipes

/-- The counter covers what was settled and what is reserved since the last wipe. -/
def Covered (ledger : Ledger Key Amount) (key : Key) : Prop :=
  ledger.counted key + ledger.pending key ≤ ledger.counter key

/-- A hold made before a wipe is settled only while nothing has been counted or
reserved since the wipe, or it had reserved nothing. -/
def StaleSettlesIdle (ledger : Ledger Key Amount) : Posting Key Amount → Prop
  | .settle index actual => ∀ hold, ledger.holds[index]? = some hold →
      hold.actual = none → hold.stale = true →
        hold.reserved.val = 0 ∨
          ledger.counted hold.key + ledger.pending hold.key + actual.val = 0
  | _ => True

/-- The invariant of runs with wipes: a key with an open stale hold is covered
with nothing to spare. -/
structure CoveredLedger (ledger : Ledger Key Amount) : Prop where
  remembered : ∀ hold ∈ ledger.holds, hold.actual = none → hold.forgotten = false
  covered : ∀ key, Covered ledger key
  tight : ∀ hold ∈ ledger.holds, hold.actual = none → hold.stale = true →
    ledger.counter hold.key = ledger.counted hold.key + ledger.pending hold.key

theorem settle_stale (ledger : Ledger Key Amount) (index : Nat)
    (hold : Hold Key Amount) (actual : NonNeg Amount)
    (found : ledger.holds[index]? = some hold) (opened : hold.actual = none)
    (remembered : hold.forgotten = false) (stale : hold.stale = true) :
    (post ledger (.settle index actual)).counter hold.key =
        max 0 (settledBalance (ledger.counter hold.key) hold.reserved actual) ∧
      (post ledger (.settle index actual)).counted hold.key +
          (post ledger (.settle index actual)).pending hold.key =
        ledger.counted hold.key + ledger.pending hold.key + actual.val := by
  constructor
  · exact counter_settle_same ledger index hold actual found opened
  · rw [counted_settle ledger hold.key index hold actual found opened remembered,
      pending_settle ledger hold.key index hold actual found opened]
    simp only [Hold.pendingAmount, stale, if_true, Bool.true_eq_false, false_and, and_false,
      if_false]
    abel

theorem settle_other (ledger : Ledger Key Amount) (index : Nat)
    (hold : Hold Key Amount) (actual : NonNeg Amount) (key : Key)
    (found : ledger.holds[index]? = some hold) (opened : hold.actual = none)
    (remembered : hold.forgotten = false) (apart : hold.key ≠ key) :
    (post ledger (.settle index actual)).counter key = ledger.counter key ∧
      (post ledger (.settle index actual)).counted key +
          (post ledger (.settle index actual)).pending key =
        ledger.counted key + ledger.pending key := by
  constructor
  · exact counter_settle_other ledger key index hold actual found opened apart
  · rw [counted_settle ledger key index hold actual found opened remembered,
      pending_settle ledger key index hold actual found opened]
    simp [Hold.pendingAmount, apart]

theorem wiped_open (hold : Hold Key Amount) (key : Key)
    (opened : (hold.wiped key).actual = none) :
    hold.actual = none ∧ (hold.wiped key).key = hold.key ∧
      (hold.wiped key).forgotten = hold.forgotten ∧
      ((hold.wiped key).stale = true → hold.key = key ∨ hold.stale = true) := by
  unfold Hold.wiped at opened ⊢
  by_cases same : hold.key = key
  · cases settled : hold.actual with
    | none => simp [same]
    | some amount => simp [same, settled] at opened
  · simp only [same, if_false] at opened ⊢
    exact ⟨opened, trivial, trivial, fun stale => Or.inr stale⟩

variable [IsOrderedAddMonoid Amount]

/-- What a settlement of an open hold does to the three figures of its key. -/
theorem settle_fresh (ledger : Ledger Key Amount) (index : Nat)
    (hold : Hold Key Amount) (actual : NonNeg Amount)
    (found : ledger.holds[index]? = some hold) (opened : hold.actual = none)
    (remembered : hold.forgotten = false) (fresh : hold.stale = false)
    (covered : Covered ledger hold.key) :
    (post ledger (.settle index actual)).counter hold.key =
        ledger.counter hold.key + (actual.val - hold.reserved.val) ∧
      (post ledger (.settle index actual)).counted hold.key +
          (post ledger (.settle index actual)).pending hold.key =
        ledger.counted hold.key + ledger.pending hold.key +
          (actual.val - hold.reserved.val) := by
  have part := reserved_le_pending ledger index hold found opened fresh
  have counted := counted_nonneg ledger hold.key
  have balance : 0 ≤ settledBalance (ledger.counter hold.key) hold.reserved actual := by
    have reserved : hold.reserved.val ≤ ledger.counter hold.key :=
      part.trans ((le_add_of_nonneg_left counted).trans covered)
    rw [settledBalance, ← add_sub_assoc, add_sub_right_comm]
    exact add_nonneg (sub_nonneg.mpr reserved) actual.property
  constructor
  · rw [counter_settle_same ledger index hold actual found opened, max_eq_right balance,
      settledBalance]
  · rw [counted_settle ledger hold.key index hold actual found opened remembered,
      pending_settle ledger hold.key index hold actual found opened]
    simp only [Hold.pendingAmount, opened, fresh, if_true, and_self]
    abel

/-- Settling a tight stale hold leaves its key covered only when the guard holds,
and then the key stays tight. -/
theorem settle_stale_tight (counter counted actual : Amount) (reserved : Amount)
    (tight : counter = counted) (nonneg : 0 ≤ counted) (paid : 0 ≤ actual)
    (held : 0 ≤ reserved) :
    (counted + actual ≤ max 0 (counter + (actual - reserved)) ↔
        reserved = 0 ∨ counted + actual = 0) ∧
      (reserved = 0 ∨ counted + actual = 0 →
        max 0 (counter + (actual - reserved)) = counted + actual) := by
  have exactly : reserved = 0 ∨ counted + actual = 0 →
      max 0 (counter + (actual - reserved)) = counted + actual := by
    intro idle
    rcases idle with nothing | zero
    · rw [nothing, sub_zero, tight]
      exact max_eq_right (add_nonneg nonneg paid)
    · rw [zero, tight, ← add_sub_assoc, zero, zero_sub]
      exact max_eq_left (neg_nonpos.mpr held)
  constructor
  · constructor
    · intro covered
      rw [tight] at covered
      rcases le_max_iff.mp covered with below | above
      · exact Or.inr (le_antisymm below (add_nonneg nonneg paid))
      · rw [← add_sub_assoc] at above
        have zero : reserved ≤ 0 := le_of_add_le_add_left (by
          calc
            counted + actual + reserved ≤ counted + actual - reserved + reserved :=
              by gcongr
            _ = counted + actual + 0 := by abel)
        exact Or.inl (le_antisymm zero held)
    · intro idle
      exact (exactly idle).ge
  · exact exactly

theorem covered_ledger_settle_kept (ledger : Ledger Key Amount)
    (inv : CoveredLedger ledger) (index : Nat) (actual : NonNeg Amount)
    (idle : StaleSettlesIdle ledger (.settle index actual)) :
    CoveredLedger (post ledger (.settle index actual)) := by
  cases found : ledger.holds[index]? with
  | none =>
      rw [post_settle_noop ledger index actual (by simp [found])]
      exact inv
  | some hold =>
      by_cases opened : hold.actual = none
      · have member := List.mem_of_getElem? found
        have remembered := inv.remembered hold member opened
        have survives : ∀ other ∈ (post ledger (.settle index actual)).holds,
            other.actual = none → other ∈ ledger.holds := by
          intro other present unsettled
          rw [post_settle ledger index hold actual found opened] at present
          rcases List.mem_or_eq_of_mem_set present with earlier | same
          · exact earlier
          · rw [same] at unsettled
            simp at unsettled
        have figures : ∀ key, Covered (post ledger (.settle index actual)) key ∧
            (ledger.counter key = ledger.counted key + ledger.pending key →
              (post ledger (.settle index actual)).counter key =
                (post ledger (.settle index actual)).counted key +
                  (post ledger (.settle index actual)).pending key) := by
          intro key
          by_cases same : hold.key = key
          · subst same
            cases stale : hold.stale with
            | false =>
                have settled := settle_fresh ledger index hold actual found opened
                  remembered stale (inv.covered hold.key)
                have before := inv.covered hold.key
                unfold Covered at before ⊢
                rw [settled.1, settled.2]
                exact ⟨by gcongr, by intro tight; rw [tight]⟩
            | true =>
                have settled := settle_stale ledger index hold actual found opened
                  remembered stale
                have tight := inv.tight hold member opened stale
                have exactly := (settle_stale_tight (ledger.counter hold.key)
                  (ledger.counted hold.key + ledger.pending hold.key) actual.val
                  hold.reserved.val tight
                  (add_nonneg (counted_nonneg ledger hold.key)
                    (pending_nonneg ledger hold.key))
                  actual.property hold.reserved.property).2
                  (idle hold found opened stale)
                unfold Covered
                rw [settled.1, settled.2, settledBalance, exactly]
                exact ⟨le_refl _, fun _ => rfl⟩
          · have settled := settle_other ledger index hold actual key found opened
              remembered same
            have before := inv.covered key
            unfold Covered at before ⊢
            rw [settled.1, settled.2]
            exact ⟨before, id⟩
        constructor
        · intro other present unsettled
          exact inv.remembered other (survives other present unsettled) unsettled
        · exact fun key => (figures key).1
        · intro other present unsettled stale
          exact (figures other.key).2
            (inv.tight other (survives other present unsettled) unsettled stale)
      · have closed : ∀ other, ledger.holds[index]? = some other → other.actual ≠ none := by
          intro other present
          rw [found, Option.some.injEq] at present
          rw [← present]
          exact opened
        rw [post_settle_noop ledger index actual closed]
        exact inv

theorem covered_ledger_kept (ledger : Ledger Key Amount) (posting : Posting Key Amount)
    (inv : CoveredLedger ledger) (idle : StaleSettlesIdle ledger posting) :
    CoveredLedger (post ledger posting) := by
  cases posting with
  | reserve key amount =>
      have figures : ∀ other, (post ledger (.reserve key amount)).counted other +
          (post ledger (.reserve key amount)).pending other =
            ledger.counted other + ledger.pending other +
              if key = other then amount.val else 0 := by
        intro other
        rw [counted_reserve, pending_reserve, add_assoc]
      have earlier : ∀ hold ∈ (post ledger (.reserve key amount)).holds,
          hold ∈ ledger.holds ∨ (hold.stale = false ∧ hold.forgotten = false) := by
        intro hold present
        simp only [post, List.mem_append, List.mem_singleton] at present
        rcases present with before | same
        · exact Or.inl before
        · exact Or.inr (by simp [same])
      constructor
      · intro hold present unsettled
        rcases earlier hold present with before | flags
        · exact inv.remembered hold before unsettled
        · exact flags.2
      · intro other
        have before := inv.covered other
        unfold Covered at before ⊢
        rw [figures, counter_reserve]
        gcongr
      · intro hold present unsettled stale
        rcases earlier hold present with before | flags
        · rw [figures, counter_reserve, inv.tight hold before unsettled stale]
        · rw [flags.1] at stale
          exact absurd stale (by decide)
  | settle index actual => exact covered_ledger_settle_kept ledger inv index actual idle
  | wipe key =>
      have source : ∀ hold ∈ (post ledger (.wipe key)).holds,
          ∃ old ∈ ledger.holds, old.wiped key = hold := by
        intro hold present
        exact List.mem_map.mp present
      have counter : ∀ other, (post ledger (.wipe key)).counter other =
          if other = key then 0 else ledger.counter other := by
        intro other
        by_cases same : other = key <;> simp [post, same]
      constructor
      · intro hold present unsettled
        rcases source hold present with ⟨old, before, same⟩
        rw [← same] at unsettled ⊢
        have facts := wiped_open old key unsettled
        rw [facts.2.2.1]
        exact inv.remembered old before facts.1
      · intro other
        have before := inv.covered other
        unfold Covered at before ⊢
        rw [counted_wipe, pending_wipe, counter]
        by_cases same : other = key
        · simp [same]
        · simp only [same, if_false]
          exact before
      · intro hold present unsettled stale
        rcases source hold present with ⟨old, before, same⟩
        rw [← same] at unsettled stale ⊢
        have facts := wiped_open old key unsettled
        rw [facts.2.1, counted_wipe, pending_wipe, counter]
        by_cases wiped : old.key = key
        · simp [wiped]
        · rw [if_neg wiped, if_neg wiped, if_neg wiped]
          exact inv.tight old before facts.1
            ((facts.2.2.2 stale).resolve_left wiped)
  | idle => exact inv

theorem stale_settles_idle_needed (ledger : Ledger Key Amount)
    (posting : Posting Key Amount) (inv : CoveredLedger ledger)
    (covered : ∀ key, Covered (post ledger posting) key) :
    StaleSettlesIdle ledger posting := by
  cases posting with
  | settle index actual =>
      intro hold found opened stale
      have member := List.mem_of_getElem? found
      have settled := settle_stale ledger index hold actual found opened
        (inv.remembered hold member opened) stale
      have after := covered hold.key
      unfold Covered at after
      rw [settled.1, settled.2, settledBalance] at after
      exact (settle_stale_tight (ledger.counter hold.key)
        (ledger.counted hold.key + ledger.pending hold.key) actual.val
        hold.reserved.val (inv.tight hold member opened stale)
        (add_nonneg (counted_nonneg ledger hold.key) (pending_nonneg ledger hold.key))
        actual.property hold.reserved.property).1.mp after
  | reserve key amount => trivial
  | wipe key => trivial
  | idle => trivial

end Wipes

end KiroProxy.Foundation.ReservationLedger
