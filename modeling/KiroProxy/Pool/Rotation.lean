import Mathlib.Tactic.Ring
import KiroProxy.Foundation.RoundRobin
import KiroProxy.Pool.AccountPool

/-!
# Shares of the rotation

While every account can serve, the rotation list with its cursor and the rule
against repeating the last account behave as a queue of accounts: each selection
takes the account at the head to the back, however many copies it has.
-/

namespace KiroProxy.Pool

open Accounts
open ApiKeys (CreditAmount)
open Foundation.RoundRobin

set_option autoImplicit false

section Scan

variable {Credit : Type} [CreditAmount Credit]

/-- The slots in the order the next selection looks at them. -/
def scanOrder (pool : AccountPool Credit) : List (Account Credit) :=
  pool.accounts.rotate pool.currentIndex

def AllServe (pool : AccountPool Credit) (request : Request) : Prop :=
  ∀ account ∈ pool.accounts, canServe pool account request = true

omit [CreditAmount Credit] in
theorem slot_of_offset (pool : AccountPool Credit) (offset : Nat)
    (inside : offset < pool.accounts.length) :
    pool.accounts[(pool.currentIndex + offset) % pool.accounts.length]? =
      (scanOrder pool)[offset]? := by
  unfold scanOrder
  rw [List.getElem?_rotate inside, Nat.add_comm]

theorem find_first (pool : AccountPool Credit) (request : Request)
    (serve : AllServe pool request) (skipped : List (Account Credit))
    (chosen : Account Credit) (rest : List (Account Credit))
    (last : ∀ account ∈ skipped, account.id = pool.lastSelected)
    (other : chosen.id ≠ pool.lastSelected)
    (passed : List (Account Credit))
    (order : scanOrder pool = passed ++ (skipped ++ chosen :: rest))
    (seen : List GoString) (onlyLast : ∀ id ∈ seen, id = pool.lastSelected) :
    findFrom pool request true seen
        (List.range' passed.length (pool.accounts.length - passed.length)) =
      some ((pool.currentIndex + (passed.length + skipped.length)) % pool.accounts.length,
        chosen) := by
  have size : pool.accounts.length = passed.length + (skipped.length + (rest.length + 1)) := by
    have lengths := congrArg List.length order
    simpa [scanOrder] using lengths
  induction skipped generalizing passed seen with
  | nil =>
      have left : pool.accounts.length - passed.length = rest.length + 1 := by
        simp only [List.length_nil] at size
        omega
      have slot : pool.accounts[(pool.currentIndex + passed.length) %
          pool.accounts.length]? = some chosen := by
        rw [slot_of_offset pool passed.length (by omega), order]
        simp
      have member : chosen ∈ pool.accounts := List.mem_of_getElem? slot
      have unseen : ¬chosen.id ∈ seen := fun found => other (onlyLast chosen.id found)
      rw [left, List.range'_succ, findFrom]
      simp only [slot, List.contains_iff_mem, unseen, if_false, serve chosen member]
      simp [other]
  | cons skip skipped ih =>
      have longer : (passed ++ [skip]).length = passed.length + 1 := by simp
      have left : pool.accounts.length - passed.length =
          (pool.accounts.length - (passed.length + 1)) + 1 := by omega
      have slot : pool.accounts[(pool.currentIndex + passed.length) %
          pool.accounts.length]? = some skip := by
        rw [slot_of_offset pool passed.length (by omega), order]
        simp
      have isLast : skip.id = pool.lastSelected := last skip List.mem_cons_self
      have sized : pool.accounts.length =
          passed.length + 1 + (skipped.length + (rest.length + 1)) := by
        rw [size, List.length_cons]
        omega
      have offset : passed.length + 1 + skipped.length =
          passed.length + (skip :: skipped).length := by
        rw [List.length_cons]
        omega
      have later := ih (fun account member => last account (List.mem_cons_of_mem _ member))
        (passed ++ [skip]) (by simp [order])
      rw [longer, offset] at later
      rw [left, List.range'_succ, findFrom]
      simp only [slot]
      by_cases found : seen.contains skip.id
      · rw [if_pos found]
        exact later seen onlyLast sized
      · rw [if_neg found, if_pos (by simp [isLast])]
        apply later (skip.id :: seen) _ sized
        intro id member
        cases List.mem_cons.mp member with
        | inl same => rw [same, isLast]
        | inr old => exact onlyLast id old

/-- The first account in scan order that is not the last one selected is selected;
everything up to it goes to the back of the scan. -/
theorem next_account (pool : AccountPool Credit) (request : Request)
    (serve : AllServe pool request) (skipped : List (Account Credit))
    (chosen : Account Credit) (rest : List (Account Credit))
    (last : ∀ account ∈ skipped, account.id = pool.lastSelected)
    (other : chosen.id ≠ pool.lastSelected)
    (order : scanOrder pool = skipped ++ chosen :: rest) :
    ∃ index, nextAccount pool request =
        (some chosen, { pool with currentIndex := index, lastSelected := chosen.id }) ∧
      pool.accounts.rotate index = rest ++ (skipped ++ [chosen]) := by
  have found := find_first pool request serve skipped chosen rest last other [] order []
    (by simp)
  simp only [List.length_nil, Nat.sub_zero, Nat.zero_add, ← List.range_eq_range'] at found
  have nonempty : pool.accounts.isEmpty = false := by
    rw [List.isEmpty_eq_false_iff]
    intro empty
    simp [scanOrder, empty] at order
  let slot := (pool.currentIndex + skipped.length) % pool.accounts.length
  refine ⟨(slot + 1) % pool.accounts.length, ?_, ?_⟩
  · unfold nextAccount findNextAvailable
    rw [nonempty, found]
    rfl
  · have split : pool.accounts.rotate pool.currentIndex = (skipped ++ [chosen]) ++ rest := by
      rw [List.append_assoc]
      exact order
    have size : skipped.length + 1 = (skipped ++ [chosen]).length := by simp
    rw [List.rotate_mod, ← List.rotate_rotate, List.rotate_mod, List.rotate_rotate,
      Nat.add_assoc, ← List.rotate_rotate, split, size, List.rotate_append_length_eq]

end Scan

section Turns

variable {Credit : Type}

/-- The scan starts among the copies of the current account and reaches those of
the waiting accounts next. -/
structure AtTurn (pool : AccountPool Credit) (waiting : List (Account Credit))
    (current : Account Credit) (copies : Nat) : Prop where
  within : copies ≤ effectiveWeight current.weight
  order : scanOrder pool = List.replicate copies current ++
    (weighted waiting ++ List.replicate (effectiveWeight current.weight - copies) current)

theorem weighted_cons (account : Account Credit) (accounts : List (Account Credit)) :
    weighted (account :: accounts) =
      List.replicate (effectiveWeight account.weight) account ++ weighted accounts := rfl

theorem weighted_append (left right : List (Account Credit)) :
    weighted (left ++ right) = weighted left ++ weighted right :=
  List.flatMap_append

theorem mem_weighted (account : Account Credit) (accounts : List (Account Credit)) :
    account ∈ weighted accounts ↔ account ∈ accounts := by
  have positive := effective_weight_pos
  simp only [weighted, List.mem_flatMap, List.mem_replicate]
  constructor
  · intro ⟨source, member, _, same⟩
    rw [same]
    exact member
  · intro member
    exact ⟨account, member, (positive account.weight).ne', rfl⟩

/-- Every slot is one of the copies of some account. -/
theorem slot_in_block (accounts : List (Account Credit)) (index : Nat)
    (inside : index < (weighted accounts).length) :
    ∃ left current right offset, accounts = left ++ current :: right ∧
      offset < effectiveWeight current.weight ∧
      index = (weighted left).length + offset := by
  induction accounts generalizing index with
  | nil => simp [weighted] at inside
  | cons account accounts ih =>
      by_cases first : index < effectiveWeight account.weight
      · exact ⟨[], account, accounts, index, rfl, first, by simp [weighted]⟩
      · have later : index - effectiveWeight account.weight < (weighted accounts).length := by
          rw [weighted_cons, List.length_append, List.length_replicate] at inside
          omega
        obtain ⟨left, current, right, offset, split, short, same⟩ :=
          ih (index - effectiveWeight account.weight) later
        refine ⟨account :: left, current, right, offset, by rw [split]; rfl, short, ?_⟩
        rw [weighted_cons, List.length_append, List.length_replicate]
        omega

theorem replicate_split (account : Account Credit) (total copies : Nat)
    (within : copies ≤ total) :
    List.replicate total account =
      List.replicate copies account ++ List.replicate (total - copies) account := by
  rw [List.replicate_append_replicate, Nat.add_sub_cancel' within]

/-- Wherever the cursor stands, the scan is at some account's turn. -/
theorem at_turn_of_weighted (pool : AccountPool Credit) (accounts : List (Account Credit))
    (rotation : pool.accounts = weighted accounts)
    (inside : pool.currentIndex < pool.accounts.length) :
    ∃ waiting current copies, (waiting ++ [current]).Perm accounts ∧ 0 < copies ∧
      AtTurn pool waiting current copies := by
  rw [rotation] at inside
  obtain ⟨left, current, right, offset, split, short, same⟩ :=
    slot_in_block accounts pool.currentIndex inside
  let weight := effectiveWeight current.weight
  have rotated : scanOrder pool = List.replicate (weight - offset) current ++
      (weighted (right ++ left) ++ List.replicate (weight - (weight - offset)) current) := by
    have slots : weighted accounts =
        (weighted left ++ List.replicate offset current) ++
          (List.replicate (weight - offset) current ++ weighted right) := by
      rw [split, weighted_append, weighted_cons,
        replicate_split current (effectiveWeight current.weight) offset (le_of_lt short)]
      simp only [List.append_assoc]
      rfl
    have cursor : pool.currentIndex =
        (weighted left ++ List.replicate offset current).length := by
      simp [same]
    have back : weight - (weight - offset) = offset := Nat.sub_sub_self (le_of_lt short)
    unfold scanOrder
    rw [rotation, slots, cursor, List.rotate_append_length_eq, weighted_append, back]
    simp only [List.append_assoc]
  refine ⟨right ++ left, current, weight - offset, ?_, ?_, ⟨Nat.sub_le weight offset, rotated⟩⟩
  · rw [split, List.append_assoc]
    exact List.perm_append_comm.trans (by simp)
  · omega

variable [CreditAmount Credit]

theorem turn_step (pool : AccountPool Credit) (request : Request)
    (serve : AllServe pool request) (next current : Account Credit)
    (waiting : List (Account Credit)) (copies : Nat)
    (turn : AtTurn pool (next :: waiting) current copies)
    (last : pool.lastSelected = current.id) (other : next.id ≠ current.id) :
    ∃ index copies, nextAccount pool request =
        (some next, { pool with currentIndex := index, lastSelected := next.id }) ∧
      AtTurn { pool with currentIndex := index, lastSelected := next.id }
        (waiting ++ [current]) next copies := by
  have positive := effective_weight_pos next.weight
  have opened : List.replicate (effectiveWeight next.weight) next =
      next :: List.replicate (effectiveWeight next.weight - 1) next := by
    rw [← List.replicate_succ, Nat.sub_add_cancel positive]
  have order : scanOrder pool = List.replicate copies current ++
      next :: (List.replicate (effectiveWeight next.weight - 1) next ++ (weighted waiting ++
        List.replicate (effectiveWeight current.weight - copies) current)) := by
    rw [turn.order, weighted_cons, opened]
    simp only [List.cons_append, List.append_assoc]
  have skipped : ∀ account ∈ List.replicate copies current,
      account.id = pool.lastSelected := by
    intro account member
    rw [last, List.eq_of_mem_replicate member]
  obtain ⟨index, selected, rotated⟩ := next_account pool request serve
    (List.replicate copies current) next _ skipped (by rw [last]; exact other) order
  refine ⟨index, effectiveWeight next.weight - 1, selected, ⟨Nat.sub_le _ 1, ?_⟩⟩
  have one : effectiveWeight next.weight - (effectiveWeight next.weight - 1) = 1 :=
    Nat.sub_sub_self positive
  have whole : List.replicate (effectiveWeight current.weight - copies) current ++
      List.replicate copies current = weighted [current] := by
    rw [weighted_cons, List.replicate_append_replicate,
      Nat.sub_add_cancel turn.within]
    simp [weighted]
  unfold scanOrder
  rw [rotated, one, weighted_append, ← whole]
  simp only [List.append_assoc]
  rfl

/-- From an account's turn on, the selections serve the waiting accounts round
robin. -/
theorem selections_turns (requests : List Request) (pool : AccountPool Credit)
    (serve : ∀ request ∈ requests, AllServe pool request)
    (waiting : List (Account Credit)) (current : Account Credit) (copies : Nat)
    (turn : AtTurn pool waiting current copies) (last : pool.lastSelected = current.id)
    (someone : waiting ≠ [])
    (distinct : ((waiting ++ [current]).map fun account => account.id).Nodup) :
    selections pool requests =
      (turns requests.length (waiting ++ [current])).map some := by
  induction requests generalizing pool waiting current copies with
  | nil => simp [selections]
  | cons request requests ih =>
      cases waiting with
      | nil => exact absurd rfl someone
      | cons next waiting =>
          have other : next.id ≠ current.id := by
            simp only [List.cons_append, List.map_cons, List.nodup_cons, List.map_append,
              List.mem_append, not_or, List.map_nil, List.mem_singleton] at distinct
            exact distinct.1.2
          obtain ⟨index, copies', selected, moved⟩ := turn_step pool request
            (serve request List.mem_cons_self) next current waiting copies turn last other
          have rotated : ((waiting ++ [current] ++ [next]).map fun account =>
              account.id).Nodup := by
            have perm : (next :: waiting ++ [current]).Perm (waiting ++ [current] ++ [next]) := by
              simpa using (List.perm_append_singleton next (waiting ++ [current])).symm
            exact (perm.map _).nodup_iff.mp distinct
          have rest := ih { pool with currentIndex := index, lastSelected := next.id }
            (fun later member => serve later (List.mem_cons_of_mem _ member))
            (waiting ++ [current]) next copies' moved rfl (by simp) rotated
          simp only [selections, selected, rest, List.length_cons, List.cons_append, turns,
            List.map_cons]

theorem first_turn (pool : AccountPool Credit) (request : Request)
    (serve : AllServe pool request) (waiting : List (Account Credit))
    (current : Account Credit) (copies : Nat)
    (turn : AtTurn pool waiting current (copies + 1))
    (fresh : current.id ≠ pool.lastSelected) :
    ∃ index, nextAccount pool request =
        (some current, { pool with currentIndex := index, lastSelected := current.id }) ∧
      AtTurn { pool with currentIndex := index, lastSelected := current.id }
        waiting current copies := by
  have order : scanOrder pool = [] ++ current :: (List.replicate copies current ++
      (weighted waiting ++
        List.replicate (effectiveWeight current.weight - (copies + 1)) current)) := by
    rw [turn.order, List.replicate_succ]
    rfl
  obtain ⟨index, selected, rotated⟩ := next_account pool request serve [] current _
    (by simp) fresh order
  refine ⟨index, selected, ⟨Nat.le_of_succ_le turn.within, ?_⟩⟩
  have more : effectiveWeight current.weight - copies =
      effectiveWeight current.weight - (copies + 1) + 1 := by
    have within := turn.within
    omega
  unfold scanOrder
  rw [rotated, more, List.replicate_succ']
  simp only [List.append_assoc, List.nil_append]

/-- The selections from a rotation of several accounts serve them round robin, from
wherever the cursor and the last selection stand. -/
theorem selections_round_robin (pool : AccountPool Credit) (requests : List Request)
    (serve : ∀ request ∈ requests, AllServe pool request)
    (accounts : List (Account Credit)) (rotation : pool.accounts = weighted accounts)
    (inside : pool.currentIndex < pool.accounts.length) (several : 2 ≤ accounts.length)
    (distinct : (accounts.map fun account => account.id).Nodup) :
    ∃ queue, queue.Perm accounts ∧
      selections pool requests = (turns requests.length queue).map some := by
  obtain ⟨waiting, current, copies, perm, positive, turn⟩ :=
    at_turn_of_weighted pool accounts rotation inside
  have someone : waiting ≠ [] := by
    intro empty
    have one := perm.length_eq
    rw [empty] at one
    simp only [List.nil_append, List.length_singleton] at one
    omega
  have apart : ((waiting ++ [current]).map fun account => account.id).Nodup :=
    (perm.map _).nodup_iff.mpr distinct
  by_cases last : pool.lastSelected = current.id
  · exact ⟨waiting ++ [current], perm,
      selections_turns requests pool serve waiting current copies turn last someone apart⟩
  · refine ⟨current :: waiting, ?_, ?_⟩
    · exact (List.perm_append_singleton current waiting).symm.trans perm
    · cases requests with
      | nil => simp [selections]
      | cons request requests =>
          obtain ⟨fewer, rfl⟩ := Nat.exists_eq_succ_of_ne_zero positive.ne'
          obtain ⟨index, selected, moved⟩ := first_turn pool request
            (serve request List.mem_cons_self) waiting current fewer turn (Ne.symm last)
          have rest := selections_turns requests
            { pool with currentIndex := index, lastSelected := current.id }
            (fun later member => serve later (List.mem_cons_of_mem _ member))
            waiting current fewer moved rfl someone apart
          simp only [selections, selected, rest, List.length_cons, turns, List.map_cons]

end Turns

section Shares

variable {Credit : Type}

def totalWeight (accounts : List (Account Credit)) : Nat :=
  (accounts.map fun account => effectiveWeight account.weight).sum

theorem total_of_equal_weights (accounts : List (Account Credit)) (weight : Nat)
    (equal : ∀ account ∈ accounts, effectiveWeight account.weight = weight) :
    totalWeight accounts = accounts.length * weight := by
  unfold totalWeight
  rw [List.map_congr_left equal, List.map_const', List.sum_replicate_nat]

/-- Selections over a whole number of rounds, so many that a share off the weight
shows. -/
theorem weight_of_fair_share (total weight size selected : Nat)
    (rounds : selected = (total + 1) * total)
    (upper : selected ≤ size * (total + 1) * weight + total)
    (lower : size * (total + 1) * weight ≤ selected + total) :
    size * weight = total := by
  have share : size * (total + 1) * weight = (total + 1) * (size * weight) := by ring
  rw [share, rounds] at upper lower
  by_contra different
  cases Nat.lt_or_gt_of_ne different with
  | inl less =>
      have gap : (total + 1) * (size * weight) + (total + 1) ≤ (total + 1) * total := by
        rw [← Nat.mul_succ]
        exact Nat.mul_le_mul_left _ less
      omega
  | inr more =>
      have gap : (total + 1) * total + (total + 1) ≤ (total + 1) * (size * weight) := by
        rw [← Nat.mul_succ]
        exact Nat.mul_le_mul_left _ more
      omega

variable [CreditAmount Credit]

/-- How often the account is returned by consecutive selections. -/
def timesSelected (pool : AccountPool Credit) (requests : List Request) (id : GoString) : Nat :=
  (selections pool requests).countP fun selected => selected.any (hasId id)

/-- The accounts `Reload` puts into rotation. -/
def rotationAccounts (enabled : List (Account Credit)) (allowOverUsage : Bool) :
    List (Account Credit) :=
  enabled.filter (inRotation allowOverUsage)

theorem reload_accounts (pool : AccountPool Credit) (enabled : List (Account Credit))
    (allowOverUsage : Bool) :
    (reload pool enabled allowOverUsage).accounts =
      weighted (rotationAccounts enabled allowOverUsage) := rfl

theorem reload_cursor_inside (pool : AccountPool Credit) (enabled : List (Account Credit))
    (allowOverUsage : Bool) (someone : rotationAccounts enabled allowOverUsage ≠ []) :
    (reload pool enabled allowOverUsage).currentIndex <
      (reload pool enabled allowOverUsage).accounts.length := by
  obtain ⟨account, member⟩ := List.exists_mem_of_ne_nil _ someone
  have slot := (mem_weighted account _).mpr member
  have positive : 0 < (weighted (rotationAccounts enabled allowOverUsage)).length :=
    List.length_pos_of_mem slot
  have nonempty : (weighted (rotationAccounts enabled allowOverUsage)).isEmpty = false := by
    rw [List.isEmpty_eq_false_iff]
    exact List.ne_nil_of_mem slot
  rw [reload_accounts]
  unfold rotationAccounts at positive nonempty ⊢
  simp only [reload, nonempty]
  simp only [Bool.false_eq_true, if_false]
  split
  · exact Nat.mod_lt _ positive
  · omega

/-- Over whole rounds every account is selected equally often, whatever its weight. -/
theorem times_selected_rounds (pool : AccountPool Credit) (enabled : List (Account Credit))
    (allowOverUsage : Bool) (requests : List Request)
    (several : 2 ≤ (rotationAccounts enabled allowOverUsage).length)
    (distinct : ((rotationAccounts enabled allowOverUsage).map fun account =>
      account.id).Nodup)
    (serve : ∀ request ∈ requests, AllServe (reload pool enabled allowOverUsage) request)
    (account : Account Credit) (member : account ∈ rotationAccounts enabled allowOverUsage)
    (rounds : Nat)
    (whole : requests.length = (rotationAccounts enabled allowOverUsage).length * rounds) :
    timesSelected (reload pool enabled allowOverUsage) requests account.id = rounds := by
  have someone := List.ne_nil_of_mem member
  obtain ⟨queue, perm, served⟩ := selections_round_robin
    (reload pool enabled allowOverUsage) requests serve
    (rotationAccounts enabled allowOverUsage) rfl
    (reload_cursor_inside pool enabled allowOverUsage someone) several distinct
  have ids : (queue.map fun queued => queued.id).Nodup := (perm.map _).nodup_iff.mpr distinct
  have queued : account.id ∈ queue.map fun queued => queued.id :=
    List.mem_map_of_mem (perm.mem_iff.mpr member)
  have counted := count_turns _ ids account.id queued rounds
  rw [List.length_map, ← turns_map, perm.length_eq, ← whole, List.count, List.countP_map]
    at counted
  unfold timesSelected
  rw [served, List.countP_map]
  exact counted

/-- The account's share of `k` times the total weight of selections is within the
total weight of `k` times its own. -/
def HonoursWeight (pool : AccountPool Credit) (requests : Nat → Request)
    (accounts : List (Account Credit)) (k : Nat) (account : Account Credit) : Prop :=
  let selected :=
    timesSelected pool ((List.range (k * totalWeight accounts)).map requests) account.id
  selected ≤ k * effectiveWeight account.weight + totalWeight accounts ∧
    k * effectiveWeight account.weight ≤ selected + totalWeight accounts

/-- With at least two accounts that can always serve, every account's share follows
its weight over every number of selections exactly when all weights are equal. -/
theorem weights_honoured_iff (pool : AccountPool Credit) (enabled : List (Account Credit))
    (allowOverUsage : Bool) (requests : Nat → Request)
    (several : 2 ≤ (rotationAccounts enabled allowOverUsage).length)
    (distinct : ((rotationAccounts enabled allowOverUsage).map fun account =>
      account.id).Nodup)
    (serve : ∀ turn, AllServe (reload pool enabled allowOverUsage) (requests turn)) :
    (∀ k, ∀ account ∈ rotationAccounts enabled allowOverUsage,
      HonoursWeight (reload pool enabled allowOverUsage) requests
        (rotationAccounts enabled allowOverUsage) k account) ↔
      ∀ account ∈ rotationAccounts enabled allowOverUsage,
        ∀ other ∈ rotationAccounts enabled allowOverUsage,
          effectiveWeight account.weight = effectiveWeight other.weight := by
  have serveAll (count : Nat) : ∀ request ∈ (List.range count).map requests,
      AllServe (reload pool enabled allowOverUsage) request := by
    intro request member
    obtain ⟨turn, _, rfl⟩ := List.mem_map.mp member
    exact serve turn
  let accounts := rotationAccounts enabled allowOverUsage
  have size : 0 < accounts.length := Nat.lt_of_lt_of_le Nat.zero_lt_two several
  constructor
  · intro honoured
    have share : ∀ account ∈ accounts,
        accounts.length * effectiveWeight account.weight = totalWeight accounts := by
      intro account member
      have fair := honoured (accounts.length * (totalWeight accounts + 1)) account member
      have rounds := times_selected_rounds pool enabled allowOverUsage
        ((List.range (accounts.length * (totalWeight accounts + 1) *
          totalWeight accounts)).map requests) several distinct (serveAll _) account member
        ((totalWeight accounts + 1) * totalWeight accounts)
        (by rw [List.length_map, List.length_range, Nat.mul_assoc])
      exact weight_of_fair_share _ _ _ _ rounds fair.1 fair.2
    intro account member other otherMember
    have same := (share account member).trans (share other otherMember).symm
    exact Nat.eq_of_mul_eq_mul_left size same
  · intro equal k account member
    have total : totalWeight accounts = accounts.length * effectiveWeight account.weight :=
      total_of_equal_weights accounts _ fun other otherMember =>
        equal other otherMember account member
    have rounds := times_selected_rounds pool enabled allowOverUsage
      ((List.range (k * totalWeight accounts)).map requests) several distinct (serveAll _)
      account member (k * effectiveWeight account.weight)
      (by
        rw [List.length_map, List.length_range, total]
        ring)
    unfold HonoursWeight
    rw [rounds]
    constructor
    · exact Nat.le_add_right _ _
    · exact Nat.le_add_right _ _

end Shares

section HeavyAccount

def weightedAccount (id : GoString) (weight : Int) : Account Int :=
  { newAccount id with weight := weight, enabled := true }

/-- Weights 2, 1 and 1. -/
def heavyAndTwo : List (Account Int) :=
  [weightedAccount (lit "heavy") 2, weightedAccount (lit "b") 1, weightedAccount (lit "c") 1]

def plainRequest : Request where
  toLower := fun text => text.map GoStrings.lowerByte
  model := lit "claude-sonnet-4.5"
  excluded := []
  now := (unixEpoch + 1767225600) * second
  allowOverUsage := false

theorem weights_honoured_heavy :
    (∀ k, ∀ account ∈ rotationAccounts heavyAndTwo false,
      HonoursWeight (reload newPool heavyAndTwo false) (fun _ => plainRequest)
        (rotationAccounts heavyAndTwo false) k account) ↔
      ∀ account ∈ rotationAccounts heavyAndTwo false,
        ∀ other ∈ rotationAccounts heavyAndTwo false,
          effectiveWeight account.weight = effectiveWeight other.weight :=
  weights_honoured_iff newPool heavyAndTwo false (fun _ => plainRequest) (by decide)
    (by decide) (fun _ => by unfold AllServe; decide)

/-- In sixty selections the account of weight 2 is returned twenty times, not about
thirty. -/
theorem heavy_account_underserved :
    ¬∀ (pool : AccountPool Int) (enabled : List (Account Int)) (allowOverUsage : Bool)
      (requests : Nat → Request),
      3 ≤ (rotationAccounts enabled allowOverUsage).length →
      ((rotationAccounts enabled allowOverUsage).map fun account => account.id).Nodup →
      (∀ account ∈ rotationAccounts enabled allowOverUsage,
        2 * effectiveWeight account.weight ≤
          totalWeight (rotationAccounts enabled allowOverUsage)) →
      (∀ turn, AllServe (reload pool enabled allowOverUsage) (requests turn)) →
      ∀ k, ∀ account ∈ rotationAccounts enabled allowOverUsage,
        HonoursWeight (reload pool enabled allowOverUsage) requests
          (rotationAccounts enabled allowOverUsage) k account := by
  intro always
  have serve : AllServe (reload newPool heavyAndTwo false) plainRequest := by
    unfold AllServe
    decide
  have fair := always newPool heavyAndTwo false (fun _ => plainRequest) (by decide)
    (by decide) (by decide) (fun _ => serve) 15 (weightedAccount (lit "heavy") 2)
    List.mem_cons_self
  have selected := times_selected_rounds newPool heavyAndTwo false
    ((List.range (15 * totalWeight (rotationAccounts heavyAndTwo false))).map
      fun _ => plainRequest)
    (by decide) (by decide) (by simp [serve]) (weightedAccount (lit "heavy") 2)
    List.mem_cons_self 20 (by decide)
  unfold HonoursWeight at fair
  rw [selected] at fair
  revert fair
  decide

end HeavyAccount

end KiroProxy.Pool
