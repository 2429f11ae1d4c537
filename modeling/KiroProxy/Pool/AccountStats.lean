import KiroProxy.Config.AccountUpdates
import KiroProxy.Pool.AccountPool

/-!
# Account statistics

`RecordOutcome` and `AddUsage` of `pool/account.go`. They count on the account's copies in
the rotation, or on its stored row when it is out of rotation, under the pool's lock, and
save the absolute numbers.
-/

namespace KiroProxy.Pool

open Accounts
open ApiKeys (CreditAmount)
open GoStrings

set_option autoImplicit false

section Usage

variable {Credit : Type} [CreditAmount Credit]

/-- What `RecordOutcome` and `AddUsage` are given: a finished request, or a part of one that is
counted elsewhere. -/
inductive Usage (Credit : Type) where
  | outcome (success : Bool) (tokens : Int) (credits : Credit)
  | part (tokens : Int) (credits : Credit)

def addUsage (account : Account Credit) (tokens : Int) (credits : Credit) (now : Int) :
    Account Credit :=
  { account with
    totalTokens := account.totalTokens + max tokens 0
    totalCredits := account.totalCredits + (if 0 < credits then credits else 0)
    lastUsed := now }

def Usage.apply (usage : Usage Credit) (now : Int) (account : Account Credit) : Account Credit :=
  match usage with
  | .outcome success tokens credits =>
      addUsage { account with
        requestCount := account.requestCount + 1
        errorCount := if success then account.errorCount else account.errorCount + 1 }
        tokens credits now
  | .part tokens credits => addUsage account tokens credits now

/-- `AddUsage` with nothing spent returns at once. -/
def Usage.isEmpty : Usage Credit → Bool
  | .outcome _ _ _ => false
  | .part tokens credits => decide (tokens ≤ 0) && decide (credits ≤ 0)

/-- What a usage adds to the sums. -/
def Usage.amount : Usage Credit → Counters
  | .outcome success tokens _ => ⟨1, if success then 0 else 1, max tokens 0⟩
  | .part tokens _ => ⟨0, 0, max tokens 0⟩

theorem apply_counters (usage : Usage Credit) (now : Int) (account : Account Credit) :
    counters (usage.apply now account) = (counters account).add usage.amount ∧
      (usage.apply now account).id = account.id := by
  cases usage with
  | outcome success tokens credits =>
      cases success <;> simp [Usage.apply, addUsage, counters, Counters.add, Usage.amount]
  | part tokens credits =>
      simp [Usage.apply, addUsage, counters, Counters.add, Usage.amount]

end Usage

section Copies

variable {Credit : Type}

/-- The loop of `updateStats` over the rotation, with the numbers of the first copy met. -/
def updateCopies (id : GoString) (apply : Account Credit → Account Credit) :
    Option (AccountStats Credit) → List (Account Credit) →
      List (Account Credit) × Option (AccountStats Credit)
  | stats, [] => ([], stats)
  | stats, account :: accounts =>
      if account.id ≠ id then
        let rest := updateCopies id apply stats accounts
        (account :: rest.1, rest.2)
      else
        match stats with
        | none =>
            let counted := apply account
            let rest := updateCopies id apply (some (statsOf counted)) accounts
            (counted :: rest.1, rest.2)
        | some numbers =>
            let rest := updateCopies id apply stats accounts
            (withStats account numbers :: rest.1, rest.2)

theorem copies_numbers (id : GoString) (apply : Account Credit → Account Credit)
    (numbers : AccountStats Credit) (accounts : List (Account Credit)) :
    (updateCopies id apply (some numbers) accounts).2 = some numbers := by
  induction accounts with
  | nil => rfl
  | cons account accounts ih =>
      rw [updateCopies]
      split_ifs
      · exact ih
      · exact ih

theorem copies_past (id : GoString) (apply : Account Credit → Account Credit)
    (stats : Option (AccountStats Credit)) (account : Account Credit)
    (accounts : List (Account Credit)) (other : account.id ≠ id) :
    updateCopies id apply stats (account :: accounts) =
      (account :: (updateCopies id apply stats accounts).1,
        (updateCopies id apply stats accounts).2) := by
  cases stats with
  | none => rw [updateCopies, if_pos other]
  | some numbers => rw [updateCopies, if_pos other]

/-- Every copy of the account carries the same numbers after the loop, and no other copy
changes. -/
theorem updated_copies (id : GoString) (apply : Account Credit → Account Credit)
    (same : ∀ account, (apply account).id = account.id) (stats : Option (AccountStats Credit))
    (accounts : List (Account Credit)) :
    ∀ copy ∈ (updateCopies id apply stats accounts).1,
      (copy ∈ accounts ∧ copy.id ≠ id) ∨
        (copy.id = id ∧ (updateCopies id apply stats accounts).2 = some (statsOf copy)) := by
  induction accounts generalizing stats with
  | nil => simp [updateCopies]
  | cons account accounts ih =>
      intro copy member
      by_cases other : account.id ≠ id
      · rw [copies_past id apply stats account accounts other] at member ⊢
        cases List.mem_cons.mp member with
        | inl here =>
            rw [here]
            exact Or.inl ⟨List.mem_cons_self, other⟩
        | inr later =>
            exact (ih stats copy later).imp_left (And.imp_left (List.mem_cons_of_mem account))
      · rw [ne_eq, not_not] at other
        cases stats with
        | none =>
            rw [updateCopies, if_neg (not_not.mpr other)] at member ⊢
            cases List.mem_cons.mp member with
            | inl here =>
                rw [here]
                exact Or.inr ⟨(same account).trans other, copies_numbers id apply _ accounts⟩
            | inr later =>
                exact (ih _ copy later).imp_left (And.imp_left (List.mem_cons_of_mem account))
        | some numbers =>
            rw [updateCopies, if_neg (not_not.mpr other)] at member ⊢
            cases List.mem_cons.mp member with
            | inl here =>
                rw [here]
                exact Or.inr ⟨other, copies_numbers id apply numbers accounts⟩
            | inr later =>
                exact (ih _ copy later).imp_left (And.imp_left (List.mem_cons_of_mem account))

/-- The numbers the loop saves are those of a copy it found, counted once. -/
theorem copies_counted (id : GoString) (apply : Account Credit → Account Credit)
    (accounts : List (Account Credit)) :
    (updateCopies id apply none accounts).2 =
      (accounts.find? (hasId id)).map fun account => statsOf (apply account) := by
  induction accounts with
  | nil => rfl
  | cons account accounts ih =>
      rw [updateCopies, List.find?_cons]
      split_ifs with other
      · have apart : hasId id account = false := beq_eq_false_iff_ne.mpr other
        rw [apart]
        exact ih
      · rw [ne_eq, not_not] at other
        have here : hasId id account = true := beq_iff_eq.mpr other
        rw [here]
        exact copies_numbers id apply _ accounts

end Copies

end KiroProxy.Pool
