import KiroProxy.Config.AccountUpdates
import KiroProxy.Proxy.AccountFailures

/-!
# Account operations

The operations that read an account, change the copy and write all of it back through
`UpdateAccount`: those of `config/config.go`, of `proxy/account_failover.go` and
`proxy/kiro_api.go`, and the admin ones of `proxy/handler.go`.
-/

namespace KiroProxy.AccountWrites

open AccountFailures Accounts GoStrings

set_option autoImplicit false

section Operations

variable {Credit : Type}

/-- What `apiUpdateAccount` reads of a request; a field of another type counts as missing. -/
structure AccountPatch where
  enabled : Option Bool
  nickname : Option GoString
  machineId : Option GoString
  weight : Option Int
  proxyURL : Option GoString
  silent : Option Bool
  silentReason : Option GoString

def patchEnabled (account : Account Credit) (enabled : Bool) : Account Credit :=
  if enabled && !servingStatus account.banStatus then
    { account with
      enabled := enabled
      banStatus := active
      banReason := []
      banTime := 0
      silent := false
      silentReason := []
      silentTime := 0 }
  else { account with enabled := enabled }

def patchSilent (account : Account Credit) (silent : Bool) (silentReason : Option GoString)
    (now : Int) : Account Credit :=
  if silent then
    let reason := trimSpace (silentReason.getD [])
    { account with
      silent := silent
      enabled := false
      silentReason :=
        if reason ≠ [] then reason
        else if account.silentReason = [] then lit "manual" else account.silentReason
      silentTime := if account.silentTime = 0 then now else account.silentTime }
  else { account with silent := silent, silentReason := [], silentTime := 0 }

def patchFields (account : Account Credit) (patch : AccountPatch) : Account Credit :=
  { account with
    nickname := patch.nickname.getD account.nickname
    machineId := patch.machineId.getD account.machineId
    weight := patch.weight.getD account.weight
    proxyURL := patch.proxyURL.getD account.proxyURL }

/-- The copy `apiUpdateAccount` writes back. -/
def patchAccount (account : Account Credit) (patch : AccountPatch) (now : Int) :
    Account Credit :=
  let switched := match patch.enabled with
    | some enabled => patchEnabled account enabled
    | none => account
  let patched := patchFields switched patch
  match patch.silent with
  | some silent => patchSilent patched silent patch.silentReason now
  | none => patched

def clearBan (account : Account Credit) : Account Credit :=
  if !servingStatus account.banStatus then
    { account with banStatus := active, banReason := [], banTime := 0 }
  else account

/-- The copy `batchSetEnabled` writes back. -/
def batchEnabled (account : Account Credit) (enabled : Bool) : Account Credit :=
  if enabled then
    { clearBan account with
      enabled := enabled
      silent := false
      silentReason := []
      silentTime := 0 }
  else { account with enabled := enabled }

inductive Operation (Credit : Type) where
  | setAccountEnabled (enabled : Bool)
  | setAccountBanStatus (status reason : GoString)
  | updateAccountInfo (info : AccountInfo Credit)
  | disableAccount (banStatus banReason : GoString)
  | refreshAccountInfo (markFailure : Bool) (usage : Except UsageFailure Unit)
  | apiUpdateAccount (patch : AccountPatch)
  | batchSetEnabled (enabled : Bool)

/-- What the operation makes of its copy, if it writes one back. -/
def Operation.edit (operation : Operation Credit) (now : Int) (copy : Account Credit) :
    Option (Account Credit) :=
  match operation with
  | .setAccountEnabled enabled => some (withAccountEnabled copy enabled now)
  | .setAccountBanStatus status reason => some (withAccountBanStatus copy status reason now)
  | .updateAccountInfo info =>
      if info.email ≠ [] ∨ info.userId ≠ [] then some (withIdentity copy info) else none
  | .disableAccount banStatus banReason =>
      AccountFailures.disableAccount copy banStatus banReason now
  | .refreshAccountInfo markFailure usage =>
      (AccountFailures.refreshAccountInfo copy markFailure now usage).1
  | .apiUpdateAccount patch => some (patchAccount copy patch now)
  | .batchSetEnabled enabled => some (batchEnabled copy enabled)

/-- The operations that change the row in place when no credential store is loaded. -/
def Operation.inPlace (operation : Operation Credit) (now : Int) (row : Account Credit) :
    Option (Account Credit) :=
  match operation with
  | .setAccountEnabled enabled => some (withAccountEnabled row enabled now)
  | .setAccountBanStatus status reason => some (withAccountBanStatus row status reason now)
  | .updateAccountInfo info => some (withUsage (withIdentity row info) info)
  | _ => none

/-- The operation is a disable: what it writes is switched off. -/
def Operation.disables : Operation Credit → Bool
  | .setAccountEnabled enabled => !enabled
  | .setAccountBanStatus status _ => status = banned || status = disabled
  | .updateAccountInfo _ => false
  | .disableAccount _ _ => true
  | .refreshAccountInfo _ (.error _) => true
  | .refreshAccountInfo _ (.ok _) => false
  | .apiUpdateAccount patch => patch.silent = some true || patch.enabled = some false
  | .batchSetEnabled enabled => !enabled

/-- The operation is a ban: the status it writes keeps the account from serving. -/
def Operation.bars : Operation Credit → Bool
  | .setAccountEnabled enabled => !enabled
  | .setAccountBanStatus status _ => !servingStatus status
  | .updateAccountInfo _ => false
  | .disableAccount banStatus _ => !servingStatus banStatus
  | .refreshAccountInfo _ (.error _) => true
  | .refreshAccountInfo _ (.ok _) => false
  | .apiUpdateAccount _ => false
  | .batchSetEnabled _ => false

/-- The copy is the same account with the same counters. -/
def SameCounters (written copy : Account Credit) : Prop :=
  counters written = counters copy ∧ written.id = copy.id

theorem account_enabled_counters (account : Account Credit) (enabled : Bool) (now : Int) :
    SameCounters (withAccountEnabled account enabled now) account := by
  unfold withAccountEnabled
  split_ifs <;> exact ⟨rfl, rfl⟩

theorem ban_status_counters (account : Account Credit) (status reason : GoString) (now : Int) :
    SameCounters (withAccountBanStatus account status reason now) account := by
  unfold withAccountBanStatus
  split_ifs <;> exact ⟨rfl, rfl⟩

theorem patch_enabled_counters (account : Account Credit) (enabled : Bool) :
    SameCounters (patchEnabled account enabled) account := by
  unfold patchEnabled
  split_ifs <;> exact ⟨rfl, rfl⟩

theorem patch_silent_counters (account : Account Credit) (silent : Bool)
    (silentReason : Option GoString) (now : Int) :
    SameCounters (patchSilent account silent silentReason now) account := by
  unfold patchSilent
  cases silent <;> exact ⟨rfl, rfl⟩

theorem patched_counters (account : Account Credit) (patch : AccountPatch) (now : Int) :
    SameCounters (patchAccount account patch now) account := by
  have fields : ∀ switched : Account Credit, SameCounters switched account →
      SameCounters (patchFields switched patch) account := fun _ same => same
  have silenced : ∀ patched : Account Credit, SameCounters patched account → ∀ silent,
      SameCounters (patchSilent patched silent patch.silentReason now) account := by
    intro patched same silent
    have silencing := patch_silent_counters patched silent patch.silentReason now
    exact ⟨silencing.1.trans same.1, silencing.2.trans same.2⟩
  unfold patchAccount
  cases patch.enabled with
  | none =>
      cases patch.silent with
      | none => exact fields account ⟨rfl, rfl⟩
      | some silent => exact silenced _ (fields account ⟨rfl, rfl⟩) silent
  | some enabled =>
      have switched := fields _ (patch_enabled_counters account enabled)
      cases patch.silent with
      | none => exact switched
      | some silent => exact silenced _ switched silent

theorem batch_enabled_counters (account : Account Credit) (enabled : Bool) :
    SameCounters (batchEnabled account enabled) account := by
  have cleared : SameCounters (clearBan account) account := by
    unfold clearBan
    split_ifs <;> exact ⟨rfl, rfl⟩
  unfold batchEnabled
  split_ifs
  · exact cleared
  · exact ⟨rfl, rfl⟩

theorem disable_edits (account written : Account Credit) (banStatus banReason : GoString)
    (now : Int)
    (edited : AccountFailures.disableAccount account banStatus banReason now = some written) :
    written = disabledCopy account banStatus banReason now := by
  unfold AccountFailures.disableAccount at edited
  split_ifs at edited
  exact (Option.some.inj edited).symm

/-- What a refresh writes back: a ban after a failure, and a cleared ban otherwise. -/
theorem refresh_edits (account written : Account Credit) (markFailure : Bool) (now : Int)
    (usage : Except UsageFailure Unit)
    (edited : (AccountFailures.refreshAccountInfo account markFailure now usage).1 =
      some written) :
    (∃ failure reason, usage = .error failure ∧
        written = disabledCopy account banned reason now) ∨
      (usage = .ok () ∧
        written = { account with banStatus := active, banReason := [], banTime := 0 }) := by
  unfold AccountFailures.refreshAccountInfo at edited
  cases usage with
  | error failure =>
      simp only at edited
      split_ifs at edited
      · exact Or.inl ⟨failure, suspendedReason, rfl, (Option.some.inj edited).symm⟩
      · exact Or.inl ⟨failure, authenticationReason, rfl, (Option.some.inj edited).symm⟩
  | ok info =>
      simp only at edited
      split_ifs at edited
      exact Or.inr ⟨rfl, (Option.some.inj edited).symm⟩

/-- No operation changes the counters or the ID of its copy. -/
theorem edit_counters (operation : Operation Credit) (now : Int) (copy written : Account Credit)
    (edited : operation.edit now copy = some written) : SameCounters written copy := by
  cases operation with
  | setAccountEnabled enabled =>
      rw [← Option.some.inj edited]
      exact account_enabled_counters copy enabled now
  | setAccountBanStatus status reason =>
      rw [← Option.some.inj edited]
      exact ban_status_counters copy status reason now
  | updateAccountInfo info =>
      rw [Operation.edit] at edited
      split_ifs at edited
      rw [← Option.some.inj edited]
      exact ⟨rfl, rfl⟩
  | disableAccount banStatus banReason =>
      rw [disable_edits copy written banStatus banReason now edited]
      exact ⟨rfl, rfl⟩
  | refreshAccountInfo markFailure usage =>
      cases refresh_edits copy written markFailure now usage edited with
      | inl ban =>
          obtain ⟨failure, reason, _, same⟩ := ban
          rw [same]
          exact ⟨rfl, rfl⟩
      | inr unban =>
          rw [unban.2]
          exact ⟨rfl, rfl⟩
  | apiUpdateAccount patch =>
      rw [← Option.some.inj edited]
      exact patched_counters copy patch now
  | batchSetEnabled enabled =>
      rw [← Option.some.inj edited]
      exact batch_enabled_counters copy enabled

theorem in_place_counters (operation : Operation Credit) (now : Int) (row written : Account Credit)
    (edited : operation.inPlace now row = some written) : SameCounters written row := by
  cases operation with
  | setAccountEnabled enabled =>
      rw [← Option.some.inj edited]
      exact account_enabled_counters row enabled now
  | setAccountBanStatus status reason =>
      rw [← Option.some.inj edited]
      exact ban_status_counters row status reason now
  | updateAccountInfo info =>
      rw [← Option.some.inj edited]
      exact ⟨rfl, rfl⟩
  | disableAccount banStatus banReason => simp [Operation.inPlace] at edited
  | refreshAccountInfo markFailure usage => simp [Operation.inPlace] at edited
  | apiUpdateAccount patch => simp [Operation.inPlace] at edited
  | batchSetEnabled enabled => simp [Operation.inPlace] at edited

/-- The row is switched off by a disable, and not served under the status of a ban. -/
def Leaves (operation : Operation Credit) (written : Account Credit) : Prop :=
  (operation.disables = true → written.enabled = false) ∧
    (operation.bars = true → servingStatus written.banStatus = false)

theorem account_enabled_leaves (account : Account Credit) (enabled : Bool) (now : Int) :
    Leaves (.setAccountEnabled enabled) (withAccountEnabled account enabled now) := by
  cases enabled with
  | true => exact ⟨by simp [Operation.disables], by simp [Operation.bars]⟩
  | false => exact ⟨fun _ => rfl, fun _ => (by decide : servingStatus disabled = false)⟩

theorem ban_status_leaves (account : Account Credit) (status reason : GoString) (now : Int) :
    Leaves (.setAccountBanStatus status reason)
      (withAccountBanStatus account status reason now) := by
  unfold Leaves Operation.disables Operation.bars withAccountBanStatus
  simp only [Bool.or_eq_true, decide_eq_true_eq, Bool.not_eq_true']
  split_ifs with off
  · exact ⟨fun _ => rfl, id⟩
  · exact ⟨fun on => absurd on off, id⟩

theorem patched_leaves (account : Account Credit) (patch : AccountPatch) (now : Int) :
    Leaves (.apiUpdateAccount patch) (patchAccount account patch now) := by
  constructor
  · intro off
    simp only [Operation.disables, Bool.or_eq_true, decide_eq_true_eq] at off
    have switched : patch.enabled = some false → ∀ account : Account Credit,
        (patchFields (patchEnabled account false) patch).enabled = false := fun _ _ => rfl
    unfold patchAccount
    cases silenced : patch.silent with
    | none =>
        rw [silenced] at off
        cases off with
        | inl silent => simp at silent
        | inr enabled =>
            rw [enabled]
            exact switched enabled account
    | some silent =>
        cases silent with
        | true => rfl
        | false =>
            rw [silenced] at off
            cases off with
            | inl silent => simp at silent
            | inr enabled =>
                rw [enabled]
                exact switched enabled account
  · intro bars
    simp [Operation.bars] at bars

/-- A disable and a ban leave what they are for. -/
theorem edit_leaves (operation : Operation Credit) (now : Int) (copy written : Account Credit)
    (edited : operation.edit now copy = some written) : Leaves operation written := by
  cases operation with
  | setAccountEnabled enabled =>
      rw [← Option.some.inj edited]
      exact account_enabled_leaves copy enabled now
  | setAccountBanStatus status reason =>
      rw [← Option.some.inj edited]
      exact ban_status_leaves copy status reason now
  | updateAccountInfo info =>
      exact ⟨by simp [Operation.disables], by simp [Operation.bars]⟩
  | disableAccount banStatus banReason =>
      rw [disable_edits copy written banStatus banReason now edited]
      exact ⟨fun _ => rfl, fun bars => by simpa [Operation.bars, disabledCopy] using bars⟩
  | refreshAccountInfo markFailure usage =>
      cases refresh_edits copy written markFailure now usage edited with
      | inl ban =>
          obtain ⟨failure, reason, _, same⟩ := ban
          rw [same]
          exact ⟨fun _ => rfl, fun _ => (by decide : servingStatus banned = false)⟩
      | inr unban =>
          rw [unban.1]
          exact ⟨by simp [Operation.disables], by simp [Operation.bars]⟩
  | apiUpdateAccount patch =>
      rw [← Option.some.inj edited]
      exact patched_leaves copy patch now
  | batchSetEnabled enabled =>
      rw [← Option.some.inj edited]
      refine ⟨?_, by simp [Operation.bars]⟩
      intro off
      cases enabled with
      | true => simp [Operation.disables] at off
      | false => rfl

theorem in_place_leaves (operation : Operation Credit) (now : Int) (row written : Account Credit)
    (edited : operation.inPlace now row = some written) : Leaves operation written := by
  cases operation with
  | setAccountEnabled enabled =>
      rw [← Option.some.inj edited]
      exact account_enabled_leaves row enabled now
  | setAccountBanStatus status reason =>
      rw [← Option.some.inj edited]
      exact ban_status_leaves row status reason now
  | updateAccountInfo info =>
      exact ⟨by simp [Operation.disables], by simp [Operation.bars]⟩
  | disableAccount banStatus banReason => simp [Operation.inPlace] at edited
  | refreshAccountInfo markFailure usage => simp [Operation.inPlace] at edited
  | apiUpdateAccount patch => simp [Operation.inPlace] at edited
  | batchSetEnabled enabled => simp [Operation.inPlace] at edited

end Operations

end KiroProxy.AccountWrites
