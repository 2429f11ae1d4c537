import KiroProxy.Config.Accounts
import KiroProxy.Config.ModelMappings

/-!
# Account failures

What a failed upstream call does to the account it was made for: `refreshAccountInfo` of
`proxy/kiro_api.go` and `handleAccountFailure` of `proxy/account_failover.go`. Both read
the failure off the text of an error, into which the answers of the upstream are formatted.
-/

namespace KiroProxy.AccountFailures

open Accounts Foundation.Searching GoStrings
open ModelMappings (decimal)

set_option autoImplicit false

section Messages

def isASCIIAlphaNumeric (byte : UInt8) : Bool :=
  (0x30 ≤ byte && byte ≤ 0x39) || (0x61 ≤ byte && byte ≤ 0x7A) || (0x41 ≤ byte && byte ≤ 0x5A)

/-- The loop of `hasStandaloneNumber` from an offset. -/
def standaloneFrom (text number : GoString) : Nat → Nat → Bool
  | 0, _ => false
  | fuel + 1, offset =>
      match indexOf number (text.drop offset) with
      | none => false
      | some index =>
          let start := offset + index
          let stop := start + number.length
          if (start = 0 || !isASCIIAlphaNumeric (text.getD (start - 1) 0)) &&
              (stop = text.length || !isASCIIAlphaNumeric (text.getD stop 0)) then true
          else standaloneFrom text number fuel stop

def hasStandaloneNumber (text number : GoString) : Bool :=
  standaloneFrom text number (text.length + 1) 0

variable (letters : Letters)

def containsAnyOf (text : GoString) (markers : List GoString) : Bool :=
  markers.any (contains text)

def usageQuotaMarkers : List GoString :=
  [lit "monthly", lit "usage limit", lit "quota exhausted", lit "quota exceeded",
    lit "quota reached", lit "insufficient_quota", lit "exceeded your current quota"]

def isUsageQuotaExhaustedMessage (message : GoString) : Bool :=
  containsAnyOf (letters.toLower message) usageQuotaMarkers

def isQuotaErrorMessage (message : GoString) : Bool :=
  hasStandaloneNumber message (lit "429") ||
    contains (letters.toLower message) (lit "quota") ||
    isUsageQuotaExhaustedMessage letters message

def isOverageErrorMessage (message : GoString) : Bool :=
  contains (letters.toLower message) (lit "402") &&
    contains (letters.toLower message) (lit "overage")

def suspensionMarkers : List GoString :=
  [lit "temporarily_suspended", lit "temporarily is suspended", lit "account suspended"]

def isSuspensionErrorMessage (message : GoString) : Bool :=
  containsAnyOf (letters.toLower message) suspensionMarkers

def isProfileUnavailableErrorMessage (message : GoString) : Bool :=
  contains (letters.toLower message) (lit "no available kiro profile")

def authMarkers : List GoString :=
  [lit "http 401", lit "http 403", lit "unauthorized", lit "forbidden",
    lit "authentication failed", lit "token invalid", lit "token expired", lit "invalid_grant",
    lit "access token expired", lit "refresh token expired"]

def isAuthErrorMessage (message : GoString) : Bool :=
  containsAnyOf (letters.toLower message) authMarkers

def isTerminalAccountErrorMessage (message : GoString) : Bool :=
  isQuotaErrorMessage letters message || isOverageErrorMessage letters message ||
    isSuspensionErrorMessage letters message ||
    isProfileUnavailableErrorMessage letters message || isAuthErrorMessage letters message

/-- A search that starts behind the text's end is over: the loop never runs out of fuel. -/
theorem standalone_fuel (text number : GoString) (nonempty : number ≠ []) (fuel offset : Nat)
    (enough : text.length < fuel + offset) :
    standaloneFrom text number (fuel + 1) offset = standaloneFrom text number fuel offset := by
  induction fuel generalizing offset with
  | zero =>
      have past : text.drop offset = [] := List.drop_eq_nil_of_le (by omega)
      rw [standaloneFrom, standaloneFrom, past, indexOf, if_neg nonempty]
  | succ fuel ih =>
      rw [standaloneFrom]
      conv => rhs; rw [standaloneFrom]
      cases indexOf number (text.drop offset) with
      | none => rfl
      | some index =>
          have positive := List.length_pos_iff.mpr nonempty
          simp only
          rw [ih (offset + index + number.length) (by omega)]

end Messages

section Failures

variable {Credit : Type}

def suspendedReason : GoString :=
  lit "AWS temporarily suspended - unusual user activity detected"

def authenticationReason : GoString := lit "Authentication failed - token invalid or expired"

/-- The copy of an account that a ban writes back; `now` is in Unix seconds. -/
def disabledCopy (account : Account Credit) (banStatus banReason : GoString) (now : Int) :
    Account Credit :=
  { account with
    enabled := false
    banStatus := banStatus
    banReason := banReason
    banTime := now }

/-- How `GetUsageLimits` fails: on an answer other than 200, on the way to one, or on the
body of a 200. -/
inductive UsageFailure where
  | answer (status : Nat) (body : GoString)
  | transport (text : GoString)
  | decoding (text : GoString)

def UsageFailure.message : UsageFailure → GoString
  | .answer status body => lit "HTTP " ++ decimal status ++ lit ": " ++ body
  | .transport text => text
  | .decoding text => text

def authenticationMarkers : List GoString :=
  [lit "403", lit "401", lit "invalid", lit "expired"]

/-- The copy it writes back to the store, and the account info or the error it returns. How
the info is read off the usage is left open. -/
def refreshAccountInfo {Info : Type} (account : Account Credit) (markFailure : Bool) (now : Int)
    (usage : Except UsageFailure Info) : Option (Account Credit) × Except GoString Info :=
  match usage with
  | .error failure =>
      let message := failure.message
      if contains message (lit "TEMPORARILY_SUSPENDED") then
        (if markFailure then some (disabledCopy account banned suspendedReason now) else none,
          .error (lit "account suspended: " ++ message))
      else if containsAnyOf message authenticationMarkers then
        (if markFailure then some (disabledCopy account banned authenticationReason now) else none,
          .error (lit "GetUsageLimits: " ++ message))
      else (none, .error (lit "GetUsageLimits: " ++ message))
  | .ok info =>
      if account.banStatus ≠ [] && account.banStatus ≠ active then
        (some { account with banStatus := active, banReason := [], banTime := 0 }, .ok info)
      else (none, .ok info)

structure UpstreamQuotaError where
  retryFor : Int
  throttled : Bool

/-- An error as `handleAccountFailure` reads it: its text and the kinds it wraps. -/
structure CallError where
  message : GoString
  isUpstreamClientError : Bool
  isStreamIntegrityError : Bool
  isContextCanceledError : Bool
  quota : Option UpstreamQuotaError

def isClientHTTPStatus (status : Nat) : Bool :=
  400 ≤ status && status < 500 && status != 401 && status != 402 && status != 403 &&
    status != 429

/-- How the calls fail whose errors reach `handleAccountFailure`: on an answer of a stream
endpoint (`quota` is what several answers with 429 come to), of the token endpoints of the
OIDC and social logins, of an external issuer, or of the usage endpoint; on an error event
or a broken stream; on the client's own cancellation; or with any other error text. -/
inductive CallFailure where
  | answer (status : Nat) (endpoint body : GoString) (quota : UpstreamQuotaError)
  | refreshAnswer (status : Nat) (body : GoString)
  | issuerAnswer (status : Nat) (kind description : GoString)
  | usage (failure : UsageFailure)
  | errorEvent (detail : GoString)
  | streamIntegrity (text : GoString)
  | canceled (text : GoString)
  | other (text : GoString)

/-- The error text of a failed `refreshAccountInfo`. -/
def UsageFailure.refreshMessage (failure : UsageFailure) : GoString :=
  if contains failure.message (lit "TEMPORARILY_SUSPENDED") then
    lit "account suspended: " ++ failure.message
  else lit "GetUsageLimits: " ++ failure.message

def plainError (message : GoString) : CallError := ⟨message, false, false, false, none⟩

def CallFailure.error : CallFailure → CallError
  | .answer status endpoint body quota =>
      { message := lit "HTTP " ++ decimal status ++ lit " from " ++ endpoint ++ lit ": " ++ body
        isUpstreamClientError := isClientHTTPStatus status
        isStreamIntegrityError := false
        isContextCanceledError := false
        quota := if status = 429 then some quota else none }
  | .refreshAnswer status body =>
      plainError (lit "refresh failed: " ++ decimal status ++ lit " " ++ body)
  | .issuerAnswer status kind description =>
      plainError (if kind ≠ [] then lit "HTTP " ++ decimal status ++ lit ": " ++ kind ++ description
        else lit "external IdP token endpoint returned HTTP " ++ decimal status)
  | .usage failure => plainError failure.refreshMessage
  | .errorEvent detail => plainError (lit "upstream event stream error: " ++ detail)
  | .streamIntegrity text => { plainError text with isStreamIntegrityError := true }
  | .canceled text => { plainError text with isContextCanceledError := true }
  | .other text => plainError text

/-- What a failure does: nothing, an entry in the pool, or a write to the account. -/
inductive FailureEffect (Credit : Type) where
  | ignored
  | overage
  | recordThrottle (retryFor : Int)
  | recordQuota (retryFor : Int)
  | recordError (isQuotaError : Bool)
  | disable (written : Option (Account Credit))

/-- The copy it writes back to the store, if the account does not say so already. -/
def disableAccount (account : Account Credit) (banStatus banReason : GoString) (now : Int) :
    Option (Account Credit) :=
  if !account.enabled && account.banStatus = banStatus && account.banReason = banReason then none
  else some (disabledCopy account banStatus banReason now)

variable (letters : Letters)

def handleAccountFailure (account : Account Credit) (error : CallError) (now : Int) :
    FailureEffect Credit :=
  if error.isUpstreamClientError || error.isStreamIntegrityError || error.isContextCanceledError
  then .ignored
  else if isOverageErrorMessage letters error.message then .overage
  else if isQuotaErrorMessage letters error.message then
    match error.quota with
    | some quota =>
        if quota.throttled then .recordThrottle quota.retryFor else .recordQuota quota.retryFor
    | none =>
        if isUsageQuotaExhaustedMessage letters error.message then .recordError true
        else .recordThrottle 0
  else if isSuspensionErrorMessage letters error.message then
    .disable (disableAccount account banned suspendedReason now)
  else if isProfileUnavailableErrorMessage letters error.message then .recordError false
  else if isAuthErrorMessage letters error.message then
    .disable (disableAccount account banned authenticationReason now)
  else .recordError false

def handleBackgroundAccountFailure (account : Account Credit) (error : CallError) (now : Int) :
    FailureEffect Credit :=
  if !isTerminalAccountErrorMessage letters error.message then .ignored
  else handleAccountFailure letters account error now

def FailureEffect.written : FailureEffect Credit → Option (Account Credit)
  | .disable copy => copy
  | _ => none

end Failures

section Bans

variable {Credit Info : Type} (letters : Letters)

/-- What comes back from the upstream and which function it reaches. -/
inductive Report (Info : Type) where
  | refresh (usage : Except UsageFailure Info)
  | request (failure : CallFailure)
  | background (failure : CallFailure)

def Report.written (account : Account Credit) (now : Int) : Report Info → Option (Account Credit)
  | .refresh usage => (refreshAccountInfo account true now usage).1
  | .request failure => (handleAccountFailure letters account failure.error now).written
  | .background failure =>
      (handleBackgroundAccountFailure letters account failure.error now).written

/-- The account is written as disabled and banned. -/
def Bans (written : Option (Account Credit)) : Prop :=
  ∃ copy ∈ written, copy.enabled = false ∧ copy.banStatus = banned

/-- The upstream refuses the credentials, or calls the account suspended. A server error
does neither. -/
def credentialAnswer (status : Nat) (body : GoString) : Prop :=
  status = 401 ∨ status = 403 ∨ (status < 500 ∧ isSuspensionErrorMessage letters body = true)

def rejectsGrant (status : Nat) (body : GoString) : Prop :=
  status < 500 ∧ contains (letters.toLower body) (lit "invalid_grant") = true

def UsageFailure.isCredential : UsageFailure → Prop
  | .answer status body => credentialAnswer letters status body
  | .transport _ => False
  | .decoding _ => False

def CallFailure.isCredential : CallFailure → Prop
  | .answer status _ body _ => credentialAnswer letters status body
  | .refreshAnswer status body =>
      credentialAnswer letters status body ∨ rejectsGrant letters status body
  | .issuerAnswer status kind description =>
      credentialAnswer letters status (kind ++ description) ∨ rejectsGrant letters status kind
  | .usage failure => failure.isCredential letters
  | .errorEvent detail => isSuspensionErrorMessage letters detail = true
  | .streamIntegrity _ => False
  | .canceled _ => False
  | .other _ => False

def Report.isCredential : Report Info → Prop
  | .refresh (.error failure) => failure.isCredential letters
  | .refresh (.ok _) => False
  | .request failure => failure.isCredential letters
  | .background failure => failure.isCredential letters

def refreshMarkers : List GoString := lit "TEMPORARILY_SUSPENDED" :: authenticationMarkers

/-- A usage failure that refuses the credentials, or has no marker in the digits of its
status, its body or its text. -/
def UsageFailure.isSpared : UsageFailure → Prop
  | .answer status body => credentialAnswer letters status body ∨
      (containsAnyOf (decimal status) refreshMarkers = false ∧
        containsAnyOf body refreshMarkers = false)
  | .transport text => containsAnyOf text refreshMarkers = false
  | .decoding text => containsAnyOf text refreshMarkers = false

/-- The text has neither both 402 and overage, nor a 429 that stands alone or a word of quotas;
and it has words of a suspension or, without those of a missing profile, of authentication. -/
def readsAsBan (message : GoString) : Bool :=
  let text := letters.toLower message
  !(contains text (lit "402") && contains text (lit "overage")) &&
    !(hasStandaloneNumber message (lit "429") ||
      containsAnyOf text (lit "quota" :: usageQuotaMarkers)) &&
    (containsAnyOf text suspensionMarkers ||
      (!contains text (lit "no available kiro profile") && containsAnyOf text authMarkers))

/-- The words are those that the predicates of the source look for. -/
theorem reads_as_ban_eq (message : GoString) :
    readsAsBan letters message =
      (!isOverageErrorMessage letters message && !isQuotaErrorMessage letters message &&
        (isSuspensionErrorMessage letters message ||
          (!isProfileUnavailableErrorMessage letters message &&
            isAuthErrorMessage letters message))) := by
  have quota : isQuotaErrorMessage letters message =
      (hasStandaloneNumber message (lit "429") ||
        containsAnyOf (letters.toLower message) (lit "quota" :: usageQuotaMarkers)) :=
    Bool.or_assoc _ _ _
  rw [quota]
  rfl

def reasonRead (message : GoString) : GoString :=
  if containsAnyOf (letters.toLower message) suspensionMarkers then suspendedReason
  else authenticationReason

def CallError.isIgnored (error : CallError) : Bool :=
  error.isUpstreamClientError || error.isStreamIntegrityError || error.isContextCanceledError

def alreadyBanned (account : Account Credit) (reason : GoString) : Prop :=
  account.enabled = false ∧ account.banStatus = banned ∧ account.banReason = reason

/-- A call failure that refuses the credentials, is of an ignored kind or has a text that
does not read as a ban, or that finds the account banned for the same reason. -/
def CallFailure.isSpared (account : Account Credit) (failure : CallFailure) : Prop :=
  failure.isCredential letters ∨ failure.error.isIgnored = true ∨
    readsAsBan letters failure.error.message = false ∨
    alreadyBanned account (reasonRead letters failure.error.message)

def Report.isSpared (account : Account Credit) : Report Info → Prop
  | .refresh (.error failure) => failure.isSpared letters
  | .refresh (.ok _) => True
  | .request failure => failure.isSpared letters account
  | .background failure => failure.isSpared letters account

theorem disabled_copy_bans (account : Account Credit) (reason : GoString) (now : Int) :
    Bans (some (disabledCopy account banned reason now)) :=
  ⟨_, rfl, rfl, rfl⟩

theorem nothing_bans : ¬Bans (none : Option (Account Credit)) := by
  intro ⟨copy, member, _⟩
  simp at member

theorem refresh_error_bans (account : Account Credit) (now : Int) (failure : UsageFailure) :
    Bans (refreshAccountInfo account true now (.error failure : Except UsageFailure Info)).1 ↔
      containsAnyOf failure.message refreshMarkers = true := by
  have markers : containsAnyOf failure.message refreshMarkers =
      (contains failure.message (lit "TEMPORARILY_SUSPENDED") ||
        containsAnyOf failure.message authenticationMarkers) := rfl
  rw [markers, Bool.or_eq_true]
  unfold refreshAccountInfo
  simp only [if_true]
  split_ifs with suspended rejected
  · exact iff_of_true (disabled_copy_bans account suspendedReason now) (Or.inl suspended)
  · exact iff_of_true (disabled_copy_bans account authenticationReason now) (Or.inr rejected)
  · exact iff_of_false nothing_bans (not_or.mpr ⟨suspended, rejected⟩)

theorem refresh_ok_spares (account : Account Credit) (now : Int) (info : Info) :
    ¬Bans (refreshAccountInfo account true now (.ok info)).1 := by
  unfold refreshAccountInfo
  simp only
  split_ifs
  · intro ⟨copy, member, _, status⟩
    rw [← Option.some.inj member] at status
    exact absurd status (by decide : active ≠ banned)
  · exact nothing_bans

/-- No marker reaches over the separators of the message. -/
theorem answer_marked (status : Nat) (body : GoString) :
    containsAnyOf (UsageFailure.answer status body).message refreshMarkers =
      (containsAnyOf (decimal status) refreshMarkers || containsAnyOf body refreshMarkers) := by
  have message : (UsageFailure.answer status body).message =
      lit "HTTP" ++ 0x20 :: (decimal status ++ 0x3A :: ([] ++ 0x20 :: body)) := by
    have head : lit "HTTP " = lit "HTTP" ++ [0x20] := by decide
    have middle : lit ": " = [0x3A, 0x20] := by decide
    rw [UsageFailure.message, head, middle]
    simp
  have apart : ∀ marker ∈ refreshMarkers, marker ≠ [] ∧ (0x20 : UInt8) ∉ marker ∧
      (0x3A : UInt8) ∉ marker ∧ contains (lit "HTTP") marker = false ∧
      contains [] marker = false := by decide
  have each : ∀ marker ∈ refreshMarkers,
      contains (UsageFailure.answer status body).message marker =
        (contains (decimal status) marker || contains body marker) := by
    intro marker member
    obtain ⟨nonempty, noSpace, noColon, head, nothing⟩ := apart marker member
    rw [message, contains_split _ _ _ _ nonempty noSpace,
      contains_split _ _ _ _ nonempty noColon, contains_split _ _ _ _ nonempty noSpace, head,
      nothing, Bool.false_or, Bool.false_or]
  rw [Bool.eq_iff_iff, Bool.or_eq_true]
  unfold containsAnyOf
  simp only [List.any_eq_true]
  constructor
  · rintro ⟨marker, member, found⟩
    rw [each marker member, Bool.or_eq_true] at found
    exact found.imp (fun here => ⟨marker, member, here⟩) (fun here => ⟨marker, member, here⟩)
  · rintro (⟨marker, member, found⟩ | ⟨marker, member, found⟩)
    · exact ⟨marker, member, by rw [each marker member, found, Bool.true_or]⟩
    · exact ⟨marker, member, by rw [each marker member, found, Bool.or_true]⟩

theorem disable_bans (account : Account Credit) (reason : GoString) (now : Int) :
    Bans (disableAccount account banned reason now) ↔ ¬alreadyBanned account reason := by
  unfold disableAccount alreadyBanned
  split_ifs with same
  · simp only [Bool.and_eq_true, Bool.not_eq_true', decide_eq_true_eq, and_assoc] at same
    exact iff_of_false nothing_bans (not_not.mpr same)
  · simp only [Bool.and_eq_true, Bool.not_eq_true', decide_eq_true_eq, and_assoc] at same
    exact iff_of_true (disabled_copy_bans account reason now) same

theorem handle_bans (account : Account Credit) (error : CallError) (now : Int) :
    Bans (handleAccountFailure letters account error now).written ↔
      error.isIgnored = false ∧ readsAsBan letters error.message = true ∧
        ¬alreadyBanned account (reasonRead letters error.message) := by
  have reason : reasonRead letters error.message =
      if isSuspensionErrorMessage letters error.message then suspendedReason
      else authenticationReason := rfl
  rw [reads_as_ban_eq, reason]
  unfold handleAccountFailure
  change Bans (if error.isIgnored = true then _ else _ : FailureEffect Credit).written ↔ _
  cases error.isIgnored with
  | true => exact iff_of_false nothing_bans (by simp)
  | false =>
      rw [if_neg Bool.false_ne_true]
      cases isOverageErrorMessage letters error.message with
      | true => exact iff_of_false nothing_bans (by simp)
      | false =>
          rw [if_neg Bool.false_ne_true]
          cases isQuotaErrorMessage letters error.message with
          | true =>
              rw [if_pos rfl]
              apply iff_of_false _ (by simp)
              split
              · split_ifs <;> exact nothing_bans
              · split_ifs <;> exact nothing_bans
          | false =>
              rw [if_neg Bool.false_ne_true]
              cases isSuspensionErrorMessage letters error.message with
              | true => simpa [FailureEffect.written] using disable_bans account suspendedReason now
              | false =>
                  rw [if_neg Bool.false_ne_true]
                  cases isProfileUnavailableErrorMessage letters error.message with
                  | true => exact iff_of_false nothing_bans (by simp)
                  | false =>
                      rw [if_neg Bool.false_ne_true]
                      cases isAuthErrorMessage letters error.message with
                      | true => simpa [FailureEffect.written] using disable_bans account authenticationReason now
                      | false => exact iff_of_false nothing_bans (by simp)

/-- What reads as a ban is terminal: the background keeps none of it back. -/
theorem background_bans (account : Account Credit) (error : CallError) (now : Int) :
    Bans (handleBackgroundAccountFailure letters account error now).written ↔
      Bans (handleAccountFailure letters account error now).written := by
  unfold handleBackgroundAccountFailure
  cases terminal : isTerminalAccountErrorMessage letters error.message with
  | true => exact Iff.rfl
  | false =>
      apply iff_of_false nothing_bans
      rw [handle_bans]
      intro ⟨_, reads, _⟩
      rw [reads_as_ban_eq] at reads
      unfold isTerminalAccountErrorMessage at terminal
      simp only [Bool.or_eq_false_iff] at terminal
      simp [terminal] at reads

theorem call_spared_iff (account : Account Credit) (failure : CallFailure) (now : Int) :
    (Bans (handleAccountFailure letters account failure.error now).written →
      failure.isCredential letters) ↔ failure.isSpared letters account := by
  rw [handle_bans]
  unfold CallFailure.isSpared
  cases failure.error.isIgnored <;>
    cases readsAsBan letters failure.error.message <;>
      by_cases already : alreadyBanned account (reasonRead letters failure.error.message) <;>
        simp [already]

/-- Only credential failures ban an account, exactly when every other failure has a text
free of what reads as one. -/
theorem bans_only_credentials_iff (account : Account Credit) (now : Int) (report : Report Info) :
    (Bans (report.written letters account now) → report.isCredential letters) ↔
      report.isSpared letters account := by
  cases report with
  | request failure => exact call_spared_iff letters account failure now
  | background failure =>
      rw [Report.written, background_bans]
      exact call_spared_iff letters account failure now
  | refresh usage =>
      cases usage with
      | ok info =>
          apply iff_of_true _ trivial
          intro bans
          exact absurd bans (refresh_ok_spares account now info)
      | error failure =>
          rw [Report.written, refresh_error_bans]
          cases failure with
          | answer status body =>
              rw [answer_marked]
              simp only [Report.isCredential, Report.isSpared, UsageFailure.isCredential,
                UsageFailure.isSpared]
              cases containsAnyOf (decimal status) refreshMarkers <;>
                cases containsAnyOf body refreshMarkers <;> simp
          | transport text =>
              simp [Report.isCredential, Report.isSpared, UsageFailure.isCredential,
                UsageFailure.isSpared, UsageFailure.message]
          | decoding text =>
              simp [Report.isCredential, Report.isSpared, UsageFailure.isCredential,
                UsageFailure.isSpared, UsageFailure.message]

/-- A server error with an unlucky word, and a proxy that refuses to connect. -/
theorem server_error_bans :
    let account : Account Int := newAccount (lit "a")
    let failed : Report Unit := .refresh (.error (.answer 500 (lit "invalid state")))
    let refused : Report Unit := .request (.other (lit "Post \"https://q\": Forbidden"))
    Bans (failed.written asciiLetters account 0) ∧ ¬failed.isCredential asciiLetters ∧
      Bans (refused.written asciiLetters account 0) ∧ ¬refused.isCredential asciiLetters := by
  intro account failed refused
  refine ⟨?_, ?_, ?_, id⟩
  · rw [Report.written, refresh_error_bans]
    decide
  · rintro (unauthorized | forbidden | suspended)
    · exact absurd unauthorized (by decide)
    · exact absurd forbidden (by decide)
    · exact absurd suspended.1 (by decide)
  · rw [Report.written, handle_bans]
    exact ⟨by decide, by decide, fun already => absurd already.2.1 (by decide)⟩

end Bans

end KiroProxy.AccountFailures
