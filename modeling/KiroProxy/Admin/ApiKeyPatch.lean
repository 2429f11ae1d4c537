import KiroProxy.Config.ApiKeys
import KiroProxy.Foundation.Runs

/-!
# Patching an API key

A transcription of `apiUpdateApiKey` in `proxy/admin_apikeys.go`. The handler
reads the stored entry under the store's lock, fills the fields its request does
not name from that copy, and writes every field back under the lock again. Other
requests may run between the two. A run therefore interleaves reads, writes and
finalized requests, and carries beside the store the value each field was last
given by an operation that names it.
-/

namespace KiroProxy.ApiKeyPatch

open ApiKeys GoStrings Foundation.Runs

set_option autoImplicit false

section Handler

structure ApiKeyUpdateRequest (Credit : Type) where
  name : Option GoString
  key : Option GoString
  enabled : Option Bool
  tokenLimit : Option Int
  creditLimit : Option Credit
  deriving DecidableEq

/-- How the handler answers: an HTTP status with its error text, or the entry. -/
inductive PatchResponse (Credit : Type) where
  | failed (status : Nat) (error : String)
  | updated (entry : ApiKeyEntry Credit)
  deriving DecidableEq

variable {Credit : Type}

/-- The patch a request makes of the entry it has read. -/
def ApiKeyUpdateRequest.patch (req : ApiKeyUpdateRequest Credit)
    (existing : ApiKeyEntry Credit) : ApiKeyEntry Credit :=
  { existing with
    name := req.name.getD existing.name
    key := req.key.getD existing.key
    enabled := req.enabled.getD existing.enabled
    tokenLimit := req.tokenLimit.getD existing.tokenLimit
    creditLimit := req.creditLimit.getD existing.creditLimit }

/-- The answer to a request whose update ended so, given the entry read after it. -/
def patchResponse (result : Option ApiKeyError) (reloaded : Option (ApiKeyEntry Credit)) :
    PatchResponse Credit :=
  match result with
  | some .lockout => .failed 409 (ApiKeyError.message .lockout)
  | some err => .failed 400 err.message
  | none =>
      match reloaded with
      | none => .failed 500 "failed to reload API key"
      | some updated => .updated updated

variable [CreditAmount Credit]

/-- The handler with nothing between its read and its write. -/
def apiUpdateApiKey (cfg : Config Credit) (id : GoString)
    (req : Option (ApiKeyUpdateRequest Credit)) (saveErr : SaveResult) :
    PatchResponse Credit × Config Credit :=
  match getApiKeyEntry cfg id with
  | none => (.failed 404 "API key not found", cfg)
  | some existing =>
      match req with
      | none => (.failed 400 "Invalid JSON", cfg)
      | some req =>
          let result := updateApiKeyGuarded cfg id (req.patch existing) saveErr
          (patchResponse result.1 (getApiKeyEntry result.2 id), result.2)

end Handler

section Fields

/-- The fields a patch can name. -/
structure KeyFields (Credit : Type) where
  name : GoString
  key : GoString
  enabled : Bool
  tokenLimit : Int
  creditLimit : Credit
  deriving DecidableEq

variable {Credit : Type}

def keyFields (entry : ApiKeyEntry Credit) : KeyFields Credit where
  name := entry.name
  key := entry.key
  enabled := entry.enabled
  tokenLimit := entry.tokenLimit
  creditLimit := entry.creditLimit

def storedFields (cfg : Config Credit) (id : GoString) : Option (KeyFields Credit) :=
  (getApiKeyEntry cfg id).map keyFields

/-- The fields after a request that changes those it names and no others. An empty
key value names nothing. -/
def ApiKeyUpdateRequest.apply (req : ApiKeyUpdateRequest Credit)
    (fields : KeyFields Credit) : KeyFields Credit where
  name := (req.name.map trimSpace).getD fields.name
  key := updatedKey fields.key (req.key.getD [])
  enabled := req.enabled.getD fields.enabled
  tokenLimit := req.tokenLimit.getD fields.tokenLimit
  creditLimit := req.creditLimit.getD fields.creditLimit

/-- For every field the request does not name, the copy it has read writes back
what is stored now. -/
structure CopyCurrent (req : ApiKeyUpdateRequest Credit)
    (existing entry : ApiKeyEntry Credit) : Prop where
  name : req.name = none → trimSpace existing.name = entry.name
  key : req.key = none → updatedKey entry.key existing.key = entry.key
  enabled : req.enabled = none → existing.enabled = entry.enabled
  tokenLimit : req.tokenLimit = none → existing.tokenLimit = entry.tokenLimit
  creditLimit : req.creditLimit = none → existing.creditLimit = entry.creditLimit

theorem getD_eq_getD {Value : Type} (named : Option Value) (copy current : Value) :
    named.getD copy = named.getD current ↔ (named = none → copy = current) := by
  cases named <;> simp

/-- Writing a patch back changes the named fields only exactly when the copy it was
filled from is current in the others. -/
theorem write_patch_iff (req : ApiKeyUpdateRequest Credit)
    (existing entry : ApiKeyEntry Credit) :
    keyFields (writeUpdate (req.patch existing) entry) = req.apply (keyFields entry) ↔
      CopyCurrent req existing entry := by
  have name : trimSpace (req.name.getD existing.name) =
      (req.name.map trimSpace).getD entry.name ↔
        (req.name = none → trimSpace existing.name = entry.name) := by
    cases req.name <;> simp
  have key : updatedKey entry.key (req.key.getD existing.key) =
      updatedKey entry.key (req.key.getD []) ↔
        (req.key = none → updatedKey entry.key existing.key = entry.key) := by
    cases req.key <;> simp [updatedKey]
  simp only [keyFields, writeUpdate, ApiKeyUpdateRequest.patch, ApiKeyUpdateRequest.apply,
    KeyFields.mk.injEq, name, key, getD_eq_getD]
  constructor
  · intro fields
    exact ⟨fields.1, fields.2.1, fields.2.2.1, fields.2.2.2.1, fields.2.2.2.2⟩
  · intro current
    exact ⟨current.name, current.key, current.enabled, current.tokenLimit,
      current.creditLimit⟩

end Fields

section Interleavings

variable {Credit : Type}

/-- A request between its read and its write. -/
structure PendingPatch (Credit : Type) where
  id : GoString
  req : ApiKeyUpdateRequest Credit
  existing : ApiKeyEntry Credit
  deriving DecidableEq

structure PatchState (Credit : Type) where
  cfg : Config Credit
  pending : List (PendingPatch Credit)
  expected : GoString → Option (KeyFields Credit)

inductive PatchEvent (Credit : Type) where
  | read (id : GoString) (req : ApiKeyUpdateRequest Credit)
  | write (index : Nat) (saveErr : SaveResult)
  | finalize (id : GoString) (reservedTokens : Int64) (reservedCredits : Credit)
      (actualTokens : Int64) (actualCredits : Credit) (now : Int) (saveErr : SaveResult)

variable [CreditAmount Credit]

/-- A patch that is refused names nothing; one whose save fails stays in memory. -/
def acceptsPatch : Option ApiKeyError → Bool
  | none => true
  | some (.saveFailed _) => true
  | some _ => false

def expectPatch (result : Option ApiKeyError) (pending : PendingPatch Credit)
    (expected : GoString → Option (KeyFields Credit)) :
    GoString → Option (KeyFields Credit) :=
  if acceptsPatch result then
    Function.update expected pending.id ((expected pending.id).map pending.req.apply)
  else expected

/-- The step turns off the key's `Enabled` because a limit is reached. -/
def autoDisables (state : PatchState Credit) (id : GoString) (reservedTokens : Int64)
    (reservedCredits : Credit) (actualTokens : Int64) (actualCredits : Credit) : Bool :=
  if reservedTokens < 0 ∨ reservedCredits < 0 ∨ actualTokens < 0 ∨ actualCredits < 0 then
    false
  else match getApiKeyEntry state.cfg id with
    | none => false
    | some entry =>
        let settled :=
          settleUsage reservedTokens reservedCredits actualTokens actualCredits entry
        tokenLimitReached settled || creditLimitReached settled

def PatchState.step (state : PatchState Credit) : PatchEvent Credit → PatchState Credit
  | .read id req =>
      match getApiKeyEntry state.cfg id with
      | none => state
      | some existing => { state with pending := state.pending ++ [⟨id, req, existing⟩] }
  | .write index saveErr =>
      match state.pending[index]? with
      | none => state
      | some pending =>
          let result := updateApiKeyGuarded state.cfg pending.id
            (pending.req.patch pending.existing) saveErr
          { cfg := result.2
            pending := state.pending.eraseIdx index
            expected := expectPatch result.1 pending state.expected }
  | .finalize id reservedTokens reservedCredits actualTokens actualCredits now saveErr =>
      { cfg := (finalizeApiKeyUsageReservation state.cfg id reservedTokens reservedCredits
          actualTokens actualCredits now saveErr).2
        pending := state.pending
        expected :=
          if autoDisables state id reservedTokens reservedCredits actualTokens actualCredits then
            Function.update state.expected id
              ((state.expected id).map (fun fields => { fields with enabled := false }))
          else state.expected }

def patchStart (cfg : Config Credit) : PatchState Credit where
  cfg := cfg
  pending := []
  expected := storedFields cfg

/-- Every field of every key is the one its last naming operation wrote. -/
def FieldsLastNamed (state : PatchState Credit) : Prop :=
  ∀ id, storedFields state.cfg id = state.expected id

/-- A write that is accepted finds its copy current in the fields it does not name. -/
def WritesCurrentCopy (state : PatchState Credit) : PatchEvent Credit → Prop
  | .write index _ => ∀ pending entry, state.pending[index]? = some pending →
      getApiKeyEntry state.cfg pending.id = some entry →
      checkUpdate state.cfg entry (pending.req.patch pending.existing) true = none →
      CopyCurrent pending.req pending.existing entry
  | _ => True

omit [CreditAmount Credit] in
theorem stored_fields_change (cfg : Config Credit) (id : GoString)
    (change : ApiKeyEntry Credit → ApiKeyEntry Credit)
    (keeps : ∀ entry : ApiKeyEntry Credit, entry.id = id → (change entry).id = id) :
    storedFields (cfg.change id change) =
      Function.update (storedFields cfg) id
        ((getApiKeyEntry cfg id).map (fun entry => keyFields (change entry))) := by
  funext other
  by_cases same : other = id
  · subst same
    rw [Function.update_self, storedFields, get_change cfg other change keeps,
      Option.map_map]
    rfl
  · rw [Function.update_of_ne same, storedFields, storedFields,
      get_change_other cfg id change keeps other same]

theorem check_update_refused (cfg : Config Credit) (entry patch : ApiKeyEntry Credit)
    (guard : Bool) (err : ApiKeyError) (refused : checkUpdate cfg entry patch guard = some err) :
    acceptsPatch (some err) = false := by
  unfold checkUpdate validateApiKeyLimits at refused
  split_ifs at refused <;> simp only [Option.some.injEq] at refused <;>
    rw [← refused] <;> rfl

theorem accepts_saved (saveErr : SaveResult) : acceptsPatch (saved saveErr) = true := by
  cases saveErr <;> rfl

/-- What an accepted write does to the fields and to what is expected of them. -/
theorem write_accepted (state : PatchState Credit) (index : Nat) (saveErr : SaveResult)
    (pending : PendingPatch Credit) (entry : ApiKeyEntry Credit)
    (present : state.pending[index]? = some pending)
    (found : getApiKeyEntry state.cfg pending.id = some entry)
    (passed : checkUpdate state.cfg entry (pending.req.patch pending.existing) true = none) :
    storedFields (state.step (.write index saveErr)).cfg =
        Function.update (storedFields state.cfg) pending.id
          (some (keyFields (writeUpdate (pending.req.patch pending.existing) entry))) ∧
      (state.step (.write index saveErr)).expected =
        Function.update state.expected pending.id
          ((state.expected pending.id).map pending.req.apply) := by
  have change := stored_fields_change state.cfg pending.id
    (writeUpdate (pending.req.patch pending.existing)) (fun _ same => same)
  rw [found, Option.map_some] at change
  constructor
  · simp only [PatchState.step, present, updateApiKeyGuarded, updateApiKey, found, passed]
    exact change
  · simp only [PatchState.step, present, updateApiKeyGuarded, updateApiKey, found, passed,
      expectPatch, accepts_saved, if_true]

/-- A write that is not accepted changes neither. -/
theorem write_refused (state : PatchState Credit) (index : Nat) (saveErr : SaveResult)
    (refused : ∀ pending entry, state.pending[index]? = some pending →
      getApiKeyEntry state.cfg pending.id = some entry →
      checkUpdate state.cfg entry (pending.req.patch pending.existing) true ≠ none) :
    (state.step (.write index saveErr)).cfg = state.cfg ∧
      (state.step (.write index saveErr)).expected = state.expected := by
  simp only [PatchState.step]
  cases present : state.pending[index]? with
  | none => exact ⟨rfl, rfl⟩
  | some pending =>
      simp only [updateApiKeyGuarded, updateApiKey]
      cases found : getApiKeyEntry state.cfg pending.id with
      | none => exact ⟨rfl, rfl⟩
      | some entry =>
          dsimp only
          cases check : checkUpdate state.cfg entry
              (pending.req.patch pending.existing) true with
          | none => exact absurd check (refused pending entry present found)
          | some err =>
              have unnamed := check_update_refused _ _ _ _ _ check
              simp [expectPatch, unnamed]

/-- A write whose fields were right before leaves them right exactly when its copy
is current or it is refused. -/
theorem write_step_iff (state : PatchState Credit) (inv : FieldsLastNamed state)
    (index : Nat) (saveErr : SaveResult) :
    FieldsLastNamed (state.step (.write index saveErr)) ↔
      WritesCurrentCopy state (.write index saveErr) := by
  have expected : storedFields state.cfg = state.expected := funext inv
  by_cases accepted : ∃ pending entry, state.pending[index]? = some pending ∧
      getApiKeyEntry state.cfg pending.id = some entry ∧
      checkUpdate state.cfg entry (pending.req.patch pending.existing) true = none
  · rcases accepted with ⟨pending, entry, present, found, passed⟩
    have after := write_accepted state index saveErr pending entry present found passed
    have before : state.expected pending.id = some (keyFields entry) := by
      rw [← expected, storedFields, found, Option.map_some]
    unfold FieldsLastNamed WritesCurrentCopy
    rw [after.1, after.2, expected, before, Option.map_some]
    constructor
    · intro right other current same stored _
      rw [present, Option.some.injEq] at same
      subst same
      rw [found, Option.some.injEq] at stored
      subst stored
      have fields := right pending.id
      rw [Function.update_self, Function.update_self, Option.some.injEq] at fields
      exact (write_patch_iff pending.req pending.existing entry).mp fields
    · intro current id
      rw [(write_patch_iff pending.req pending.existing entry).mpr
        (current pending entry present found passed)]
  · have refused : ∀ pending entry, state.pending[index]? = some pending →
        getApiKeyEntry state.cfg pending.id = some entry →
        checkUpdate state.cfg entry (pending.req.patch pending.existing) true ≠ none :=
      fun pending entry present found passed =>
        accepted ⟨pending, entry, present, found, passed⟩
    have same := write_refused state index saveErr refused
    unfold FieldsLastNamed
    rw [same.1, same.2]
    constructor
    · intro _ pending entry present found passed
      exact absurd passed (refused pending entry present found)
    · exact fun _ => inv

theorem finalize_fields (entry : ApiKeyEntry Credit) (reservedTokens : Int64)
    (reservedCredits : Credit) (actualTokens : Int64) (actualCredits : Credit) (now : Int) :
    keyFields (finalizeUsage reservedTokens reservedCredits actualTokens actualCredits now
        entry) =
      if tokenLimitReached (settleUsage reservedTokens reservedCredits actualTokens
          actualCredits entry) ||
        creditLimitReached (settleUsage reservedTokens reservedCredits actualTokens
          actualCredits entry)
      then { keyFields entry with enabled := false }
      else keyFields entry := by
  simp only [keyFields, finalizeUsage]
  split_ifs <;> rfl

/-- A finalize keeps the fields right: all it names is the `Enabled` it turns off. -/
theorem finalize_step_kept (state : PatchState Credit) (inv : FieldsLastNamed state)
    (id : GoString) (reservedTokens : Int64) (reservedCredits : Credit) (actualTokens : Int64)
    (actualCredits : Credit) (now : Int) (saveErr : SaveResult) :
    FieldsLastNamed (state.step (.finalize id reservedTokens reservedCredits actualTokens
      actualCredits now saveErr)) := by
  have expected : storedFields state.cfg = state.expected := funext inv
  have unchanged : ∀ result : Option ApiKeyError × Config Credit,
      finalizeApiKeyUsageReservation state.cfg id reservedTokens reservedCredits actualTokens
        actualCredits now saveErr = result → result.2 = state.cfg →
      autoDisables state id reservedTokens reservedCredits actualTokens actualCredits = false →
      FieldsLastNamed (state.step (.finalize id reservedTokens reservedCredits actualTokens
        actualCredits now saveErr)) := by
    intro result same stored disabled
    unfold FieldsLastNamed
    simp only [PatchState.step, same, stored, disabled, Bool.false_eq_true, if_false]
    exact inv
  by_cases negative : reservedTokens < 0 ∨ reservedCredits < 0 ∨ actualTokens < 0 ∨
      actualCredits < 0
  · apply unchanged (some .negativeUsage, state.cfg) _ rfl
    · simp only [autoDisables, if_pos negative]
    · simp only [finalizeApiKeyUsageReservation, if_pos negative]
  · cases found : getApiKeyEntry state.cfg id with
    | none =>
        apply unchanged (some .notFound, state.cfg) _ rfl
        · simp only [autoDisables, if_neg negative, found]
        · simp only [finalizeApiKeyUsageReservation, if_neg negative, found]
    | some entry =>
        have change := stored_fields_change state.cfg id (finalizeUsage reservedTokens
          reservedCredits actualTokens actualCredits now) (fun _ same => same)
        rw [found, Option.map_some, finalize_fields, expected] at change
        have before : state.expected id = some (keyFields entry) := by
          rw [← expected, storedFields, found, Option.map_some]
        unfold FieldsLastNamed
        simp only [PatchState.step, finalizeApiKeyUsageReservation, if_neg negative, found,
          autoDisables, change, before, Option.map_some]
        intro other
        split_ifs
        · rfl
        · rw [← before, Function.update_eq_self]

theorem step_fields_iff (state : PatchState Credit) (inv : FieldsLastNamed state)
    (event : PatchEvent Credit) :
    FieldsLastNamed (state.step event) ↔ WritesCurrentCopy state event := by
  cases event with
  | read id req =>
      have kept : FieldsLastNamed (state.step (.read id req)) := by
        unfold FieldsLastNamed
        simp only [PatchState.step]
        cases getApiKeyEntry state.cfg id with
        | none => exact inv
        | some existing => exact inv
      exact ⟨fun _ => trivial, fun _ => kept⟩
  | write index saveErr => exact write_step_iff state inv index saveErr
  | finalize id reservedTokens reservedCredits actualTokens actualCredits now saveErr =>
      exact ⟨fun _ => trivial, fun _ => finalize_step_kept state inv id reservedTokens
        reservedCredits actualTokens actualCredits now saveErr⟩

/-- Every field always has the value its last naming operation gave it exactly when
every accepted write finds its copy current in the fields it leaves alone. -/
theorem patched_fields_iff (cfg : Config Credit) (events : List (PatchEvent Credit)) :
    Always PatchState.step FieldsLastNamed (patchStart cfg) events ↔
      StepsMeet PatchState.step WritesCurrentCopy (patchStart cfg) events := by
  apply always_iff_steps_meet PatchState.step WritesCurrentCopy FieldsLastNamed
    FieldsLastNamed
  · exact fun _ inv => inv
  · exact fun state event inv => (step_fields_iff state inv event).mpr
  · exact fun state event inv => (step_fields_iff state inv event).mp
  · exact fun _ => rfl

/-- The handler is a read followed at once by the write of what it has read. -/
theorem api_update_run (cfg : Config Credit) (id : GoString)
    (req : ApiKeyUpdateRequest Credit) (saveErr : SaveResult) :
    (apiUpdateApiKey cfg id (some req) saveErr).2 =
      (run PatchState.step (patchStart cfg) [.read id req, .write 0 saveErr]).cfg := by
  simp only [run_cons, run_nil, apiUpdateApiKey, PatchState.step, patchStart]
  cases found : getApiKeyEntry cfg id with
  | none => rfl
  | some existing => rfl

omit [CreditAmount Credit] in
/-- With nothing in between, a request on an entry stored trimmed, as the store
writes it, changes the fields it names only. -/
theorem copy_current_self (req : ApiKeyUpdateRequest Credit) (entry : ApiKeyEntry Credit)
    (name : trimSpace entry.name = entry.name) (key : trimSpace entry.key = entry.key) :
    CopyCurrent req entry entry := by
  refine ⟨fun _ => name, fun _ => ?_, fun _ => rfl, fun _ => rfl, fun _ => rfl⟩
  unfold updatedKey
  split_ifs
  · rfl
  · exact key

def rotatedKey : ApiKeyEntry Int where
  id := lit "k"
  name := lit "old"
  key := lit "sk-1"
  enabled := true
  createdAt := 0
  lastUsedAt := 0
  tokenLimit := 0
  creditLimit := 0
  tokensUsed := 0
  creditsUsed := 0
  requestsCount := 0

/-- A rename and a key rotation of one key: the rename reads first and writes last. -/
def rotationEvents : List (PatchEvent Int) :=
  [.read (lit "k") ⟨some (lit "new"), none, none, none, none⟩,
    .read (lit "k") ⟨none, some (lit "sk-2"), none, none, none⟩,
    .write 1 none, .write 0 none]

/-- When both are done the key has its old value again. -/
theorem rename_undoes_rotation :
    (run PatchState.step (patchStart ⟨false, [rotatedKey]⟩) rotationEvents).pending = [] ∧
      ¬FieldsLastNamed
        (run PatchState.step (patchStart ⟨false, [rotatedKey]⟩) rotationEvents) := by
  refine ⟨by decide, fun right => ?_⟩
  have key := congrArg (Option.map KeyFields.key) (right (lit "k"))
  exact absurd key (by decide)

end Interleavings

end KiroProxy.ApiKeyPatch
