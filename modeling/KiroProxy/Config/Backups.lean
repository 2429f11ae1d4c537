import KiroProxy.Config.ConfigDocuments
import KiroProxy.Foundation.Runs

/-!
# Saving, loading and backing up the configuration

`saveLocked` and `Load` of `config/config.go`, and the snapshot and the parsing of
`config/backup.go`. Both routes write the configuration as one document, from which
an empty list of model mappings is left out; read back, the defaults stand in for it.
-/

namespace KiroProxy.Configuration

open Foundation.Documents Foundation.Runs GoStrings
open JsonText (coerceText validText coerce_text_iff coerce_text_empty)
open ModelMappings

set_option autoImplicit false

section Settings

variable {Credit : Type}

def isHexDigit (byte : UInt8) : Bool :=
  (0x30 ≤ byte && byte ≤ 0x39) || (0x41 ≤ byte && byte ≤ 0x46) || (0x61 ≤ byte && byte ≤ 0x66)

/-- `shortenPendingAdminPasswordLocked`, with the random number of a new password. -/
def shortenPendingAdminPassword (environment : Environment) (secret : Nat)
    (config : Config Credit) : Config Credit :=
  if !config.firstRunPasswordPending || environment.adminPassword != [] ||
      config.password.length != 48 then config
  else if config.password.all isHexDigit then
    { config with password := generateAdminPassword secret }
  else config

variable [JsonAmount Credit]

/-- `json.Marshal` of a configuration, which fails on an amount that is not finite. -/
def marshalConfig (config : Config Credit) : Option (JsonDocument Credit) :=
  if (configAmounts config).all JsonAmount.finite then some (configFormat.write config)
  else none

/-- `Load` of a stored row. -/
def load (environment : Environment) (secret : Nat) (row : JsonDocument Credit) :
    Option (Config Credit) :=
  (configFormat.read row).map (shortenPendingAdminPassword environment secret)

end Settings

section Payloads

variable {Credit : Type}

def backupFormatName : GoString := lit "kiro-proxy-backup"

def backupVersion : Int := 1

structure BackupPayload (Credit : Type) where
  format : GoString
  version : Int
  createdAt : Int
  config : Config Credit
  credentialsLoaded : Bool
  credentials : List (StoredAccount Credit)

structure ParsedBackup (Credit : Type) where
  config : Config Credit
  credentialsLoaded : Bool
  credentials : List (StoredAccount Credit)

inductive PayloadField where
  | format | version | createdAt | config | credentialsLoaded | credentials
  deriving DecidableEq

def PayloadField.tag : PayloadField → GoString
  | .format => lit "format"
  | .version => lit "version"
  | .createdAt => lit "createdAt"
  | .config => lit "config"
  | .credentialsLoaded => lit "credentialsLoaded"
  | .credentials => lit "credentials"

/-- What a file holds, as `encoding/json` has it: whether it is JSON at all, the format its
envelope names, and the payload; a cause where it cannot be read. -/
structure BackupFile (Credit : Type) where
  valid : Bool
  envelope : Except GoString GoString
  payload : Except GoString (BackupPayload Credit)

/-- A `BackupFileError`. -/
inductive BackupFault where
  | invalidJSON
  | envelopeUnread (cause : GoString)
  | unsupportedFormat
  | payloadUnread (cause : GoString)
  | unsupportedVersion (version : Int)
  | missingPassword
  | invalidPort
  | missingHost
  | missingID (index : Nat)
  deriving DecidableEq

def BackupFault.code : BackupFault → GoString
  | .invalidJSON | .envelopeUnread _ | .payloadUnread _ => lit "backup_invalid_json"
  | .unsupportedFormat => lit "backup_unsupported_format"
  | .unsupportedVersion _ => lit "backup_unsupported_version"
  | .missingPassword | .invalidPort | .missingHost | .missingID _ =>
      lit "backup_schema_mismatch"

def BackupFault.message : BackupFault → GoString
  | .invalidJSON => lit "backup content is not valid JSON"
  | .envelopeUnread cause => lit "backup JSON parse failed: " ++ cause
  | .unsupportedFormat => lit "unsupported backup format: expected " ++ backupFormatName
  | .payloadUnread cause => lit "backup envelope parse failed: " ++ cause
  | .unsupportedVersion version => lit "unsupported backup version: " ++ lit (toString version)
  | .missingPassword => lit "backup schema mismatch: missing password"
  | .invalidPort => lit "backup schema mismatch: invalid port"
  | .missingHost => lit "backup schema mismatch: missing host"
  | .missingID index => lit "credential " ++ decimal index ++ lit " missing id"

/-- `validateRestoredConfig`. -/
def validateRestoredConfig (config : Config Credit) : Option BackupFault :=
  if config.password = [] then some .missingPassword
  else if config.port ≤ 0 ∨ 65535 < config.port then some .invalidPort
  else if config.host = [] then some .missingHost
  else none

/-- The first credential without an id. -/
def missingID (credentials : List (StoredAccount Credit)) : Option Nat :=
  credentials.findIdx? fun account => account.id == []

/-- `parseBackupData`. -/
def parseBackupData (file : BackupFile Credit) : Except BackupFault (ParsedBackup Credit) :=
  if !file.valid then .error .invalidJSON
  else match file.envelope with
    | .error cause => .error (.envelopeUnread cause)
    | .ok format =>
        if format ≠ backupFormatName then .error .unsupportedFormat
        else match file.payload with
          | .error cause => .error (.payloadUnread cause)
          | .ok payload =>
              if payload.version ≠ backupVersion then
                .error (.unsupportedVersion payload.version)
              else match validateRestoredConfig payload.config with
                | some fault => .error fault
                | none =>
                    match if payload.credentialsLoaded then missingID payload.credentials
                      else none with
                    | some index => .error (.missingID index)
                    | none =>
                        .ok ⟨payload.config, payload.credentialsLoaded, payload.credentials⟩

/-- The configuration `writeRestoredConfig` puts in place of the current one. -/
def restoredConfig (environment : Environment) (config : Config Credit) : Config Credit :=
  { config with
    firstRunPasswordPending := false
    password :=
      if environment.adminPassword = [] then config.password else environment.adminPassword }

def restoredMemory (environment : Environment) (parsed : ParsedBackup Credit) :
    Memory Credit :=
  ⟨restoredConfig environment parsed.config, parsed.credentialsLoaded, parsed.credentials⟩

/-- The payload `currentBackupData` takes of the memory. -/
def currentPayload (memory : Memory Credit) (createdAt : Int) : BackupPayload Credit where
  format := backupFormatName
  version := backupVersion
  createdAt := createdAt
  config := get memory.config
  credentialsLoaded := memory.credentialsLoaded
  credentials := if memory.credentialsLoaded then memory.credentials else []

variable [JsonAmount Credit]

def payloadMember (payload : BackupPayload Credit) : PayloadField → Option (JsonDocument Credit)
  | .format => required text payload.format
  | .version => required whole payload.version
  | .createdAt => required whole payload.createdAt
  | .config => required configFormat payload.config
  | .credentialsLoaded => required boolean payload.credentialsLoaded
  | .credentials => omitting List.isEmpty (listOf accountFormat) payload.credentials

def collectPayload (member : PayloadField → Option (JsonDocument Credit)) :
    Option (BackupPayload Credit) := do
  let format ← readMember text (member .format)
  let version ← readMember whole (member .version)
  let createdAt ← readMember whole (member .createdAt)
  let config ← readMember configFormat (member .config)
  let credentialsLoaded ← readMember boolean (member .credentialsLoaded)
  let credentials ← readMember (listOf accountFormat) (member .credentials)
  some ⟨format, version, createdAt, config, credentialsLoaded, credentials⟩

def payloadFormat : JsonFormat Credit (BackupPayload Credit) :=
  RecordFormat.format
    { fields := [.format, .version, .createdAt, .config, .credentialsLoaded, .credentials]
      complete := by intro field; cases field <;> decide
      tag := PayloadField.tag
      distinct := by decide
      member := payloadMember
      collect := collectPayload }

def payloadAmounts (payload : BackupPayload Credit) : List Credit :=
  configAmounts payload.config ++ payload.credentials.flatMap accountAmounts

/-- `currentBackupData`, which fails on an amount that is not finite. -/
def currentBackupData (memory : Memory Credit) (createdAt : Int) :
    Option (JsonDocument Credit) :=
  let payload := currentPayload memory createdAt
  if (payloadAmounts payload).all JsonAmount.finite then some (payloadFormat.write payload)
  else none

/-- A file that holds a document with the payload's members. -/
def fileOf (document : JsonDocument Credit) : BackupFile Credit where
  valid := true
  envelope := ((payloadFormat.read document).map BackupPayload.format).elim (.error []) .ok
  payload := (payloadFormat.read document).elim (.error []) .ok

/-- A payload is read back with its texts as they are written. -/
theorem payload_keeps :
    (payloadFormat : JsonFormat Credit (BackupPayload Credit)).Keeps fun payload =>
      { payload with
        format := coerceText payload.format
        config := mapConfigTexts coerceText (get payload.config)
        credentials := payload.credentials.map (mapAccountTexts coerceText) } := by
  intro payload
  unfold payloadFormat
  rw [record_read_write]
  simp only [collectPayload, payloadMember, read_text, read_whole, read_boolean,
    read_required configFormat _ config_keeps, read_omitting_list _ _ account_keeps]
  rfl

end Payloads

section Reading

variable {Credit : Type}

theorem appended_twice (mappings : Option (List ModelMappingRule)) :
    appendToNil (appendToNil mappings) = appendToNil mappings := by
  cases mappings with
  | none => rfl
  | some rules => cases rules <;> rfl

theorem appended_rules (mappings : Option (List ModelMappingRule)) :
    (appendToNil mappings).getD [] = mappings.getD [] := by
  cases mappings with
  | none => rfl
  | some rules => cases rules <;> rfl

theorem appended_iff (mappings : Option (List ModelMappingRule)) :
    appendToNil mappings = mappings ↔ mappings ≠ some [] := by
  cases mappings with
  | none => simp [appendToNil]
  | some rules => cases rules <;> simp [appendToNil]

/-- The texts of a copy are those of the configuration. -/
theorem get_texts (config : Config Credit) : configTexts (get config) = configTexts config := by
  unfold configTexts get
  rw [appended_rules]

theorem valid_texts_iff (config : Config Credit) :
    mapConfigTexts coerceText (get config) = get config ↔
      ∀ text ∈ configTexts config, validText text = true := by
  rw [config_texts_iff, get_texts]
  simp only [coerce_text_iff]

theorem get_read (f : GoString → GoString) (config : Config Credit) :
    get (mapConfigTexts f (get config)) = mapConfigTexts f (get config) := by
  have rules : appendToNil ((appendToNil config.modelMappings).map (List.map (mapMappingTexts f))) =
      (appendToNil config.modelMappings).map (List.map (mapMappingTexts f)) := by
    match config.modelMappings with
    | none => rfl
    | some [] => rfl
    | some (rule :: rules) => rfl
  unfold get mapConfigTexts
  simp only
  rw [rules]

theorem generated_valid (secret : Nat) :
    coerceText (generateAdminPassword secret) = generateAdminPassword secret := by
  rw [coerce_text_iff]
  apply JsonText.ascii_valid
  intro byte member
  obtain ⟨place, _, rfl⟩ := List.mem_map.mp member
  have small : secret / 10 ^ place % 10 < 10 := Nat.mod_lt _ (by decide)
  generalize secret / 10 ^ place % 10 = digit at small
  revert digit
  decide

/-- The getters answer the same of what is read back exactly where every text is valid and
the mappings are not an empty list. -/
theorem answers_read_iff (environment : Environment) (memory : Memory Credit) :
    answers environment
        { memory with config := mapConfigTexts coerceText (get memory.config) } =
      answers environment memory ↔
      (∀ text ∈ configTexts memory.config, validText text = true) ∧
        memory.config.modelMappings ≠ some [] := by
  constructor
  · intro same
    have copies : get (mapConfigTexts coerceText (get memory.config)) = get memory.config :=
      congrArg Answers.get same
    rw [get_read] at copies
    refine ⟨(valid_texts_iff memory.config).mp copies, ?_⟩
    intro emptied
    have mappings : getModelMappings (mapConfigTexts coerceText
        (get memory.config)).modelMappings = getModelMappings memory.config.modelMappings :=
      congrArg Answers.modelMappings same
    have dropped : (get memory.config).modelMappings = none := by
      change appendToNil memory.config.modelMappings = none
      rw [emptied]
      rfl
    rw [copies, dropped, emptied] at mappings
    exact absurd mappings (List.cons_ne_nil _ _)
  · intro kept
    have whole : get memory.config = memory.config := by
      unfold get
      rw [(appended_iff memory.config.modelMappings).mpr kept.2]
    rw [(valid_texts_iff memory.config).mpr kept.1, whole]

end Reading

section Routes

variable {Credit : Type} [JsonAmount Credit]

/-- The configuration is saved, and every getter answers the same once it is loaded. -/
def LoadKeeps (environment : Environment) (secret : Nat) (memory : Memory Credit) : Prop :=
  ∃ row config, marshalConfig memory.config = some row ∧
    load environment secret row = some config ∧
    answers environment { memory with config := config } = answers environment memory

/-- A backup is taken, and every getter answers the same once it is restored, up to the
password of the environment and the first-run flag. -/
def RestoreKeeps (environment : Environment) (createdAt : Int) (memory : Memory Credit) : Prop :=
  ∃ document parsed, currentBackupData memory createdAt = some document ∧
    parseBackupData (fileOf document) = .ok parsed ∧
    answers environment (restoredMemory environment parsed) =
      answers environment
        { memory with config := restoredConfig environment memory.config }

/-- What can be written, and is not read back as something else: the mappings are not an
empty list, texts are valid, amounts are finite, and credentials in use have an id. -/
structure Persistable (memory : Memory Credit) : Prop where
  mappings : memory.config.modelMappings ≠ some []
  texts : ∀ text ∈ configTexts memory.config, validText text = true
  amounts : ∀ amount ∈ configAmounts memory.config, JsonAmount.finite amount = true
  credentials : memory.credentialsLoaded = true → ∀ credential ∈ memory.credentials,
    credential.id ≠ [] ∧ (∀ text ∈ accountTexts credential, validText text = true) ∧
      ∀ amount ∈ accountAmounts credential, JsonAmount.finite amount = true

omit [JsonAmount Credit] in
/-- A password that is pending is not one of the former generator. -/
theorem shorten_kept (environment : Environment) (secret : Nat) (config : Config Credit)
    (kept : Kept config) :
    shortenPendingAdminPassword environment secret (mapConfigTexts coerceText (get config)) =
      mapConfigTexts coerceText (get config) := by
  apply if_pos
  cases pending : config.firstRunPasswordPending with
  | false =>
      have off : (mapConfigTexts coerceText (get config)).firstRunPasswordPending = false :=
        pending
      rw [off]
      rfl
  | true =>
      obtain ⟨generated, same⟩ := kept.pending pending
      have password : (mapConfigTexts coerceText (get config)).password.length = 8 := by
        change (coerceText config.password).length = 8
        rw [same, generated_valid, generated_length]
      rw [password]
      simp

theorem load_keeps_iff (environment : Environment) (secret : Nat) (memory : Memory Credit)
    (kept : Kept memory.config) :
    LoadKeeps environment secret memory ↔
      (∀ amount ∈ configAmounts memory.config, JsonAmount.finite amount = true) ∧
      (∀ text ∈ configTexts memory.config, validText text = true) ∧
        memory.config.modelMappings ≠ some [] := by
  have loaded : load environment secret (configFormat.write memory.config) =
      some (mapConfigTexts coerceText (get memory.config)) := by
    unfold load
    rw [config_keeps memory.config, Option.map_some, shorten_kept environment secret _ kept]
  rw [← List.all_eq_true]
  constructor
  · rintro ⟨row, config, saved, read, same⟩
    unfold marshalConfig at saved
    split_ifs at saved with finite
    rw [← Option.some.inj saved, loaded] at read
    rw [← Option.some.inj read] at same
    exact ⟨finite, (answers_read_iff environment memory).mp same⟩
  · rintro ⟨finite, readable⟩
    exact ⟨_, _, if_pos finite, loaded, (answers_read_iff environment memory).mpr readable⟩

omit [JsonAmount Credit] in
theorem missing_id_none (credentials : List (StoredAccount Credit)) :
    missingID (credentials.map (mapAccountTexts coerceText)) = none ↔
      ∀ credential ∈ credentials, credential.id ≠ [] := by
  unfold missingID
  rw [List.findIdx?_eq_none_iff]
  simp only [List.forall_mem_map]
  apply forall₂_congr
  intro credential _
  have same : (mapAccountTexts coerceText credential).id = coerceText credential.id := rfl
  rw [same, beq_eq_false_iff_ne, ne_eq, coerce_text_empty]

omit [JsonAmount Credit] in
theorem validate_kept (config : Config Credit) (kept : Kept config) :
    validateRestoredConfig (mapConfigTexts coerceText (get config)) = none := by
  have password : (mapConfigTexts coerceText (get config)).password ≠ [] := by
    change coerceText config.password ≠ []
    rw [ne_eq, coerce_text_empty]
    exact kept.password
  have host : (mapConfigTexts coerceText (get config)).host ≠ [] := by
    change coerceText config.host ≠ []
    rw [ne_eq, coerce_text_empty]
    exact kept.host
  have port : ¬((mapConfigTexts coerceText (get config)).port ≤ 0 ∨
      65535 < (mapConfigTexts coerceText (get config)).port) := by
    change ¬(config.port ≤ 0 ∨ 65535 < config.port)
    have inside := kept.port
    omega
  unfold validateRestoredConfig
  rw [if_neg password, if_neg port, if_neg host]

/-- What a backup of the memory is parsed as, by the first credential without an id. -/
theorem parse_written (memory : Memory Credit) (createdAt : Int) (kept : Kept memory.config)
    (missing : Option Nat)
    (first : (if memory.credentialsLoaded then
      missingID ((currentPayload memory createdAt).credentials.map (mapAccountTexts coerceText))
      else none) = missing) :
    parseBackupData (fileOf (payloadFormat.write (currentPayload memory createdAt))) =
      missing.elim (.ok ⟨mapConfigTexts coerceText (get memory.config), memory.credentialsLoaded,
        (currentPayload memory createdAt).credentials.map (mapAccountTexts coerceText)⟩)
        fun index => .error (.missingID index) := by
  have read := payload_keeps (currentPayload memory createdAt)
  have format : coerceText backupFormatName = backupFormatName := by decide
  have twice : get (get memory.config) = get memory.config := by
    unfold get
    simp only [appended_twice]
  have valid := validate_kept memory.config kept
  unfold parseBackupData fileOf
  rw [read]
  simp only [currentPayload, Option.map_some, Option.elim_some, Bool.not_true, Bool.false_eq_true,
    if_false, format, ne_eq, not_true_eq_false, twice, valid] at first ⊢
  rw [first]
  cases missing with
  | none => rfl
  | some index => rfl

/-- What a restore that keeps the answers has read: amounts that could be written,
credentials with ids, and the memory with its texts as they are written. -/
theorem restore_keeps_reads (environment : Environment) (createdAt : Int)
    (memory : Memory Credit) (kept : Kept memory.config)
    (keeps : RestoreKeeps environment createdAt memory) :
    (∀ amount ∈ payloadAmounts (currentPayload memory createdAt),
      JsonAmount.finite amount = true) ∧
    (memory.credentialsLoaded = true → missingID
      ((currentPayload memory createdAt).credentials.map (mapAccountTexts coerceText)) = none) ∧
    answers environment (restoredMemory environment
        ⟨mapConfigTexts coerceText (get memory.config), memory.credentialsLoaded,
          (currentPayload memory createdAt).credentials.map (mapAccountTexts coerceText)⟩) =
      answers environment
        { memory with config := restoredConfig environment memory.config } := by
  obtain ⟨document, parsed, taken, accepted, same⟩ := keeps
  unfold currentBackupData at taken
  simp only at taken
  split_ifs at taken with finite
  have read := parse_written memory createdAt kept _ rfl
  rw [Option.some.inj taken, accepted] at read
  have ids : (if memory.credentialsLoaded then
      missingID ((currentPayload memory createdAt).credentials.map (mapAccountTexts coerceText))
      else none) = none := by
    by_contra found
    obtain ⟨index, missing⟩ := Option.ne_none_iff_exists'.mp found
    rw [missing] at read
    exact absurd read (by simp)
  rw [ids] at read
  rw [Except.ok.inj read] at same
  exact ⟨List.all_eq_true.mp finite, fun loaded => by rw [← ids, if_pos loaded], same⟩

theorem restore_keeps_mappings (environment : Environment) (createdAt : Int)
    (memory : Memory Credit) (kept : Kept memory.config)
    (keeps : RestoreKeeps environment createdAt memory) :
    memory.config.modelMappings ≠ some [] := by
  intro emptied
  have read := (restore_keeps_reads environment createdAt memory kept keeps).2.2
  have mappings : getModelMappings (mapConfigTexts coerceText (get memory.config)).modelMappings =
      getModelMappings memory.config.modelMappings := congrArg Answers.modelMappings read
  have dropped : (mapConfigTexts coerceText (get memory.config)).modelMappings = none := by
    change (appendToNil memory.config.modelMappings).map _ = none
    rw [emptied]
    rfl
  rw [dropped, emptied] at mappings
  exact absurd mappings (List.cons_ne_nil _ _)

/-- The credentials a backup holds and restores. -/
theorem restore_keeps_credentials (environment : Environment) (createdAt : Int)
    (memory : Memory Credit) (kept : Kept memory.config)
    (keeps : RestoreKeeps environment createdAt memory)
    (loaded : memory.credentialsLoaded = true) : ∀ credential ∈ memory.credentials,
    credential.id ≠ [] ∧ (∀ text ∈ accountTexts credential, validText text = true) ∧
      ∀ amount ∈ accountAmounts credential, JsonAmount.finite amount = true := by
  obtain ⟨finite, ids, same⟩ := restore_keeps_reads environment createdAt memory kept keeps
  have held : (currentPayload memory createdAt).credentials = memory.credentials := if_pos loaded
  have accounts := congrArg Answers.accounts same
  have texts : memory.credentials.map (mapAccountTexts coerceText) = memory.credentials := by
    simpa [answers, getAccounts, restoredMemory, loaded, held] using accounts
  rw [map_rows_iff (mapAccountTexts coerceText) coerceText accountTexts
    (account_texts_iff coerceText)] at texts
  rw [held] at ids
  intro credential member
  refine ⟨(missing_id_none memory.credentials).mp (ids loaded) credential member, ?_, ?_⟩
  · intro text inside
    exact (coerce_text_iff text).mp (texts text (List.mem_flatMap.mpr ⟨credential, member, inside⟩))
  · intro amount inside
    apply finite amount
    unfold payloadAmounts
    rw [held]
    exact List.mem_append_right _ (List.mem_flatMap.mpr ⟨credential, member, inside⟩)

theorem restore_keeps (environment : Environment) (createdAt : Int) (memory : Memory Credit)
    (kept : Kept memory.config) (persistable : Persistable memory) :
    RestoreKeeps environment createdAt memory := by
  have copy : get memory.config = memory.config := by
    unfold get
    rw [(appended_iff memory.config.modelMappings).mpr persistable.mappings]
  have config : mapConfigTexts coerceText (get memory.config) = memory.config := by
    rw [(valid_texts_iff memory.config).mpr persistable.texts, copy]
  have finite : (payloadAmounts (currentPayload memory createdAt)).all JsonAmount.finite = true := by
    rw [List.all_eq_true]
    unfold payloadAmounts currentPayload
    rw [List.forall_mem_append, copy]
    refine ⟨persistable.amounts, ?_⟩
    simp only [List.forall_mem_flatMap]
    split_ifs with loaded
    · exact fun credential member => (persistable.credentials loaded credential member).2.2
    · exact fun credential member => absurd member List.not_mem_nil
  have texts : (currentPayload memory createdAt).credentials.map (mapAccountTexts coerceText) =
      (currentPayload memory createdAt).credentials := by
    rw [map_rows_iff (mapAccountTexts coerceText) coerceText accountTexts
      (account_texts_iff coerceText)]
    simp only [List.forall_mem_flatMap, coerce_text_iff]
    unfold currentPayload
    simp only
    split_ifs with loaded
    · exact fun credential member => (persistable.credentials loaded credential member).2.1
    · exact fun credential member => absurd member List.not_mem_nil
  have ids : (if memory.credentialsLoaded then
      missingID ((currentPayload memory createdAt).credentials.map (mapAccountTexts coerceText))
      else none) = none := by
    unfold currentPayload
    simp only
    split_ifs with loaded
    · rw [missing_id_none]
      exact fun credential member => (persistable.credentials loaded credential member).1
    · rfl
  have read := parse_written memory createdAt kept none ids
  rw [config, texts] at read
  refine ⟨_, _, if_pos finite, read, ?_⟩
  -- Credentials that are not in use are not backed up, and no getter reads them.
  obtain ⟨config, loaded, credentials⟩ := memory
  cases loaded with
  | true => rfl
  | false => rfl

/-- Saving and loading, and a backup and its restore, keep what every getter answers exactly
where the memory can be persisted. -/
theorem routes_keep_iff (environment : Environment) (secret : Nat) (createdAt : Int)
    (memory : Memory Credit) (kept : Kept memory.config) :
    LoadKeeps environment secret memory ∧ RestoreKeeps environment createdAt memory ↔
      Persistable memory := by
  rw [load_keeps_iff environment secret memory kept]
  constructor
  · rintro ⟨⟨amounts, texts, mappings⟩, restored⟩
    exact ⟨mappings, texts, amounts, fun loaded =>
      restore_keeps_credentials environment createdAt memory kept restored loaded⟩
  · intro persistable
    exact ⟨⟨persistable.amounts, persistable.texts, persistable.mappings⟩,
      restore_keeps environment createdAt memory kept persistable⟩

end Routes

section Runs

variable {Credit : Type} [JsonAmount Credit]

/-- What changes the configuration: a setter, a restart that loads what was saved, and a
restore. -/
inductive Change (Credit : Type) where
  | setter (setter : Setter Credit)
  | restart (environment : Environment) (secret : Nat)
  | restore (environment : Environment) (file : BackupFile Credit)

def reloaded (environment : Environment) (secret : Nat) (config : Config Credit) :
    Option (Config Credit) :=
  (marshalConfig config).bind (load environment secret)

/-- A restart or a restore that fails changes nothing. -/
def Memory.changed (letters : Letters) (quote : GoString → GoString) (memory : Memory Credit) :
    Change Credit → Memory Credit
  | .setter setter => memory.apply letters quote setter
  | .restart environment secret =>
      { memory with config := (reloaded environment secret memory.config).getD memory.config }
  | .restore environment file =>
      match parseBackupData file with
      | .error _ => memory
      | .ok parsed => restoredMemory environment parsed

/-- The memory of a first run. -/
def firstMemory (environment : Environment) (secret : Nat) : Memory Credit :=
  ⟨firstRun environment secret, false, []⟩

def reached (letters : Letters) (quote : GoString → GoString) (environment : Environment)
    (secret : Nat) (changes : List (Change Credit)) : Memory Credit :=
  run (Memory.changed letters quote) (firstMemory environment secret) changes

theorem reloaded_kept (environment : Environment) (secret : Nat) (config : Config Credit)
    (kept : Kept config) : Kept ((reloaded environment secret config).getD config) := by
  unfold reloaded marshalConfig
  split_ifs with finite
  · rw [Option.bind_some, load, config_keeps config, Option.map_some, Option.getD_some,
      shorten_kept environment secret config kept]
    refine ⟨?_, kept.port, ?_, ?_⟩
    · change coerceText config.password ≠ []
      rw [ne_eq, coerce_text_empty]
      exact kept.password
    · change coerceText config.host ≠ []
      rw [ne_eq, coerce_text_empty]
      exact kept.host
    · intro pending
      obtain ⟨generated, same⟩ := kept.pending pending
      refine ⟨generated, ?_⟩
      change coerceText config.password = _
      rw [same, generated_valid]
  · exact kept

omit [JsonAmount Credit] in
/-- What an accepted file is restored as: a payload that has been checked. -/
theorem parse_accepted (file : BackupFile Credit) (parsed : ParsedBackup Credit)
    (accepted : parseBackupData file = .ok parsed) :
    ∃ payload, file.payload = .ok payload ∧ validateRestoredConfig payload.config = none ∧
      parsed = ⟨payload.config, payload.credentialsLoaded, payload.credentials⟩ := by
  unfold parseBackupData at accepted
  split_ifs at accepted with valid
  cases envelope : file.envelope with
  | error cause => simp [envelope] at accepted
  | ok format =>
      simp only [envelope] at accepted
      split_ifs at accepted with named
      cases held : file.payload with
      | error cause => simp [held] at accepted
      | ok payload =>
          simp only [held] at accepted
          have version : payload.version = backupVersion := by
            by_contra other
            rw [if_pos other] at accepted
            cases accepted
          rw [if_neg (not_not.mpr version)] at accepted
          cases checked : validateRestoredConfig payload.config with
          | some fault => simp [checked] at accepted
          | none =>
              refine ⟨payload, rfl, checked, ?_⟩
              rw [checked] at accepted
              simp only at accepted
              cases missing : (if payload.credentialsLoaded then missingID payload.credentials
                else none) with
              | some index => simp [missing] at accepted
              | none =>
                  rw [missing] at accepted
                  exact (Except.ok.inj accepted).symm

omit [JsonAmount Credit] in
theorem restored_kept (environment : Environment) (file : BackupFile Credit)
    (parsed : ParsedBackup Credit) (accepted : parseBackupData file = .ok parsed) :
    Kept (restoredMemory environment parsed).config := by
  have valid : validateRestoredConfig parsed.config = none := by
    obtain ⟨payload, _, checked, same⟩ := parse_accepted file parsed accepted
    rw [same]
    exact checked
  unfold validateRestoredConfig at valid
  split_ifs at valid with password port host
  refine ⟨?_, ?_, host, fun pending => absurd pending Bool.false_ne_true⟩
  · change (if environment.adminPassword = [] then _ else _) ≠ []
    split_ifs with unset
    · exact password
    · exact unset
  · change 0 < parsed.config.port ∧ parsed.config.port ≤ 65535
    omega

theorem changed_kept (letters : Letters) (quote : GoString → GoString) (memory : Memory Credit)
    (change : Change Credit) (kept : Kept memory.config) :
    Kept (memory.changed letters quote change).config := by
  cases change with
  | setter setter => exact apply_kept letters quote memory setter kept
  | restart environment secret => exact reloaded_kept environment secret memory.config kept
  | restore environment file =>
      simp only [Memory.changed]
      cases accepted : parseBackupData file with
      | error fault => exact kept
      | ok parsed => exact restored_kept environment file parsed accepted

theorem reached_kept (letters : Letters) (quote : GoString → GoString)
    (environment : Environment) (secret : Nat) (changes : List (Change Credit)) :
    Kept (reached letters quote environment secret changes).config :=
  invariant_of_steps (Memory.changed letters quote) (fun memory => Kept memory.config)
    (changed_kept letters quote) _ (first_run_kept environment secret) changes

/-- After any changes, the configuration survives a restart and a restore exactly where it
can be persisted. -/
theorem persistence_iff (letters : Letters) (quote : GoString → GoString)
    (environment : Environment) (secret later : Nat) (createdAt : Int)
    (changes : List (Change Credit)) :
    LoadKeeps environment later (reached letters quote environment secret changes) ∧
        RestoreKeeps environment createdAt
          (reached letters quote environment secret changes) ↔
      Persistable (reached letters quote environment secret changes) :=
  routes_keep_iff environment later createdAt _
    (reached_kept letters quote environment secret changes)

/-- The mappings emptied on a first run: after a restart, and after a restore, the defaults
are back. -/
theorem emptied_mappings_return :
    (reached asciiLetters id ⟨[], [], []⟩ 0 [.setter (.updateModelMappings [])] :
        Memory Int).config.modelMappings = some [] ∧
      ¬LoadKeeps ⟨[], [], []⟩ 0
        (reached asciiLetters id ⟨[], [], []⟩ 0 [.setter (.updateModelMappings [])] : Memory Int) ∧
      ¬RestoreKeeps ⟨[], [], []⟩ 0
        (reached asciiLetters id ⟨[], [], []⟩ 0 [.setter (.updateModelMappings [])] : Memory Int) := by
  have kept : Kept (reached asciiLetters id ⟨[], [], []⟩ 0 [.setter (.updateModelMappings [])] :
      Memory Int).config := reached_kept _ _ _ _ _
  refine ⟨rfl, ?_, ?_⟩
  · intro keeps
    exact ((load_keeps_iff _ 0 _ kept).mp keeps).2.2 rfl
  · intro keeps
    exact restore_keeps_mappings _ 0 _ kept keeps rfl

end Runs

end KiroProxy.Configuration
