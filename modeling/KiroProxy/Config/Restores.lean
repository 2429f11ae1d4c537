import KiroProxy.Config.Backups

/-!
# Restoring a backup

`RestoreBackup` and `RestoreFromBytes` of `config/backup.go`, piece by piece as they
lock and unlock. Everything that can fail is a point with a cause: a database call
that does is its point's. A transaction works on its own copy of the rows, and only
its commit puts them in place.
-/

namespace KiroProxy.Configuration

open Foundation.Documents GoStrings
open JsonText (coerceText)

set_option autoImplicit false

/-- The rows of `settings` for the configuration and the credentials. -/
structure SettingsRows (Credit : Type) where
  config : Option (JsonDocument Credit)
  credentials : Option (JsonDocument Credit)
  credentialsLoaded : Option GoString

/-- A row of `backup_entries` with its blob. -/
structure BackupRow (Credit : Type) where
  id : GoString
  createdAt : Int
  kind : GoString
  note : GoString
  accountCnt : Nat
  restoredAccountCnt : Option Nat
  includesCredentials : Bool
  data : BackupFile Credit

structure Server (Credit : Type) where
  memory : Memory Credit
  settings : SettingsRows Credit
  backups : List (BackupRow Credit)

inductive RestorePoint where
  | openRead | readEntry | readBlob
  | openBackups | beginBackup | insertEntry | insertBlob | commitBackup
  | openPrune | queryPrune | deletePruned (id : GoString)
  | openCount | updateCount
  | openSettings | beginSettings | putConfig | putCredentials | deleteCredentials | putFlag
  | commitSettings
  deriving DecidableEq

/-- Which points fail, and why. -/
abbrev Failures := RestorePoint → Option GoString

inductive RestoreError where
  | notFound (id : GoString)
  | database (cause : GoString)
  | unsupportedValue
  | file (fault : BackupFault)
  | snapshot (cause : RestoreError)
  | restoreCount (cause : RestoreError)

def RestoreError.message : RestoreError → GoString
  | .notFound id => lit "backup not found: " ++ id
  | .database cause => cause
  | .unsupportedValue => lit "json: unsupported value"
  | .file fault => fault.message
  | .snapshot cause => lit "pre-restore snapshot failed: " ++ cause.message
  | .restoreCount cause => lit "pre-restore restore count failed: " ++ cause.message

/-- What one call is given: its environment, what fails, the times of the snapshot and of
the row, and the id of the row. -/
structure RestoreCall where
  environment : Environment
  fails : Failures
  createdAt : Int
  now : Int
  id : GoString

def attempt (fails : Failures) (point : RestorePoint) : Except RestoreError Unit :=
  match fails point with
  | none => .ok ()
  | some cause => .error (.database cause)

theorem attempt_ok (fails : Failures) (point : RestorePoint) :
    attempt fails point = .ok () ↔ fails point = none := by
  unfold attempt
  cases fails point with
  | none => simp
  | some cause => simp

/-- Past a point, nothing has failed there. -/
theorem attempt_bind {Result : Type} (fails : Failures) (point : RestorePoint)
    (next : Unit → Except RestoreError Result) (result : Result) :
    (attempt fails point >>= next) = .ok result ↔
      fails point = none ∧ next () = .ok result := by
  unfold attempt
  cases fails point with
  | none => exact ⟨fun passed => ⟨rfl, passed⟩, fun passed => passed.2⟩
  | some cause => simp [bind, Except.bind]

section Pieces

variable {Credit : Type}

def backupHasId (id : GoString) (row : BackupRow Credit) : Bool := row.id == id

/-- `readBackupBytesLocked`. -/
def readBackupBytes (fails : Failures) (server : Server Credit) (id : GoString) :
    Except RestoreError (BackupRow Credit) := do
  attempt fails .openRead
  attempt fails .readEntry
  match server.backups.find? (backupHasId id) with
  | none => .error (.notFound id)
  | some row => do
      attempt fails .readBlob
      .ok row

def autoKind : GoString := lit "auto"

def preRestoreKind : GoString := lit "pre-restore"

def maxAutoKeep : Int := 20

/-- `ORDER BY created_at DESC, id DESC`. -/
def newer (row other : BackupRow Credit) : Bool :=
  decide (row.createdAt < other.createdAt) ||
    row.createdAt == other.createdAt && decide (row.id < other.id)

/-- `pruneAutoBackups`, the errors of which nobody looks at: where the query fails every row
stays, and a row stays where its own deletion fails. -/
def pruneAutoBackups (fails : Failures) (keep : Int) (backups : List (BackupRow Credit)) :
    List (BackupRow Credit) :=
  let keep := if keep ≤ 0 then maxAutoKeep else keep
  if (fails .openPrune).isSome || (fails .queryPrune).isSome then backups
  else
    backups.filter fun row => row.kind != autoKind || (fails (.deletePruned row.id)).isSome ||
      decide ((backups.countP fun other => other.kind == autoKind && newer row other : Int) < keep)

theorem pruned_sublist (fails : Failures) (keep : Int) (backups : List (BackupRow Credit)) :
    List.Sublist (pruneAutoBackups fails keep backups) backups := by
  unfold pruneAutoBackups
  cases (fails .openPrune).isSome || (fails .queryPrune).isSome with
  | true => exact List.Sublist.refl _
  | false => exact List.filter_sublist

/-- Rows of other kinds are never pruned. -/
theorem prune_spares (fails : Failures) (keep : Int) (backups : List (BackupRow Credit))
    (row : BackupRow Credit) (other : row.kind ≠ autoKind) (member : row ∈ backups) :
    row ∈ pruneAutoBackups fails keep backups := by
  unfold pruneAutoBackups
  cases (fails .openPrune).isSome || (fails .queryPrune).isSome with
  | true => exact member
  | false => exact List.mem_filter.mpr ⟨member, by simp [other]⟩

/-- The transaction of `createBackupLocked`. An id is the primary key. -/
def insertBackup (fails : Failures) (backups : List (BackupRow Credit))
    (row : BackupRow Credit) : Except RestoreError (List (BackupRow Credit)) := do
  attempt fails .openBackups
  attempt fails .beginBackup
  attempt fails .insertEntry
  if backups.any (backupHasId row.id) then
    .error (.database (lit "UNIQUE constraint failed: backup_entries.id"))
  attempt fails .insertBlob
  attempt fails .commitBackup
  .ok (backups ++ [row])

def createBackupLocked (fails : Failures) (server : Server Credit) (row : BackupRow Credit)
    (autoKeep : Int) : Except RestoreError (BackupRow Credit) × Server Credit :=
  match insertBackup fails server.backups row with
  | .error err => (.error err, server)
  | .ok backups => (.ok row, { server with backups := pruneAutoBackups fails autoKeep backups })

def setRestoredAccountCnt (fails : Failures) (server : Server Credit) (id : GoString)
    (count : Nat) : Except RestoreError Unit × Server Credit :=
  match attempt fails .openCount >>= fun _ => attempt fails .updateCount with
  | .error err => (.error err, server)
  | .ok () =>
      if server.backups.any (backupHasId id) then
        (.ok (), { server with
          backups := server.backups.map fun row =>
            if row.id = id then { row with restoredAccountCnt := some count } else row })
      else (.error (.notFound id), server)

def restoredAccountCount (parsed : ParsedBackup Credit) : Nat :=
  if parsed.credentialsLoaded then parsed.credentials.length
  else parsed.config.accounts.length

variable [JsonAmount Credit]

/-- The row of a backup with the data of a snapshot. -/
def backupRow (call : RestoreCall) (memory : Memory Credit) (kind note : GoString)
    (data : JsonDocument Credit) : BackupRow Credit where
  id := call.id
  createdAt := call.now
  kind := kind
  note := note
  accountCnt := (getAccounts memory).length
  restoredAccountCnt := none
  includesCredentials := memory.credentialsLoaded
  data := fileOf data

def autoKeep (config : Config Credit) : Int :=
  if 0 < config.backup.autoKeep then config.backup.autoKeep else maxAutoKeep

/-- `CreateBackup`: the snapshot, then the row. -/
def createBackup (call : RestoreCall) (server : Server Credit) (kind note : GoString) :
    Except RestoreError (BackupRow Credit) × Server Credit :=
  match currentBackupData server.memory call.createdAt with
  | none => (.error .unsupportedValue, server)
  | some data =>
      createBackupLocked call.fails server (backupRow call server.memory kind note data)
        (autoKeep server.memory.config)

/-- The transaction of `writeRestoredConfig`; without credentials their row is deleted. -/
def writeSettings (fails : Failures) (rows : SettingsRows Credit) (config : JsonDocument Credit)
    (credentials : Option (JsonDocument Credit)) : Except RestoreError (SettingsRows Credit) := do
  attempt fails .openSettings
  attempt fails .beginSettings
  attempt fails .putConfig
  let rows := { rows with config := some config }
  match credentials with
  | some data => do
      attempt fails .putCredentials
      let rows := { rows with credentials := some data }
      attempt fails .putFlag
      let rows := { rows with credentialsLoaded := some (lit "1") }
      attempt fails .commitSettings
      .ok rows
  | none => do
      attempt fails .deleteCredentials
      let rows := { rows with credentials := none }
      attempt fails .putFlag
      let rows := { rows with credentialsLoaded := some (lit "0") }
      attempt fails .commitSettings
      .ok rows

def marshalCredentials (credentials : List (StoredAccount Credit)) :
    Option (JsonDocument Credit) :=
  if (credentials.flatMap accountAmounts).all JsonAmount.finite then
    some ((listOf accountFormat).write credentials)
  else none

/-- `writeRestoredConfig`: the memory follows the commit, under both locks. -/
def writeRestoredConfig (environment : Environment) (fails : Failures) (server : Server Credit)
    (parsed : ParsedBackup Credit) : Except RestoreError Unit × Server Credit :=
  match marshalConfig (restoredConfig environment parsed.config) with
  | none => (.error .unsupportedValue, server)
  | some config =>
      match marshalCredentials parsed.credentials with
      | none => (.error .unsupportedValue, server)
      | some credentials =>
          match writeSettings fails server.settings config
              (if parsed.credentialsLoaded then some credentials else none) with
          | .error err => (.error err, server)
          | .ok rows =>
              (.ok (), { server with
                memory := restoredMemory environment parsed
                settings := rows })

/-- What `RestoreBackup` and `RestoreFromBytes` do with a parsed backup. -/
def restoreParsed (call : RestoreCall) (server : Server Credit) (parsed : ParsedBackup Credit)
    (note : GoString) : Except RestoreError Unit × Server Credit :=
  match createBackup call server preRestoreKind note with
  | (.error err, server) => (.error (.snapshot err), server)
  | (.ok preRestore, server) =>
      match setRestoredAccountCnt call.fails server preRestore.id
          (restoredAccountCount parsed) with
      | (.error err, server) => (.error (.restoreCount err), server)
      | (.ok (), server) => writeRestoredConfig call.environment call.fails server parsed

def restoreFromBytes (call : RestoreCall) (server : Server Credit) (file : BackupFile Credit)
    (note : GoString) : Except RestoreError Unit × Server Credit :=
  match parseBackupData file with
  | .error fault => (.error (.file fault), server)
  | .ok parsed => restoreParsed call server parsed (lit "upload " ++ note)

def restoreBackup (call : RestoreCall) (server : Server Credit) (id : GoString) :
    Except RestoreError Unit × Server Credit :=
  match readBackupBytes call.fails server id with
  | .error err => (.error err, server)
  | .ok target =>
      match parseBackupData target.data with
      | .error fault => (.error (.file fault), server)
      | .ok parsed => restoreParsed call server parsed (lit "auto before restore " ++ target.id)

end Pieces

section Outcomes

variable {Credit : Type}

/-- What a restore leaves the stores that hold the configuration and the credentials. -/
def SameStores (before after : Server Credit) : Prop :=
  after.memory = before.memory ∧ after.settings = before.settings

def backupPoints : List RestorePoint :=
  [.openBackups, .beginBackup, .insertEntry, .insertBlob, .commitBackup]

def settingsPoints (loaded : Bool) : List RestorePoint :=
  [.openSettings, .beginSettings, .putConfig,
    if loaded then .putCredentials else .deleteCredentials, .putFlag, .commitSettings]

theorem read_backup_ok (fails : Failures) (server : Server Credit) (id : GoString)
    (row : BackupRow Credit) (read : readBackupBytes fails server id = .ok row) :
    server.backups.find? (backupHasId id) = some row ∧
      ∀ point ∈ [RestorePoint.openRead, .readEntry, .readBlob], fails point = none := by
  unfold readBackupBytes at read
  simp only [attempt_bind] at read
  obtain ⟨opened, entry, found⟩ := read
  cases held : server.backups.find? (backupHasId id) with
  | none => simp [held] at found
  | some target =>
      rw [held] at found
      simp only [attempt_bind] at found
      simp [opened, entry, found.1, Except.ok.inj found.2]

theorem insert_backup_ok (fails : Failures) (backups : List (BackupRow Credit))
    (row : BackupRow Credit) (inserted : List (BackupRow Credit))
    (done : insertBackup fails backups row = .ok inserted) :
    inserted = backups ++ [row] ∧ backups.any (backupHasId row.id) = false ∧
      ∀ point ∈ backupPoints, fails point = none := by
  unfold insertBackup at done
  simp only [attempt_bind] at done
  obtain ⟨opened, begun, entry, rest⟩ := done
  cases taken : backups.any (backupHasId row.id) with
  | true => simp [taken, bind, Except.bind] at rest
  | false =>
      have passed : (attempt fails .insertBlob >>= fun _ =>
          attempt fails .commitBackup >>= fun _ => Except.ok (backups ++ [row])) =
          .ok inserted := by
        simpa [taken] using rest
      simp only [attempt_bind] at passed
      simp [backupPoints, opened, begun, entry, passed.1, passed.2.1,
        ← Except.ok.inj passed.2.2]

theorem count_outcome (fails : Failures) (server : Server Credit) (id : GoString) (count : Nat) :
    SameStores server (setRestoredAccountCnt fails server id count).2 ∧
      ((setRestoredAccountCnt fails server id count).1 = .ok () →
        fails .openCount = none ∧ fails .updateCount = none) := by
  unfold setRestoredAccountCnt
  cases passed : attempt fails .openCount >>= fun _ => attempt fails .updateCount with
  | error err => exact ⟨⟨rfl, rfl⟩, fun done => by cases done⟩
  | ok _ =>
      rw [attempt_bind, attempt_ok] at passed
      simp only
      split_ifs with found
      · exact ⟨⟨rfl, rfl⟩, fun _ => passed⟩
      · exact ⟨⟨rfl, rfl⟩, fun done => by cases done⟩

theorem create_locked_outcome (fails : Failures) (server : Server Credit)
    (row : BackupRow Credit) (autoKeep : Int) :
    SameStores server (createBackupLocked fails server row autoKeep).2 ∧
      ∀ made, (createBackupLocked fails server row autoKeep).1 = .ok made →
        ∀ point ∈ backupPoints, fails point = none := by
  unfold createBackupLocked
  cases inserted : insertBackup fails server.backups row with
  | error err => exact ⟨⟨rfl, rfl⟩, fun made done => by cases done⟩
  | ok backups =>
      exact ⟨⟨rfl, rfl⟩, fun made _ => (insert_backup_ok _ _ _ _ inserted).2.2⟩

theorem write_settings_ok (fails : Failures) (rows written : SettingsRows Credit)
    (config : JsonDocument Credit) (credentials : Option (JsonDocument Credit))
    (done : writeSettings fails rows config credentials = .ok written) :
    written = ⟨some config, credentials,
        some (if credentials.isSome then lit "1" else lit "0")⟩ ∧
      ∀ point ∈ settingsPoints credentials.isSome, fails point = none := by
  unfold writeSettings at done
  simp only [attempt_bind] at done
  obtain ⟨opened, begun, put, rest⟩ := done
  cases credentials with
  | some data =>
      simp only [attempt_bind] at rest
      simp [settingsPoints, opened, begun, put, rest.1, rest.2.1, rest.2.2.1,
        ← Except.ok.inj rest.2.2.2]
  | none =>
      simp only [attempt_bind] at rest
      simp [settingsPoints, opened, begun, put, rest.1, rest.2.1, rest.2.2.1,
        ← Except.ok.inj rest.2.2.2]

variable [JsonAmount Credit]

theorem create_backup_outcome (call : RestoreCall) (server : Server Credit)
    (kind note : GoString) :
    SameStores server (createBackup call server kind note).2 ∧
      ∀ row, (createBackup call server kind note).1 = .ok row →
        ∀ point ∈ backupPoints, call.fails point = none := by
  unfold createBackup
  cases currentBackupData server.memory call.createdAt with
  | none => exact ⟨⟨rfl, rfl⟩, fun row done => by cases done⟩
  | some data => exact create_locked_outcome call.fails server _ _

theorem marshal_config_some (config : Config Credit) (data : JsonDocument Credit)
    (marshalled : marshalConfig config = some data) : data = configFormat.write config := by
  unfold marshalConfig at marshalled
  split_ifs at marshalled
  exact (Option.some.inj marshalled).symm

theorem marshal_credentials_some (credentials : List (StoredAccount Credit))
    (data : JsonDocument Credit) (marshalled : marshalCredentials credentials = some data) :
    data = (listOf accountFormat).write credentials := by
  unfold marshalCredentials at marshalled
  split_ifs at marshalled
  exact (Option.some.inj marshalled).symm

/-- The rows that hold a parsed backup. -/
def restoredRows (environment : Environment) (parsed : ParsedBackup Credit) :
    SettingsRows Credit where
  config := some (configFormat.write (restoredConfig environment parsed.config))
  credentials :=
    if parsed.credentialsLoaded then some ((listOf accountFormat).write parsed.credentials)
    else none
  credentialsLoaded := some (if parsed.credentialsLoaded then lit "1" else lit "0")

/-- A write that fails leaves the server as it is; one that does not has replaced all three
stores. -/
theorem write_restored_outcome (environment : Environment) (fails : Failures)
    (server : Server Credit) (parsed : ParsedBackup Credit) :
    (∃ err, writeRestoredConfig environment fails server parsed = (.error err, server)) ∨
      writeRestoredConfig environment fails server parsed =
        (.ok (), { server with
          memory := restoredMemory environment parsed
          settings := restoredRows environment parsed }) ∧
      ∀ point ∈ settingsPoints parsed.credentialsLoaded, fails point = none := by
  unfold writeRestoredConfig
  cases config : marshalConfig (restoredConfig environment parsed.config) with
  | none => exact Or.inl ⟨_, rfl⟩
  | some data =>
      cases credentials : marshalCredentials parsed.credentials with
      | none => exact Or.inl ⟨_, rfl⟩
      | some rows =>
          simp only
          cases done : writeSettings fails server.settings data
              (if parsed.credentialsLoaded then some rows else none) with
          | error err => exact Or.inl ⟨err, rfl⟩
          | ok written =>
              obtain ⟨same, passed⟩ := write_settings_ok _ _ _ _ _ done
              have held := marshal_config_some _ _ config
              have listed := marshal_credentials_some _ _ credentials
              refine Or.inr ⟨?_, ?_⟩
              · rw [same, held, listed]
                cases loaded : parsed.credentialsLoaded <;> simp [restoredRows, loaded]
              · cases loaded : parsed.credentialsLoaded <;> simpa [loaded] using passed

end Outcomes

section Restores

variable {Credit : Type} [JsonAmount Credit]

/-- A restore of a file, from the server before it: an error leaves the three stores as they
were; without one the file has been parsed, nothing has failed on the way, and all three are
those of the backup. -/
structure AllOrNothing (call : RestoreCall) (before : Server Credit)
    (file : Option (BackupFile Credit)) (points : List RestorePoint)
    (result : Except RestoreError Unit × Server Credit) : Prop where
  failed : ∀ err, result.1 = .error err → SameStores before result.2
  restored : result.1 = .ok () → ∃ held parsed, file = some held ∧
    parseBackupData held = .ok parsed ∧
    result.2.memory = restoredMemory call.environment parsed ∧
    result.2.settings = restoredRows call.environment parsed ∧
    ∀ point ∈ points ++ backupPoints ++ [.openCount, .updateCount] ++
      settingsPoints parsed.credentialsLoaded, call.fails point = none

theorem restore_parsed_outcome (call : RestoreCall) (server : Server Credit)
    (parsed : ParsedBackup Credit) (note : GoString) :
    (∀ err, (restoreParsed call server parsed note).1 = .error err →
      SameStores server (restoreParsed call server parsed note).2) ∧
    ((restoreParsed call server parsed note).1 = .ok () →
      (restoreParsed call server parsed note).2.memory =
        restoredMemory call.environment parsed ∧
      (restoreParsed call server parsed note).2.settings =
        restoredRows call.environment parsed ∧
      ∀ point ∈ backupPoints ++ [.openCount, .updateCount] ++
        settingsPoints parsed.credentialsLoaded, call.fails point = none) := by
  have created := create_backup_outcome call server preRestoreKind note
  unfold restoreParsed
  generalize createBackup call server preRestoreKind note = backup at created
  obtain ⟨made, between⟩ := backup
  cases made with
  | error err => exact ⟨fun _ _ => created.1, fun done => by cases done⟩
  | ok row =>
      have counted := count_outcome call.fails between row.id (restoredAccountCount parsed)
      simp only
      generalize setRestoredAccountCnt call.fails between row.id
        (restoredAccountCount parsed) = count at counted
      obtain ⟨marked, later⟩ := count
      have stores : SameStores server later :=
        ⟨counted.1.1.trans created.1.1, counted.1.2.trans created.1.2⟩
      cases marked with
      | error err => exact ⟨fun _ _ => stores, fun done => by cases done⟩
      | ok _ =>
          simp only
          rcases write_restored_outcome call.environment call.fails later parsed with
            ⟨err, failed⟩ | ⟨written, passed⟩
          · rw [failed]
            exact ⟨fun _ _ => stores, fun done => by cases done⟩
          · rw [written]
            refine ⟨fun _ failed => (by cases failed), fun _ => ⟨rfl, rfl, ?_⟩⟩
            simp only [List.forall_mem_append]
            exact ⟨⟨created.2 row rfl, by simp [counted.2 rfl]⟩, passed⟩

/-- A restore is all or nothing, whatever fails: of an uploaded file, and of a stored one. -/
theorem restores_all_or_nothing (call : RestoreCall) (server : Server Credit) (id : GoString)
    (file : BackupFile Credit) (note : GoString) :
    AllOrNothing call server (some file) [] (restoreFromBytes call server file note) ∧
      AllOrNothing call server
        ((server.backups.find? (backupHasId id)).map BackupRow.data)
        [.openRead, .readEntry, .readBlob] (restoreBackup call server id) := by
  constructor
  · unfold restoreFromBytes
    cases accepted : parseBackupData file with
    | error fault => exact ⟨fun _ _ => ⟨rfl, rfl⟩, fun done => by cases done⟩
    | ok parsed =>
        have outcome := restore_parsed_outcome call server parsed (lit "upload " ++ note)
        refine ⟨outcome.1, fun done => ⟨file, parsed, rfl, accepted, ?_⟩⟩
        exact outcome.2 done
  · unfold restoreBackup
    cases read : readBackupBytes call.fails server id with
    | error err => exact ⟨fun _ _ => ⟨rfl, rfl⟩, fun done => by cases done⟩
    | ok row =>
        obtain ⟨found, points⟩ := read_backup_ok call.fails server id row read
        simp only
        cases accepted : parseBackupData row.data with
        | error fault => exact ⟨fun _ _ => ⟨rfl, rfl⟩, fun done => by cases done⟩
        | ok parsed =>
            have outcome := restore_parsed_outcome call server parsed
              (lit "auto before restore " ++ row.id)
            refine ⟨outcome.1, fun done => ⟨row.data, parsed, by rw [found]; rfl, accepted, ?_⟩⟩
            obtain ⟨memory, settings, passed⟩ := outcome.2 done
            refine ⟨memory, settings, ?_⟩
            rw [List.append_assoc, List.append_assoc, List.forall_mem_append]
            rw [List.append_assoc] at passed
            exact ⟨points, passed⟩

end Restores

end KiroProxy.Configuration
