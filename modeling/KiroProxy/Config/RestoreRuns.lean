import KiroProxy.Config.Restores

/-!
# Restores among other writers

A restore takes its snapshot, stores it as a backup, notes the count and overwrites
the configuration and the credentials, each under locks of its own. Between these
steps any setter, token update or other restore may write.
-/

namespace KiroProxy.Configuration

open Foundation Foundation.Documents Foundation.Runs GoStrings
open JsonText (coerceText)

set_option autoImplicit false

/-- How far a restore has come. A finished one remembers what it overwrote. -/
inductive Phase (Credit : Type) where
  | idle
  | snapshotted (parsed : ParsedBackup Credit) (row : BackupRow Credit) (keep : Int)
  | inserted (parsed : ParsedBackup Credit) (id : GoString)
  | counted (parsed : ParsedBackup Credit) (id : GoString)
  | restored (id : GoString) (overwritten : Memory Credit)
  | failed (err : RestoreError)

structure System (Credit : Type) where
  server : Server Credit
  restores : Nat → Phase Credit

/-- What one locked section does. A write is that of any setter, of the usage accounting or
of a token update; a backup is another one, such as the snapshot before a save. -/
inductive Event (Credit : Type) where
  | write (memory : Memory Credit) (settings : SettingsRows Credit)
  | backup (fails : Failures) (row : BackupRow Credit) (keep : Int)
  | snapshot (restore : Nat) (call : RestoreCall) (parsed : ParsedBackup Credit)
      (note : GoString)
  | insert (restore : Nat) (fails : Failures)
  | count (restore : Nat) (fails : Failures)
  | overwrite (restore : Nat) (environment : Environment) (fails : Failures)

section Steps

variable {Credit : Type}

def System.advance (system : System Credit) (restore : Nat) (server : Server Credit)
    (phase : Phase Credit) : System Credit :=
  ⟨server, Function.update system.restores restore phase⟩

def insertStep (system : System Credit) (restore : Nat) (fails : Failures) : System Credit :=
  match system.restores restore with
  | .snapshotted parsed row keep =>
      match createBackupLocked fails system.server row keep with
      | (.error err, server) => system.advance restore server (.failed (.snapshot err))
      | (.ok made, server) => system.advance restore server (.inserted parsed made.id)
  | _ => system

def countStep (system : System Credit) (restore : Nat) (fails : Failures) : System Credit :=
  match system.restores restore with
  | .inserted parsed id =>
      match setRestoredAccountCnt fails system.server id (restoredAccountCount parsed) with
      | (.error err, server) => system.advance restore server (.failed (.restoreCount err))
      | (.ok (), server) => system.advance restore server (.counted parsed id)
  | _ => system

variable [JsonAmount Credit]

def snapshotStep (system : System Credit) (restore : Nat) (call : RestoreCall)
    (parsed : ParsedBackup Credit) (note : GoString) : System Credit :=
  match system.restores restore with
  | .idle =>
      let memory := system.server.memory
      match currentBackupData memory call.createdAt with
      | none => system.advance restore system.server (.failed (.snapshot .unsupportedValue))
      | some data =>
          system.advance restore system.server
            (.snapshotted parsed (backupRow call memory preRestoreKind note data)
              (autoKeep memory.config))
  | _ => system

def overwriteStep (system : System Credit) (restore : Nat) (environment : Environment)
    (fails : Failures) : System Credit :=
  match system.restores restore with
  | .counted parsed id =>
      match writeRestoredConfig environment fails system.server parsed with
      | (.error err, server) => system.advance restore server (.failed err)
      | (.ok (), server) => system.advance restore server (.restored id system.server.memory)
  | _ => system

def System.step (system : System Credit) : Event Credit → System Credit
  | .write memory settings =>
      { system with server := { system.server with memory := memory, settings := settings } }
  | .backup fails row keep =>
      { system with server := (createBackupLocked fails system.server row keep).2 }
  | .snapshot restore call parsed note => snapshotStep system restore call parsed note
  | .insert restore fails => insertStep system restore fails
  | .count restore fails => countStep system restore fails
  | .overwrite restore environment fails => overwriteStep system restore environment fails

/-- Between its snapshot and its overwrite. -/
def InFlight : Phase Credit → Prop
  | .snapshotted _ _ _ | .inserted _ _ | .counted _ _ => True
  | _ => False

/-- What a backup of the memory would hold, whenever it is taken. -/
def held (memory : Memory Credit) : BackupPayload Credit := currentPayload memory 0

/-- The step leaves what a backup would hold as it is while a restore is in flight, unless it
is that restore's own overwrite. -/
def Quiet (system : System Credit) (event : Event Credit) : Prop :=
  ∀ restore, InFlight (system.restores restore) →
    (∃ environment fails, event = .overwrite restore environment fails) ∨
      held (system.step event).server.memory = held system.server.memory

/-- The row is a pre-restore backup of the memory. -/
def HoldsBackup (row : BackupRow Credit) (memory : Memory Credit) : Prop :=
  row.kind = preRestoreKind ∧ ∃ createdAt data,
    currentBackupData memory createdAt = some data ∧ row.data = fileOf data

/-- The stored backup with the id is one of the memory. -/
def StoredBackup (backups : List (BackupRow Credit)) (id : GoString)
    (memory : Memory Credit) : Prop :=
  ∃ row, backups.find? (backupHasId id) = some row ∧ HoldsBackup row memory

/-- The pre-restore backup of every restore that succeeded holds what it overwrote. -/
def RollbackPoints (system : System Credit) : Prop :=
  ∀ restore id overwritten, system.restores restore = .restored id overwritten →
    StoredBackup system.server.backups id overwritten

/-- What a restore has stored so far, as long as nothing else is written. -/
def PhaseHolds (server : Server Credit) : Phase Credit → Prop
  | .idle | .failed _ => True
  | .snapshotted _ row _ => HoldsBackup row server.memory
  | .inserted _ id | .counted _ id => StoredBackup server.backups id server.memory
  | .restored id overwritten => StoredBackup server.backups id overwritten

structure RestoresHold (system : System Credit) : Prop where
  ids : (system.server.backups.map BackupRow.id).Nodup
  phases : ∀ restore, PhaseHolds system.server (system.restores restore)

end Steps

section Backups

variable {Credit : Type}

/-- In a table whose ids are its own, the backup with an id is the one in it. -/
theorem find_backup (backups : List (BackupRow Credit))
    (distinct : (backups.map BackupRow.id).Nodup) (row : BackupRow Credit)
    (member : row ∈ backups) : backups.find? (backupHasId row.id) = some row :=
  KeyedList.find_of_distinct BackupRow.id backups distinct row member

theorem find_backup_id (backups : List (BackupRow Credit)) (id : GoString)
    (row : BackupRow Credit) (found : backups.find? (backupHasId id) = some row) :
    row ∈ backups ∧ row.id = id := by
  have matched := List.find?_some found
  exact ⟨List.mem_of_find?_eq_some found, by simpa [backupHasId] using matched⟩

/-- What is inserted, and what was a pre-restore backup before, is there afterwards. -/
theorem create_locked_backups (fails : Failures) (server : Server Credit)
    (row : BackupRow Credit) (keep : Int)
    (distinct : (server.backups.map BackupRow.id).Nodup) :
    ((createBackupLocked fails server row keep).2.backups.map BackupRow.id).Nodup ∧
      (∀ stored ∈ server.backups, stored.kind = preRestoreKind →
        stored ∈ (createBackupLocked fails server row keep).2.backups) ∧
      ∀ made, (createBackupLocked fails server row keep).1 = .ok made →
        made = row ∧ (row.kind = preRestoreKind →
          row ∈ (createBackupLocked fails server row keep).2.backups) := by
  have other : preRestoreKind ≠ autoKind := by decide
  unfold createBackupLocked
  cases inserted : insertBackup fails server.backups row with
  | error err => exact ⟨distinct, fun _ member _ => member, fun made done => by cases done⟩
  | ok backups =>
      obtain ⟨appended, fresh, _⟩ := insert_backup_ok _ _ _ _ inserted
      have kept (stored : BackupRow Credit) (kind : stored.kind = preRestoreKind)
          (member : stored ∈ backups) : stored ∈ pruneAutoBackups fails keep backups :=
        prune_spares fails keep backups stored (kind.symm ▸ other) member
      have absent : row.id ∉ server.backups.map BackupRow.id := by
        intro member
        obtain ⟨taken, stored, same⟩ := List.mem_map.mp member
        have found := List.any_eq_false.mp fresh taken stored
        exact found (by simpa [backupHasId] using same)
      refine ⟨?_, ?_, ?_⟩
      · apply ((pruned_sublist fails keep backups).map BackupRow.id).nodup
        rw [appended, List.map_append, List.map_singleton]
        exact List.nodup_append_comm.mp (List.nodup_cons.mpr ⟨absent, distinct⟩)
      · intro stored member kind
        exact kept stored kind (by rw [appended]; exact List.mem_append_left _ member)
      · intro made done
        refine ⟨(Except.ok.inj done).symm, fun kind => ?_⟩
        exact kept row kind (by rw [appended]; exact List.mem_append_right _ List.mem_cons_self)

variable [JsonAmount Credit]

theorem stored_created (fails : Failures) (server : Server Credit) (row : BackupRow Credit)
    (keep : Int) (distinct : (server.backups.map BackupRow.id).Nodup) (id : GoString)
    (memory : Memory Credit) (stored : StoredBackup server.backups id memory) :
    StoredBackup (createBackupLocked fails server row keep).2.backups id memory := by
  obtain ⟨backup, found, holds⟩ := stored
  obtain ⟨member, same⟩ := find_backup_id _ _ _ found
  obtain ⟨ids, kept, _⟩ := create_locked_backups fails server row keep distinct
  refine ⟨backup, ?_, holds⟩
  rw [← same]
  exact find_backup _ ids backup (kept backup member holds.1)

omit [JsonAmount Credit] in
theorem count_ids (fails : Failures) (server : Server Credit) (id : GoString) (count : Nat) :
    (setRestoredAccountCnt fails server id count).2.backups.map BackupRow.id =
      server.backups.map BackupRow.id := by
  unfold setRestoredAccountCnt
  split
  · rfl
  · split_ifs
    · rw [List.map_map]
      apply List.map_congr_left
      intro row _
      simp only [Function.comp_apply]
      split_ifs <;> rfl
    · rfl

theorem stored_counted (fails : Failures) (server : Server Credit) (counted : GoString)
    (count : Nat) (distinct : (server.backups.map BackupRow.id).Nodup) (id : GoString)
    (memory : Memory Credit) (stored : StoredBackup server.backups id memory) :
    StoredBackup (setRestoredAccountCnt fails server counted count).2.backups id memory := by
  obtain ⟨backup, found, holds⟩ := stored
  obtain ⟨member, same⟩ := find_backup_id _ _ _ found
  have ids := count_ids fails server counted count
  -- The count is not read back, so the marked row is a backup of the same memory.
  have marked : ∃ row ∈ (setRestoredAccountCnt fails server counted count).2.backups,
      row.id = backup.id ∧ HoldsBackup row memory := by
    unfold setRestoredAccountCnt
    split
    · exact ⟨backup, member, rfl, holds⟩
    · split_ifs
      · refine ⟨_, List.mem_map_of_mem member, ?_⟩
        split_ifs
        · exact ⟨rfl, holds⟩
        · exact ⟨rfl, holds⟩
      · exact ⟨backup, member, rfl, holds⟩
  obtain ⟨row, present, named, kept⟩ := marked
  refine ⟨row, ?_, kept⟩
  rw [← same, ← named]
  exact find_backup _ (by rw [ids]; exact distinct) row present

end Backups

section Invariant

variable {Credit : Type} [JsonAmount Credit]

/-- A backup of the memory is one of any memory that would be backed up the same. -/
theorem holds_of_held (row : BackupRow Credit) (before after : Memory Credit)
    (same : held after = held before) (holds : HoldsBackup row before) :
    HoldsBackup row after := by
  obtain ⟨kind, createdAt, data, taken, stored⟩ := holds
  have payload : currentPayload after createdAt = currentPayload before createdAt := by
    have parts : { held after with createdAt := createdAt } =
        { held before with createdAt := createdAt } := by rw [same]
    exact parts
  refine ⟨kind, createdAt, data, ?_, stored⟩
  unfold currentBackupData at taken ⊢
  rw [payload]
  exact taken

theorem phase_kept (before after : Server Credit) (phase : Phase Credit)
    (stored : ∀ id memory, StoredBackup before.backups id memory →
      StoredBackup after.backups id memory)
    (same : InFlight phase → held after.memory = held before.memory)
    (holds : PhaseHolds before phase) : PhaseHolds after phase := by
  have moved (id : GoString) (flying : InFlight phase)
      (here : StoredBackup before.backups id before.memory) :
      StoredBackup after.backups id after.memory := by
    obtain ⟨row, found, backup⟩ := stored id before.memory here
    exact ⟨row, found, holds_of_held row _ _ (same flying) backup⟩
  cases phase with
  | idle => trivial
  | failed err => trivial
  | snapshotted parsed row keep => exact holds_of_held row _ _ (same trivial) holds
  | inserted parsed id => exact moved id trivial holds
  | counted parsed id => exact moved id trivial holds
  | restored id overwritten => exact stored id overwritten holds

theorem advance_holds (system : System Credit) (restore : Nat) (server : Server Credit)
    (phase : Phase Credit) (ids : (server.backups.map BackupRow.id).Nodup)
    (own : PhaseHolds server phase)
    (others : ∀ other, other ≠ restore → PhaseHolds server (system.restores other)) :
    RestoresHold (system.advance restore server phase) := by
  refine ⟨ids, fun other => ?_⟩
  unfold System.advance
  by_cases same : other = restore
  · rw [same]
    simpa using own
  · simpa [same] using others other same

theorem snapshot_holds (system : System Credit) (restore : Nat) (call : RestoreCall)
    (parsed : ParsedBackup Credit) (note : GoString) (hold : RestoresHold system) :
    RestoresHold (snapshotStep system restore call parsed note) := by
  unfold snapshotStep
  split
  · simp only
    cases taken : currentBackupData system.server.memory call.createdAt with
    | none =>
        exact advance_holds system restore _ _ hold.ids trivial fun other _ => hold.phases other
    | some data =>
        exact advance_holds system restore _ _ hold.ids ⟨rfl, call.createdAt, data, taken, rfl⟩
          fun other _ => hold.phases other
  · exact hold

theorem insert_holds (system : System Credit) (restore : Nat) (fails : Failures)
    (hold : RestoresHold system) : RestoresHold (insertStep system restore fails) := by
  unfold insertStep
  split
  case h_2 => exact hold
  case h_1 parsed row keep phase =>
    have own := hold.phases restore
    rw [phase] at own
    have created := create_locked_backups fails system.server row keep hold.ids
    have stores := (create_locked_outcome fails system.server row keep).1
    have stored := stored_created fails system.server row keep hold.ids
    cases done : createBackupLocked fails system.server row keep with
    | mk made server =>
        rw [done] at created stores
        simp only [done] at stored
        have others (other : Nat) : PhaseHolds server (system.restores other) :=
          phase_kept system.server server _ stored (fun _ => by rw [stores.1])
            (hold.phases other)
        cases made with
        | error err =>
            exact advance_holds system restore server _ created.1 trivial fun other _ => others other
        | ok made =>
            apply advance_holds system restore server _ created.1 _ fun other _ => others other
            obtain ⟨same, present⟩ := created.2.2 made rfl
            refine ⟨row, ?_, ?_⟩
            · rw [same]
              exact find_backup _ created.1 row (present own.1)
            · rw [stores.1]
              exact own

theorem count_holds (system : System Credit) (restore : Nat) (fails : Failures)
    (hold : RestoresHold system) : RestoresHold (countStep system restore fails) := by
  unfold countStep
  split
  case h_2 => exact hold
  case h_1 parsed id phase =>
    have own := hold.phases restore
    rw [phase] at own
    have ids := count_ids fails system.server id (restoredAccountCount parsed)
    have stores := (count_outcome fails system.server id (restoredAccountCount parsed)).1
    have stored := stored_counted fails system.server id (restoredAccountCount parsed) hold.ids
    cases done : setRestoredAccountCnt fails system.server id (restoredAccountCount parsed) with
    | mk marked server =>
        rw [done] at ids stores
        simp only [done] at stored
        have distinct : (server.backups.map BackupRow.id).Nodup := by
          rw [ids]
          exact hold.ids
        have others (other : Nat) : PhaseHolds server (system.restores other) :=
          phase_kept system.server server _ stored (fun _ => by rw [stores.1])
            (hold.phases other)
        cases marked with
        | error err =>
            exact advance_holds system restore server _ distinct trivial fun other _ => others other
        | ok _ =>
            apply advance_holds system restore server _ distinct _ fun other _ => others other
            have counted := stored id system.server.memory own
            rw [← stores.1] at counted
            exact counted

/-- What a restore overwrites is what its backup holds. -/
theorem overwrite_holds (system : System Credit) (restore : Nat) (environment : Environment)
    (fails : Failures) (hold : RestoresHold system)
    (quiet : Quiet system (.overwrite restore environment fails)) :
    RestoresHold (overwriteStep system restore environment fails) := by
  have still (other : Nat) (apart : other ≠ restore)
      (flying : InFlight (system.restores other)) :
      held (overwriteStep system restore environment fails).server.memory =
        held system.server.memory := by
    rcases quiet other flying with ⟨_, _, same⟩ | kept
    · cases same
      exact absurd rfl apart
    · exact kept
  unfold overwriteStep at still ⊢
  split
  case h_2 => exact hold
  case h_1 parsed id phase =>
    have own := hold.phases restore
    rw [phase] at own
    rw [phase] at still
    simp only at still
    rcases write_restored_outcome environment fails system.server parsed with
      ⟨err, failed⟩ | ⟨written, _⟩
    · rw [failed]
      exact advance_holds system restore _ _ hold.ids trivial fun other _ => hold.phases other
    · rw [written] at still ⊢
      refine advance_holds system restore _ (.restored id system.server.memory) hold.ids own ?_
      intro other apart
      exact phase_kept system.server _ _ (fun _ _ stored => stored) (still other apart)
        (hold.phases other)

theorem step_holds (system : System Credit) (event : Event Credit)
    (hold : RestoresHold system) (quiet : Quiet system event) :
    RestoresHold (system.step event) := by
  cases event with
  | write memory settings =>
      refine ⟨hold.ids, fun restore => ?_⟩
      have still (flying : InFlight (system.restores restore)) :
          held memory = held system.server.memory := by
        rcases quiet restore flying with ⟨_, _, same⟩ | kept
        · cases same
        · exact kept
      exact phase_kept system.server { system.server with memory := memory, settings := settings }
        _ (fun _ _ stored => stored) still (hold.phases restore)
  | backup fails row keep =>
      have stores := (create_locked_outcome fails system.server row keep).1
      refine ⟨(create_locked_backups fails system.server row keep hold.ids).1, fun restore => ?_⟩
      exact phase_kept system.server _ _ (stored_created fails system.server row keep hold.ids)
        (fun _ => congrArg held stores.1) (hold.phases restore)
  | snapshot restore call parsed note => exact snapshot_holds system restore call parsed note hold
  | insert restore fails => exact insert_holds system restore fails hold
  | count restore fails => exact count_holds system restore fails hold
  | overwrite restore environment fails =>
      exact overwrite_holds system restore environment fails hold quiet

theorem rollback_points (system : System Credit) (hold : RestoresHold system) :
    RollbackPoints system := by
  intro restore id overwritten phase
  have own := hold.phases restore
  rw [phase] at own
  exact own

/-- Restoring a backup of a memory that can be persisted undoes what overwrote it. -/
theorem stored_undoes (environment : Environment) (backups : List (BackupRow Credit))
    (id : GoString) (memory : Memory Credit) (stored : StoredBackup backups id memory)
    (kept : Kept memory.config) (persistable : Persistable memory) :
    ∃ row parsed, backups.find? (backupHasId id) = some row ∧
      parseBackupData row.data = .ok parsed ∧
      answers environment (restoredMemory environment parsed) =
        answers environment
          { memory with config := restoredConfig environment memory.config } := by
  obtain ⟨row, found, _, createdAt, data, taken, same⟩ := stored
  obtain ⟨document, parsed, again, accepted, agree⟩ :=
    restore_keeps environment createdAt memory kept persistable
  rw [taken] at again
  refine ⟨row, parsed, found, ?_, agree⟩
  rw [same, Option.some.inj again]
  exact accepted

end Invariant

section Alone

variable {Credit : Type} [JsonAmount Credit]

/-- A restore's own steps with nothing between them. -/
def ownSteps (call : RestoreCall) (parsed : ParsedBackup Credit) (note : GoString) :
    List (Event Credit) :=
  [.snapshot 0 call parsed note, .insert 0 call.fails, .count 0 call.fails,
    .overwrite 0 call.environment call.fails]

/-- No restore has begun. -/
def System.of (server : Server Credit) : System Credit := ⟨server, fun _ => .idle⟩

/-- Alone, the steps are the restore. -/
theorem steps_restore (call : RestoreCall) (server : Server Credit)
    (parsed : ParsedBackup Credit) (note : GoString) :
    (run System.step (System.of server) (ownSteps call parsed note)).server =
      (restoreParsed call server parsed note).2 := by
  unfold restoreParsed createBackup
  simp only [ownSteps, run_cons, run_nil, System.step]
  cases taken : currentBackupData server.memory call.createdAt with
  | none =>
      simp [snapshotStep, System.of, taken, System.advance, insertStep, countStep, overwriteStep]
  | some data =>
      simp only [snapshotStep, System.of, taken, System.advance, insertStep,
        Function.update_self]
      generalize createBackupLocked call.fails server _ _ = backup
      obtain ⟨made, between⟩ := backup
      cases made with
      | error err => simp [countStep, overwriteStep]
      | ok row =>
          simp only [countStep, System.advance, Function.update_self]
          generalize setRestoredAccountCnt call.fails between row.id _ = count
          obtain ⟨marked, later⟩ := count
          cases marked with
          | error err => simp [overwriteStep]
          | ok _ =>
              simp only [overwriteStep, System.advance, Function.update_self]
              generalize writeRestoredConfig call.environment call.fails later parsed = result
              obtain ⟨outcome, last⟩ := result
              cases outcome <;> rfl

end Alone

section Runs

variable {Credit : Type} [JsonAmount Credit]

/-- Every restore that succeeded can be undone: the backup it made restores what it overwrote,
as far as that can be persisted. -/
def Undoable (system : System Credit) : Prop :=
  ∀ restore id overwritten environment, system.restores restore = .restored id overwritten →
    Kept overwritten.config → Persistable overwritten →
    ∃ row parsed, system.server.backups.find? (backupHasId id) = some row ∧
      parseBackupData row.data = .ok parsed ∧
      answers environment (restoredMemory environment parsed) =
        answers environment
          { overwritten with config := restoredConfig environment overwritten.config }

/-- Where nothing is written between a restore's snapshot and its overwrite, the pre-restore
backup of every restore that succeeds is what it replaced. -/
theorem rollback_points_hold (server : Server Credit)
    (distinct : (server.backups.map BackupRow.id).Nodup) (events : List (Event Credit))
    (quiet : StepsMeet System.step Quiet (System.of server) events) :
    Always System.step (fun system => RollbackPoints system ∧ Undoable system)
      (System.of server) events := by
  have holds := always_of_guarded_steps System.step Quiet RestoresHold step_holds
    (System.of server) ⟨distinct, fun _ => trivial⟩ events quiet
  intro earlier later split
  have points := rollback_points _ (holds earlier later split)
  refine ⟨points, ?_⟩
  intro restore id overwritten environment phase kept persistable
  exact stored_undoes environment _ id overwritten (points restore id overwritten phase) kept
    persistable

/-- A step that writes neither the configuration nor the credentials is quiet. -/
theorem quiet_of_same (system : System Credit) (event : Event Credit)
    (same : (system.step event).server.memory = system.server.memory) :
    Quiet system event :=
  fun _ _ => Or.inr (congrArg held same)

/-- The log level a backup of the memory restores. -/
theorem backup_log_level (memory : Memory Credit) (createdAt : Int) (data : JsonDocument Credit)
    (taken : currentBackupData memory createdAt = some data) :
    (fileOf data).payload.map (fun payload => payload.config.logLevel) =
      .ok (coerceText memory.config.logLevel) := by
  unfold currentBackupData at taken
  simp only at taken
  split_ifs at taken
  rw [← Option.some.inj taken]
  unfold fileOf
  rw [payload_keeps]
  rfl

end Runs

section FirstRestore

def freshServer : Server Int :=
  ⟨firstMemory ⟨[], [], []⟩ 12345678, ⟨none, none, none⟩, []⟩

/-- The same installation with the panel's password chosen. -/
def olderBackup : ParsedBackup Int :=
  ⟨setPassword freshServer.memory.config (lit "hunter22"), false, []⟩

def firstCall : RestoreCall := ⟨⟨[], [], []⟩, fun _ => none, 1, 2, lit "20260101-000000"⟩

theorem first_restore_rollback :
    Always System.step (fun system => RollbackPoints system ∧ Undoable system)
      (System.of freshServer) (ownSteps firstCall olderBackup (lit "upload a.json")) := by
  apply rollback_points_hold freshServer List.nodup_nil
  unfold ownSteps
  rw [steps_meet_cons, steps_meet_cons, steps_meet_cons, steps_meet_cons]
  refine ⟨quiet_of_same _ _ rfl, quiet_of_same _ _ rfl, quiet_of_same _ _ rfl, ?_,
    steps_meet_nil _ _ _⟩
  intro restore flying
  cases restore with
  | zero => exact Or.inl ⟨_, _, rfl⟩
  | succ other => exact absurd flying id

/-- What the operator writes while the restore stores its snapshot. -/
def debugMemory : Memory Int :=
  { freshServer.memory with
    config := { freshServer.memory.config with logLevel := lit "debug" } }

def writtenBetween : List (Event Int) :=
  [.snapshot 0 firstCall olderBackup (lit "upload a.json"),
    .write debugMemory ⟨none, none, none⟩, .insert 0 firstCall.fails,
    .count 0 firstCall.fails, .overwrite 0 firstCall.environment firstCall.fails]

/-- The restore succeeds and has overwritten the debug logging; its backup has not got it. -/
theorem write_between_lost :
    (run System.step (System.of freshServer) writtenBetween).restores 0 =
        .restored firstCall.id debugMemory ∧
      ¬RollbackPoints (run System.step (System.of freshServer) writtenBetween) := by
  have phase : (run System.step (System.of freshServer) writtenBetween).restores 0 =
      .restored firstCall.id debugMemory := rfl
  refine ⟨phase, ?_⟩
  intro points
  obtain ⟨row, found, kind, createdAt, data, taken, same⟩ := points 0 _ _ phase
  have snapshot : currentBackupData freshServer.memory 1 =
      some (payloadFormat.write (currentPayload freshServer.memory 1)) := rfl
  have stored : ((run System.step (System.of freshServer) writtenBetween).server.backups.find?
      (backupHasId firstCall.id)).map BackupRow.data =
      some (fileOf (payloadFormat.write (currentPayload freshServer.memory 1))) := rfl
  rw [found, Option.map_some, same] at stored
  have before := backup_log_level freshServer.memory 1 _ snapshot
  rw [← Option.some.inj stored, backup_log_level debugMemory createdAt data taken] at before
  exact absurd (Except.ok.inj before) (by decide)

end FirstRestore

end KiroProxy.Configuration
