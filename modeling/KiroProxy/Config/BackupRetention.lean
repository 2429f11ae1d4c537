import KiroProxy.Config.RestoreRuns
import KiroProxy.Foundation.Retention

/-!
# Retention of backups

The rows that `config/backup.go` deletes by itself: automatic backups when another backup is
made, scheduled ones by `PruneScheduled`. Of either kind the newest stay, and more of them where
a deletion fails. How many are kept is read before the table is locked.
-/

namespace KiroProxy.Configuration

open Foundation.Retention GoStrings

set_option autoImplicit false

variable {Credit : Type}

section Pruning

def scheduledKind : GoString := lit "scheduled"

def defaultBackupKeep : Int := 50

def BackupSchedule.effectiveKeep (schedule : BackupSchedule) : Int :=
  if 0 < schedule.keep then schedule.keep else defaultBackupKeep

def ofKind (kind : GoString) (backups : List (BackupRow Credit)) : List (BackupRow Credit) :=
  backups.filter fun row => row.kind == kind

/-- The rows of the kind are deleted newest first, but for the newest; `failsAt` is the number
that went before a call failed. -/
def pruneKindLocked (failsAt : Option Nat) (kind : GoString) (keep : Int)
    (backups : List (BackupRow Credit)) : List (BackupRow Credit) :=
  if keep ≤ 0 then backups
  else
    backups.filter fun row =>
      let newerRows : Int := (ofKind kind backups).countP (newer row)
      row.kind != kind || decide (newerRows < keep) ||
        (match failsAt with
          | none => false
          | some deleted => decide (keep + deleted ≤ newerRows))

def pruneScheduled (failsAt : Option Nat) (server : Server Credit) : Server Credit :=
  { server with
    backups := pruneKindLocked failsAt scheduledKind
      server.memory.config.backup.schedule.effectiveKeep server.backups }

/-- `DeleteBackup`. -/
def deleteBackup (server : Server Credit) (id : GoString) : Server Credit :=
  { server with backups := server.backups.filter fun row => row.id != id }

variable [JsonAmount Credit]

/-- `AutoSnapshotBeforeSave`, with the backup that nobody looks at. -/
def autoSnapshotBeforeSave (call : RestoreCall) (server : Server Credit) :
    Option (BackupRow Credit) × Server Credit :=
  if !server.memory.config.backup.autoEnabled then (none, server)
  else
    match currentBackupData server.memory call.createdAt with
    | none => (none, server)
    | some data =>
        let created := createBackupLocked call.fails server
          (backupRow call server.memory autoKind [] data) server.memory.config.backup.autoKeep
        (created.1.toOption, created.2)

end Pruning

section Ages

/-- Rows of different ids are of different ages. -/
theorem newer_ages (backups : List (BackupRow Credit))
    (distinct : (backups.map BackupRow.id).Nodup) : Ages newer backups where
  irrefl row := by simp [newer, List.lt_irrefl]
  trans a b c first second := by
    simp only [newer, Bool.or_eq_true, Bool.and_eq_true, decide_eq_true_eq, beq_iff_eq] at *
    obtain first | ⟨same, first⟩ := first
    · obtain second | ⟨same, second⟩ := second
      · exact Or.inl (first.trans second)
      · exact Or.inl (same ▸ first)
    · obtain second | ⟨again, second⟩ := second
      · exact Or.inl (same ▸ second)
      · exact Or.inr ⟨same.trans again, List.lt_trans first second⟩
  total a first b second apart := by
    have ids : a.id ≠ b.id := fun same =>
      apart (List.inj_on_of_nodup_map distinct first second same)
    simp only [newer, Bool.or_eq_true, Bool.and_eq_true, decide_eq_true_eq, beq_iff_eq]
    obtain earlier | same | later := lt_trichotomy a.createdAt b.createdAt
    · exact Or.inl (Or.inl earlier)
    · by_cases below : a.id < b.id
      · exact Or.inl (Or.inr ⟨same, below⟩)
      · refine Or.inr (Or.inr ⟨same.symm, ?_⟩)
        by_contra above
        exact ids (List.le_antisymm above below)
    · exact Or.inr (Or.inl later)

/-- The rows that are left when the newest of a kind are kept. -/
def pruned (kind : GoString) (keep : Nat) (backups : List (BackupRow Credit)) :
    List (BackupRow Credit) :=
  backups.filter fun row =>
    row.kind != kind || decide (rank newer (ofKind kind backups) row < keep)

theorem pruned_kind (kind : GoString) (keep : Nat) (backups : List (BackupRow Credit)) :
    ofKind kind (pruned kind keep backups) = retained newer keep (ofKind kind backups) := by
  rw [ofKind, pruned, retained, ofKind, List.filter_filter, List.filter_filter]
  apply List.filter_congr
  intro row _
  cases same : row.kind == kind with
  | true => simp [bne, same]
  | false => simp

/-- How many automatic backups a pruning keeps. -/
def keptAutos (keep : Int) : Int := if keep ≤ 0 then maxAutoKeep else keep

theorem kept_autos_positive (keep : Int) : 0 < keptAutos keep := by
  unfold keptAutos
  split_ifs with low
  · decide
  · omega

/-- No call of the pruning behind an insertion fails. -/
def PruneSucceeds (fails : Failures) : Prop :=
  fails .openPrune = none ∧ fails .queryPrune = none ∧ ∀ id, fails (.deletePruned id) = none

theorem auto_pruned (fails : Failures) (keep : Int) (backups : List (BackupRow Credit)) :
    (pruned autoKind (keptAutos keep).toNat backups).Sublist
        (pruneAutoBackups fails keep backups) ∧
      (PruneSucceeds fails → pruneAutoBackups fails keep backups =
        pruned autoKind (keptAutos keep).toNat backups) := by
  have positive := kept_autos_positive keep
  have below (row : BackupRow Credit) :
      decide ((backups.countP fun other => other.kind == autoKind && newer row other : Int) <
          keptAutos keep) =
        decide (rank newer (ofKind autoKind backups) row < (keptAutos keep).toNat) := by
    rw [rank, ofKind, List.countP_filter]
    simp only [Bool.and_comm]
    apply decide_eq_decide.mpr
    omega
  constructor
  · unfold pruneAutoBackups
    cases (fails .openPrune).isSome || (fails .queryPrune).isSome with
    | true => exact List.filter_sublist
    | false =>
        apply List.monotone_filter_right
        intro row kept
        rw [← below, Bool.or_eq_true] at kept
        simp only [Bool.or_eq_true]
        exact kept.imp_left Or.inl
  · rintro ⟨opened, queried, deleted⟩
    simp only [pruneAutoBackups, opened, queried, deleted, Option.isSome_none, Bool.or_false,
      Bool.false_eq_true, if_false]
    apply List.filter_congr
    intro row _
    rw [← below]
    rfl

/-- A prune that fails takes no more than one that does not. -/
theorem scheduled_pruned (failsAt : Option Nat) (kind : GoString) (keep : Int)
    (positive : 0 < keep) (backups : List (BackupRow Credit)) :
    (pruneKindLocked failsAt kind keep backups).Sublist backups ∧
      (pruned kind keep.toNat backups).Sublist (pruneKindLocked failsAt kind keep backups) ∧
      (failsAt = none → pruneKindLocked failsAt kind keep backups =
        pruned kind keep.toNat backups) := by
  have below (row : BackupRow Credit) :
      decide (((ofKind kind backups).countP (newer row) : Int) < keep) =
        decide (rank newer (ofKind kind backups) row < keep.toNat) := by
    rw [rank]
    apply decide_eq_decide.mpr
    omega
  rw [pruneKindLocked, if_neg (by omega)]
  refine ⟨List.filter_sublist, ?_, ?_⟩
  · apply List.monotone_filter_right
    intro row kept
    simp only [below, Bool.or_eq_true] at kept ⊢
    exact Or.inl kept
  · rintro rfl
    simp only [below, Bool.or_false]
    rfl

/-- A row goes when the newest are kept only where enough newer ones of its kind are left. -/
theorem pruned_leaves (kind : GoString) (keep : Nat) (backups left : List (BackupRow Credit))
    (distinct : (backups.map BackupRow.id).Nodup)
    (kept : (pruned kind keep backups).Sublist left)
    (row : BackupRow Credit) (member : row ∈ backups) (gone : row ∉ left) :
    row.kind = kind ∧ keep ≤ (ofKind kind left).countP (newer row) := by
  have dropped : row ∉ pruned kind keep backups := fun stays => gone (kept.mem stays)
  have same : row.kind = kind := by
    by_contra other
    exact dropped (List.mem_filter.mpr ⟨member, by simp [other]⟩)
  have sub : (ofKind kind backups).Sublist backups := List.filter_sublist
  have ages := newer_ages (ofKind kind backups) (distinct.sublist (sub.map BackupRow.id))
  have among : row ∈ ofKind kind backups := List.mem_filter.mpr ⟨member, by simpa using same⟩
  have unretained : row ∉ retained newer keep (ofKind kind backups) := by
    rw [← pruned_kind]
    exact fun stays => dropped (List.mem_filter.mp stays).1
  have high : keep ≤ rank newer (ofKind kind backups) row := by
    by_contra low
    exact unretained (List.mem_filter.mpr ⟨among, by simpa using low⟩)
  have nodup : (ofKind kind backups).Nodup :=
    (distinct.of_map BackupRow.id).sublist sub
  refine ⟨same, ?_⟩
  calc keep
    _ = (retained newer keep (ofKind kind backups)).length := by
        rw [retained_length ages nodup]
        have bounded := rank_bounded ages row among
        omega
    _ = (retained newer keep (ofKind kind backups)).countP (newer row) := by
        refine (List.countP_eq_length.mpr fun other stays => ?_).symm
        exact retained_newest ages keep row other among unretained stays
    _ ≤ (ofKind kind left).countP (newer row) := by
        rw [← pruned_kind]
        exact (kept.filter _).countP_le

end Ages

section Actions

/-- What changes the table: `createBackupLocked` of a row, `pruneKindLocked` of the scheduled
kind, a deletion, or the count of a restore. -/
inductive BackupAction (Credit : Type) where
  | create (fails : Failures) (row : BackupRow Credit) (keep : Int)
  | prune (failsAt : Option Nat) (keep : Int)
  | delete (id : GoString)
  | count (fails : Failures) (id : GoString) (count : Nat)

def backupStep (server : Server Credit) : BackupAction Credit → Server Credit
  | .create fails row keep => (createBackupLocked fails server row keep).2
  | .prune failsAt keep =>
      { server with backups := pruneKindLocked failsAt scheduledKind keep server.backups }
  | .delete id => deleteBackup server id
  | .count fails id count => (setRestoredAccountCnt fails server id count).2

/-- The kind that an action prunes, and how many are kept. -/
def BackupAction.pruning : BackupAction Credit → Option (GoString × Int)
  | .create _ _ keep => some (autoKind, keptAutos keep)
  | .prune _ keep => some (scheduledKind, keep)
  | _ => none

/-- The action comes to its pruning, and no call of the pruning fails. -/
def BackupAction.Prunes (server : Server Credit) : BackupAction Credit → Prop
  | .create fails row keep =>
      (createBackupLocked fails server row keep).1.isOk = true ∧ PruneSucceeds fails
  | .prune failsAt keep => failsAt = none ∧ 0 < keep
  | _ => False

variable [JsonAmount Credit] (call : RestoreCall) (server : Server Credit)

/-- Backups are made by such actions, with the number that the configuration gives. -/
theorem create_backup_action (kind note : GoString) :
    (createBackup call server kind note).2 = server ∨
      ∃ row, row.kind = kind ∧ (createBackup call server kind note).2 =
        backupStep server (.create call.fails row (autoKeep server.memory.config)) := by
  unfold createBackup
  cases currentBackupData server.memory call.createdAt with
  | none => exact Or.inl rfl
  | some data => exact Or.inr ⟨_, rfl, rfl⟩

theorem auto_snapshot_action :
    (autoSnapshotBeforeSave call server).2 = server ∨
      ∃ row, row.kind = autoKind ∧ (autoSnapshotBeforeSave call server).2 =
        backupStep server (.create call.fails row server.memory.config.backup.autoKeep) := by
  unfold autoSnapshotBeforeSave
  split_ifs
  · exact Or.inl rfl
  · cases currentBackupData server.memory call.createdAt with
    | none => exact Or.inl rfl
    | some data => exact Or.inr ⟨_, rfl, rfl⟩

omit [JsonAmount Credit] in
theorem prune_scheduled_action (failsAt : Option Nat) :
    0 < server.memory.config.backup.schedule.effectiveKeep ∧
      pruneScheduled failsAt server = backupStep server
        (.prune failsAt server.memory.config.backup.schedule.effectiveKeep) := by
  refine ⟨?_, rfl⟩
  unfold BackupSchedule.effectiveKeep
  split_ifs with set
  · exact set
  · decide

end Actions

section Rules

/-- A backup is in the table; restores count their accounts into its row. -/
def Stored (row : BackupRow Credit) (server : Server Credit) : Prop :=
  ∃ counted, { row with restoredAccountCnt := counted } ∈ server.backups

def newerLeft (row : BackupRow Credit) (server : Server Credit) : Nat :=
  (ofKind row.kind server.backups).countP (newer row)

theorem stored_of_mem (row : BackupRow Credit) (server : Server Credit)
    (member : row ∈ server.backups) : Stored row server :=
  ⟨row.restoredAccountCnt, member⟩

/-- What one action does to the table: the ids stay distinct, a backup goes only when it is
deleted or for newer ones of its kind, and a pruning leaves no more than are kept. -/
structure Retains (before : Server Credit) (action : BackupAction Credit)
    (after : Server Credit) : Prop where
  distinct : (after.backups.map BackupRow.id).Nodup
  leaves : ∀ row ∈ before.backups, Stored row after ∨ action = .delete row.id ∨
    ∃ keep, action.pruning = some (row.kind, keep) ∧ keep ≤ newerLeft row after
  bounded : action.Prunes before → ∀ kind keep, action.pruning = some (kind, keep) →
    ((ofKind kind after.backups).length : Int) ≤ keep

theorem unchanged_retains (server : Server Credit) (action : BackupAction Credit)
    (distinct : (server.backups.map BackupRow.id).Nodup) (still : ¬action.Prunes server) :
    Retains server action server where
  distinct := distinct
  leaves row member := Or.inl (stored_of_mem row server member)
  bounded prunes := absurd prunes still

/-- A table that keeps the newest of a kind, and rows besides. -/
theorem retains_pruned (server after : Server Credit) (action : BackupAction Credit)
    (kind : GoString) (keep : Int) (positive : 0 < keep)
    (prunes : action.pruning = some (kind, keep)) (backups : List (BackupRow Credit))
    (distinct : (backups.map BackupRow.id).Nodup) (older : server.backups ⊆ backups)
    (fewer : after.backups.Sublist backups)
    (kept : (pruned kind keep.toNat backups).Sublist after.backups)
    (all : action.Prunes server → after.backups = pruned kind keep.toNat backups) :
    Retains server action after where
  distinct := distinct.sublist (fewer.map BackupRow.id)
  leaves row member := by
    by_cases stays : row ∈ after.backups
    · exact Or.inl (stored_of_mem row after stays)
    · obtain ⟨same, many⟩ := pruned_leaves kind keep.toNat backups after.backups distinct kept row
        (older member) stays
      refine Or.inr (Or.inr ⟨keep, same ▸ prunes, ?_⟩)
      rw [newerLeft, same]
      omega
  bounded whole other count counts := by
    obtain ⟨rfl, rfl⟩ := Prod.mk.inj (Option.some.inj (prunes.symm.trans counts))
    rw [all whole, pruned_kind]
    have sub : (ofKind kind backups).Sublist backups := List.filter_sublist
    rw [retained_length (newer_ages _ (distinct.sublist (sub.map BackupRow.id)))
      ((distinct.of_map BackupRow.id).sublist sub)]
    omega

theorem inserted_ids (fails : Failures) (backups inserted : List (BackupRow Credit))
    (row : BackupRow Credit) (distinct : (backups.map BackupRow.id).Nodup)
    (done : insertBackup fails backups row = .ok inserted) :
    (inserted.map BackupRow.id).Nodup := by
  obtain ⟨appended, fresh, _⟩ := insert_backup_ok fails backups row inserted done
  have absent : row.id ∉ backups.map BackupRow.id := by
    intro member
    obtain ⟨taken, stored, same⟩ := List.mem_map.mp member
    exact List.any_eq_false.mp fresh taken stored (by simpa [backupHasId] using same)
  rw [appended, List.map_append, List.map_singleton]
  exact List.nodup_append_comm.mp (List.nodup_cons.mpr ⟨absent, distinct⟩)

theorem create_retains (fails : Failures) (server : Server Credit) (row : BackupRow Credit)
    (keep : Int) (distinct : (server.backups.map BackupRow.id).Nodup) :
    Retains server (.create fails row keep) (backupStep server (.create fails row keep)) := by
  cases inserted : insertBackup fails server.backups row with
  | error err =>
      have failed : createBackupLocked fails server row keep = (.error err, server) := by
        rw [createBackupLocked, inserted]
      rw [backupStep, failed]
      apply unchanged_retains server _ distinct
      rintro ⟨done, _⟩
      rw [failed] at done
      cases done
  | ok backups =>
      have made : createBackupLocked fails server row keep =
          (.ok row, { server with backups := pruneAutoBackups fails keep backups }) := by
        rw [createBackupLocked, inserted]
      obtain ⟨appended, _, _⟩ := insert_backup_ok _ _ _ _ inserted
      obtain ⟨kept, all⟩ := auto_pruned fails keep backups
      rw [backupStep, made]
      exact retains_pruned server _ _ autoKind (keptAutos keep) (kept_autos_positive keep) rfl
        backups (inserted_ids fails server.backups backups row distinct inserted)
        (appended ▸ List.subset_append_left _ _) (pruned_sublist fails keep backups) kept
        fun prunes => all prunes.2

theorem prune_retains (failsAt : Option Nat) (keep : Int) (server : Server Credit)
    (distinct : (server.backups.map BackupRow.id).Nodup) :
    Retains server (.prune failsAt keep) (backupStep server (.prune failsAt keep)) := by
  by_cases positive : 0 < keep
  · obtain ⟨fewer, kept, all⟩ :=
      scheduled_pruned failsAt scheduledKind keep positive server.backups
    exact retains_pruned server _ _ scheduledKind keep positive rfl server.backups distinct
      (List.Subset.refl _) fewer kept fun prunes => all prunes.1
  · have still : backupStep server (.prune failsAt keep) = server := by
      rw [backupStep, pruneKindLocked, if_pos (Int.not_lt.mp positive)]
    rw [still]
    exact unchanged_retains server _ distinct fun prunes => positive prunes.2

theorem delete_retains (server : Server Credit) (id : GoString)
    (distinct : (server.backups.map BackupRow.id).Nodup) :
    Retains server (.delete id) (deleteBackup server id) where
  distinct := distinct.sublist (List.filter_sublist.map BackupRow.id)
  leaves row member := by
    by_cases same : row.id = id
    · exact Or.inr (Or.inl (by rw [same]))
    · exact Or.inl (stored_of_mem _ _ (List.mem_filter.mpr ⟨member, by simpa using same⟩))
  bounded prunes := prunes.elim

theorem count_retains (fails : Failures) (server : Server Credit) (id : GoString) (count : Nat)
    (distinct : (server.backups.map BackupRow.id).Nodup) :
    Retains server (.count fails id count) (setRestoredAccountCnt fails server id count).2 where
  distinct := by
    rw [count_ids]
    exact distinct
  leaves row member := by
    refine Or.inl ?_
    unfold setRestoredAccountCnt
    split
    · exact stored_of_mem row server member
    · split_ifs
      · by_cases same : row.id = id
        · exact ⟨some count, List.mem_map.mpr ⟨row, member, if_pos same⟩⟩
        · exact ⟨row.restoredAccountCnt, List.mem_map.mpr ⟨row, member, if_neg same⟩⟩
      · exact stored_of_mem row server member
  bounded prunes := prunes.elim

theorem step_retains (server : Server Credit) (action : BackupAction Credit)
    (distinct : (server.backups.map BackupRow.id).Nodup) :
    Retains server action (backupStep server action) := by
  cases action with
  | create fails row keep => exact create_retains fails server row keep distinct
  | prune failsAt keep => exact prune_retains failsAt keep server distinct
  | delete id => exact delete_retains server id distinct
  | count fails id count => exact count_retains fails server id count distinct

end Rules

section Runs

open Foundation.Runs

def backupRun (server : Server Credit) (actions : List (BackupAction Credit)) : Server Credit :=
  run backupStep server actions

/-- What holds of the table over a run of actions: at each of them, and of the backups that
somebody made by hand or that a restore made. -/
structure BackupsRetained (server : Server Credit) (actions : List (BackupAction Credit)) :
    Prop where
  steps : ∀ earlier action later, actions = earlier ++ action :: later →
    Retains (backupRun server earlier) action (backupStep (backupRun server earlier) action)
  others : ∀ row ∈ server.backups, row.kind ≠ autoKind → row.kind ≠ scheduledKind →
    .delete row.id ∉ actions → Stored row (backupRun server actions)

theorem run_distinct (server : Server Credit) (actions : List (BackupAction Credit))
    (distinct : (server.backups.map BackupRow.id).Nodup) :
    ((backupRun server actions).backups.map BackupRow.id).Nodup :=
  invariant_of_steps _ (fun server : Server Credit => (server.backups.map BackupRow.id).Nodup)
    (fun state action before => (step_retains state action before).distinct) server distinct actions

/-- A backup of another kind stays until it is deleted. -/
theorem others_stay (server : Server Credit) (actions : List (BackupAction Credit))
    (distinct : (server.backups.map BackupRow.id).Nodup) (row : BackupRow Credit)
    (stored : Stored row server) (manual : row.kind ≠ autoKind)
    (unscheduled : row.kind ≠ scheduledKind) (undeleted : .delete row.id ∉ actions) :
    Stored row (backupRun server actions) := by
  induction actions generalizing server with
  | nil => exact stored
  | cons action actions ih =>
      have step := step_retains server action distinct
      apply ih (backupStep server action) step.distinct
      · obtain ⟨counted, member⟩ := stored
        obtain stays | deleted | ⟨keep, prunes, _⟩ := step.leaves _ member
        · exact stays
        · exact absurd (List.mem_cons.mpr (Or.inl deleted.symm)) undeleted
        · cases action with
          | create fails made keep =>
              exact absurd (Prod.mk.inj (Option.some.inj prunes)).1.symm manual
          | prune failsAt keep =>
              exact absurd (Prod.mk.inj (Option.some.inj prunes)).1.symm unscheduled
          | delete id => cases prunes
          | count fails id count => cases prunes
      · exact fun later => undeleted (List.mem_cons_of_mem _ later)

/-- The newest backups of either kind outlive every run, and no pruning touches the others. -/
theorem backups_retained (server : Server Credit) (actions : List (BackupAction Credit))
    (distinct : (server.backups.map BackupRow.id).Nodup) : BackupsRetained server actions where
  steps earlier action _ _ :=
    step_retains (backupRun server earlier) action (run_distinct server earlier distinct)
  others row member manual unscheduled undeleted :=
    others_stay server actions distinct row (stored_of_mem row server member) manual unscheduled
      undeleted

/-- A backup of a kind and a time, with nothing inside. -/
def smallBackup (id kind : GoString) (createdAt : Int) : BackupRow Int :=
  ⟨id, createdAt, kind, [], 0, none, false, ⟨false, .ok [], .error []⟩⟩

/-- Two automatic backups and a scheduled one are kept; the first deletion of a row fails. -/
def prunedActions : List (BackupAction Int) :=
  [.create (fun _ => none) (smallBackup (lit "a2") autoKind 2) 2,
    .create (fun point => if point = .deletePruned (lit "a1") then some (lit "busy") else none)
      (smallBackup (lit "a3") autoKind 3) 2,
    .create (fun _ => none) (smallBackup (lit "s2") scheduledKind 4) 2,
    .prune none 1, .delete (lit "m2"),
    .create (fun _ => none) (smallBackup (lit "a4") autoKind 5) 2]

theorem pruned_backups_retained :
    let server : Server Int := { freshServer with
      backups := [smallBackup (lit "m1") (lit "manual") 0, smallBackup (lit "m2") (lit "manual") 0,
        smallBackup (lit "a1") autoKind 1, smallBackup (lit "s1") scheduledKind 1] }
    (backupRun server prunedActions).backups.map BackupRow.id =
        [lit "m1", lit "a3", lit "s2", lit "a4"] ∧
      BackupsRetained server prunedActions :=
  ⟨by decide +kernel, backups_retained _ _ (by decide)⟩

end Runs

end KiroProxy.Configuration
