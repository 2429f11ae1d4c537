import KiroProxy.Config.Configuration
import KiroProxy.Foundation.Documents
import KiroProxy.JsonText

/-!
# Structs as JSON documents

What `json.Marshal` writes for the structs of `config/config.go`, by their tags, and
what `json.Unmarshal` makes of it in a fresh struct. A text that is not valid UTF-8
is written with replacement runes, and an amount that is not finite cannot be written.
-/

namespace KiroProxy.Configuration

open Accounts (Account)
open ApiKeys (ApiKeyEntry)
open Foundation.Documents
open JsonText (coerceText validText coerce_text_iff)
open ModelMappings

set_option autoImplicit false

/-- The `float64` amounts, of which the finite ones can be written. -/
class JsonAmount (Credit : Type) extends Zero Credit where
  decidableEq : DecidableEq Credit
  finite : Credit → Bool

-- Whole numbers keep their own zero and equality.
attribute [instance(100)] JsonAmount.toZero

instance (priority := 100) amountDecidableEq {Credit : Type} [JsonAmount Credit] : DecidableEq Credit :=
  JsonAmount.decidableEq

instance wholeAmounts : JsonAmount Int where
  zero := 0
  decidableEq := inferInstance
  finite := fun _ => true

inductive JsonNumber (Credit : Type) where
  | whole (value : Int)
  | amount (value : Credit)

abbrev JsonDocument (Credit : Type) := Document GoString (JsonNumber Credit)

abbrev JsonFormat (Credit Value : Type) := Format GoString (JsonNumber Credit) Value

section Scalars

variable {Credit : Type}

def text : JsonFormat Credit GoString := textual [] coerceText

def whole : JsonFormat Credit Int :=
  numeric 0 .whole fun
    | .whole value => some value
    | .amount _ => none

def amount [Zero Credit] : JsonFormat Credit Credit :=
  numeric 0 .amount fun
    | .whole _ => none
    | .amount value => some value

/-- What `omitempty` leaves out. -/
def noText (text : GoString) : Bool := text == []

def noWhole (value : Int) : Bool := value == 0

def notSet (value : Bool) : Bool := !value

def noAmount [JsonAmount Credit] (value : Credit) : Bool := value == 0

/-- A list of length zero is left out whether it is nil or empty. -/
def noMappings (mappings : Option (List ModelMappingRule)) : Bool :=
  (mappings.getD []).isEmpty

theorem read_text (value : GoString) :
    readMember (text : JsonFormat Credit GoString) (required text value) =
      some (coerceText value) := rfl

theorem read_whole (value : Int) :
    readMember (whole : JsonFormat Credit Int) (required whole value) = some value := rfl

theorem read_boolean (value : Bool) :
    readMember (boolean : JsonFormat Credit Bool) (required boolean value) = some value := rfl

theorem read_optional_text (value : GoString) :
    readMember (text : JsonFormat Credit GoString) (omitting noText text value) =
      some (coerceText value) := by
  apply read_omitting
  · intro empty
    have none_ : value = [] := by simpa [noText] using empty
    rw [none_]
    rfl
  · exact fun _ => rfl

theorem read_optional_whole (value : Int) :
    readMember (whole : JsonFormat Credit Int) (omitting noWhole whole value) = some value := by
  apply read_omitting
  · intro empty
    have none_ : value = 0 := by simpa [noWhole] using empty
    rw [none_]
    rfl
  · exact fun _ => rfl

theorem read_optional_boolean (value : Bool) :
    readMember (boolean : JsonFormat Credit Bool) (omitting notSet boolean value) =
      some value := by
  cases value <;> rfl

theorem read_optional_amount [JsonAmount Credit] (value : Credit) :
    readMember amount (omitting noAmount amount value) = some value := by
  apply read_omitting
  · intro empty
    have none_ : value = 0 := by simpa [noAmount] using empty
    rw [none_]
    rfl
  · exact fun _ => rfl

theorem read_optional_pointer (value : Option Bool) :
    readMember (nullable (boolean : JsonFormat Credit Bool))
      (omitting Option.isNone (nullable boolean) value) = some value := by
  cases value <;> rfl

end Scalars

section Records

variable {Credit : Type}

inductive MappingField where
  | key | value
  deriving DecidableEq

def MappingField.tag : MappingField → GoString
  | .key => lit "key"
  | .value => lit "value"

def mappingMember (mapping : ModelMappingRule) : MappingField → Option (JsonDocument Credit)
  | .key => required text mapping.key
  | .value => required text mapping.value

def collectMapping (member : MappingField → Option (JsonDocument Credit)) :
    Option ModelMappingRule := do
  let key ← readMember text (member .key)
  let value ← readMember text (member .value)
  some ⟨key, value⟩

def mappingFormat : JsonFormat Credit ModelMappingRule :=
  RecordFormat.format
    { fields := [.key, .value]
      complete := by intro field; cases field <;> decide
      tag := MappingField.tag
      distinct := by decide
      member := mappingMember
      collect := collectMapping }

def mappingTexts (mapping : ModelMappingRule) : List GoString :=
  [mapping.key, mapping.value]

def mapMappingTexts (f : GoString → GoString) (mapping : ModelMappingRule) : ModelMappingRule :=
  ⟨f mapping.key, f mapping.value⟩

theorem mapping_texts_iff (f : GoString → GoString) (mapping : ModelMappingRule) :
    mapMappingTexts f mapping = mapping ↔ ∀ text ∈ mappingTexts mapping, f text = text := by
  cases mapping
  simp [mapMappingTexts, mappingTexts]

theorem mapping_keeps :
    (mappingFormat : JsonFormat Credit ModelMappingRule).Keeps (mapMappingTexts coerceText) := by
  intro mapping
  unfold mappingFormat
  rw [record_read_write]
  simp only [collectMapping, mappingMember, read_text]
  rfl

inductive RuleField where
  | id | name | type | match_ | replace | enabled
  deriving DecidableEq

def RuleField.tag : RuleField → GoString
  | .id => lit "id"
  | .name => lit "name"
  | .type => lit "type"
  | .match_ => lit "match"
  | .replace => lit "replace"
  | .enabled => lit "enabled"

def ruleMember (rule : PromptFilterRule) : RuleField → Option (JsonDocument Credit)
  | .id => required text rule.id
  | .name => required text rule.name
  | .type => required text rule.type
  | .match_ => required text rule.match_
  | .replace => omitting noText text rule.replace
  | .enabled => required boolean rule.enabled

def collectRule (member : RuleField → Option (JsonDocument Credit)) :
    Option PromptFilterRule := do
  let id ← readMember text (member .id)
  let name ← readMember text (member .name)
  let type ← readMember text (member .type)
  let match_ ← readMember text (member .match_)
  let replace ← readMember text (member .replace)
  let enabled ← readMember boolean (member .enabled)
  some ⟨id, name, type, match_, replace, enabled⟩

def ruleFormat : JsonFormat Credit PromptFilterRule :=
  RecordFormat.format
    { fields := [.id, .name, .type, .match_, .replace, .enabled]
      complete := by intro field; cases field <;> decide
      tag := RuleField.tag
      distinct := by decide
      member := ruleMember
      collect := collectRule }

def ruleTexts (rule : PromptFilterRule) : List GoString :=
  [rule.id, rule.name, rule.type, rule.match_, rule.replace]

def mapRuleTexts (f : GoString → GoString) (rule : PromptFilterRule) : PromptFilterRule :=
  { rule with
    id := f rule.id
    name := f rule.name
    type := f rule.type
    match_ := f rule.match_
    replace := f rule.replace }

theorem rule_texts_iff (f : GoString → GoString) (rule : PromptFilterRule) :
    mapRuleTexts f rule = rule ↔ ∀ text ∈ ruleTexts rule, f text = text := by
  cases rule
  simp [mapRuleTexts, ruleTexts]

theorem rule_keeps :
    (ruleFormat : JsonFormat Credit PromptFilterRule).Keeps (mapRuleTexts coerceText) := by
  intro rule
  unfold ruleFormat
  rw [record_read_write]
  simp only [collectRule, ruleMember, read_text, read_boolean, read_optional_text]
  rfl

inductive ScheduleField where
  | enabled | cadence | keep | lastRun
  deriving DecidableEq

def ScheduleField.tag : ScheduleField → GoString
  | .enabled => lit "enabled"
  | .cadence => lit "cadence"
  | .keep => lit "keep"
  | .lastRun => lit "lastRun"

def scheduleMember (schedule : BackupSchedule) : ScheduleField → Option (JsonDocument Credit)
  | .enabled => omitting notSet boolean schedule.enabled
  | .cadence => omitting noText text schedule.cadence
  | .keep => omitting noWhole whole schedule.keep
  | .lastRun => omitting noWhole whole schedule.lastRun

def collectSchedule (member : ScheduleField → Option (JsonDocument Credit)) :
    Option BackupSchedule := do
  let enabled ← readMember boolean (member .enabled)
  let cadence ← readMember text (member .cadence)
  let keep ← readMember whole (member .keep)
  let lastRun ← readMember whole (member .lastRun)
  some ⟨enabled, cadence, keep, lastRun⟩

def scheduleFormat : JsonFormat Credit BackupSchedule :=
  RecordFormat.format
    { fields := [.enabled, .cadence, .keep, .lastRun]
      complete := by intro field; cases field <;> decide
      tag := ScheduleField.tag
      distinct := by decide
      member := scheduleMember
      collect := collectSchedule }

def mapScheduleTexts (f : GoString → GoString) (schedule : BackupSchedule) : BackupSchedule :=
  { schedule with cadence := f schedule.cadence }

theorem schedule_keeps :
    (scheduleFormat : JsonFormat Credit BackupSchedule).Keeps (mapScheduleTexts coerceText) := by
  intro schedule
  unfold scheduleFormat
  rw [record_read_write]
  simp only [collectSchedule, scheduleMember, read_optional_boolean, read_optional_text,
    read_optional_whole]
  rfl

/-- A struct with `omitzero`. -/
def noSchedule (schedule : BackupSchedule) : Bool := schedule == ⟨false, [], 0, 0⟩

theorem read_optional_schedule (schedule : BackupSchedule) :
    readMember (scheduleFormat : JsonFormat Credit BackupSchedule)
      (omitting noSchedule scheduleFormat schedule) =
        some (mapScheduleTexts coerceText schedule) := by
  apply read_omitting
  · intro empty
    have zero : schedule = ⟨false, [], 0, 0⟩ := by simpa [noSchedule] using empty
    rw [zero]
    rfl
  · exact fun _ => schedule_keeps schedule

inductive BackupField where
  | autoEnabled | autoKeep | schedule
  deriving DecidableEq

def BackupField.tag : BackupField → GoString
  | .autoEnabled => lit "autoEnabled"
  | .autoKeep => lit "autoKeep"
  | .schedule => lit "schedule"

def backupMember (backup : BackupConfig) : BackupField → Option (JsonDocument Credit)
  | .autoEnabled => omitting notSet boolean backup.autoEnabled
  | .autoKeep => omitting noWhole whole backup.autoKeep
  | .schedule => omitting noSchedule scheduleFormat backup.schedule

def collectBackup (member : BackupField → Option (JsonDocument Credit)) :
    Option BackupConfig := do
  let autoEnabled ← readMember boolean (member .autoEnabled)
  let autoKeep ← readMember whole (member .autoKeep)
  let schedule ← readMember scheduleFormat (member .schedule)
  some ⟨autoEnabled, autoKeep, schedule⟩

def backupFormat : JsonFormat Credit BackupConfig :=
  RecordFormat.format
    { fields := [.autoEnabled, .autoKeep, .schedule]
      complete := by intro field; cases field <;> decide
      tag := BackupField.tag
      distinct := by decide
      member := backupMember
      collect := collectBackup }

def mapBackupTexts (f : GoString → GoString) (backup : BackupConfig) : BackupConfig :=
  { backup with schedule := mapScheduleTexts f backup.schedule }

theorem backup_keeps :
    (backupFormat : JsonFormat Credit BackupConfig).Keeps (mapBackupTexts coerceText) := by
  intro backup
  unfold backupFormat
  rw [record_read_write]
  simp only [collectBackup, backupMember, read_optional_boolean, read_optional_whole,
    read_optional_schedule]
  rfl

end Records

end KiroProxy.Configuration
