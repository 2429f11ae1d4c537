import Mathlib.Data.List.Nodup

/-!
# Documents of records

A value written as a document and read back from it. A record is written member
by member, each under the tag of its field, and a member may be left out; a
member that is left out reads as the null it would have been.
-/

namespace KiroProxy.Foundation.Documents

set_option autoImplicit false

inductive Document (Text Number : Type*) where
  | null
  | bool (value : Bool)
  | number (value : Number)
  | text (value : Text)
  | list (items : List (Document Text Number))
  | members (entries : List (Text × Document Text Number))

structure Format (Text Number Value : Type*) where
  write : Value → Document Text Number
  read : Document Text Number → Option Value

variable {Text Number Value Field : Type*}

/-- What a value is read back as. -/
def Format.Keeps (format : Format Text Number Value) (kept : Value → Value) : Prop :=
  ∀ value, format.read (format.write value) = some (kept value)

section Values

def boolean : Format Text Number Bool where
  write := .bool
  read
    | .null => some false
    | .bool value => some value
    | _ => none

/-- Texts, as the writer changes them. -/
def textual (zero : Text) (changed : Text → Text) : Format Text Number Text where
  write text := .text (changed text)
  read
    | .null => some zero
    | .text value => some value
    | _ => none

/-- Numbers of one kind among those of the document. -/
def numeric (zero : Value) (wrap : Value → Number) (unwrap : Number → Option Value) :
    Format Text Number Value where
  write value := .number (wrap value)
  read
    | .null => some zero
    | .number value => unwrap value
    | _ => none

def listOf (format : Format Text Number Value) : Format Text Number (List Value) where
  write values := .list (values.map format.write)
  read
    | .null => some []
    | .list items => items.mapM format.read
    | _ => none

def nullable (format : Format Text Number Value) : Format Text Number (Option Value) where
  write
    | none => .null
    | some value => format.write value
  read
    | .null => some none
    | document => (format.read document).map some

theorem list_keeps (format : Format Text Number Value) (kept : Value → Value)
    (keeps : format.Keeps kept) : (listOf format).Keeps (List.map kept) := by
  intro values
  change (values.map format.write).mapM format.read = some (values.map kept)
  induction values with
  | nil => rfl
  | cons value values ih =>
      rw [List.map_cons, List.mapM_cons, keeps value, ih]
      rfl

theorem nullable_keeps (format : Format Text Number Value) (kept : Value → Value)
    (keeps : format.Keeps kept) (written : ∀ value, format.write value ≠ .null) :
    (nullable format).Keeps (Option.map kept) := by
  intro value
  cases value with
  | none => rfl
  | some value =>
      have read : (format.read (format.write value)).map some = some (some (kept value)) := by
        rw [keeps value]
        rfl
      cases document : format.write value with
      | null => exact absurd document (written value)
      | _ =>
          rw [document] at read
          simpa [nullable, document] using read

end Values

section Members

/-- A member as it is written; none is a member left out. -/
def required (format : Format Text Number Value) (value : Value) :
    Option (Document Text Number) :=
  some (format.write value)

def omitting (empty : Value → Bool) (format : Format Text Number Value) (value : Value) :
    Option (Document Text Number) :=
  if empty value then none else some (format.write value)

def readMember (format : Format Text Number Value) (member : Option (Document Text Number)) :
    Option Value :=
  format.read (member.getD .null)

theorem read_required (format : Format Text Number Value) (kept : Value → Value)
    (keeps : format.Keeps kept) (value : Value) :
    readMember format (required format value) = some (kept value) :=
  keeps value

/-- A member may be left out where null reads as what is kept of its value. -/
theorem read_omitting (empty : Value → Bool) (format : Format Text Number Value)
    (value kept : Value) (left : empty value = true → format.read .null = some kept)
    (stays : empty value = false → format.read (format.write value) = some kept) :
    readMember format (omitting empty format value) = some kept := by
  unfold readMember omitting
  split_ifs with out
  · exact left out
  · exact stays (Bool.eq_false_iff.mpr out)

theorem read_omitting_list (format : Format Text Number Value) (kept : Value → Value)
    (keeps : format.Keeps kept) (values : List Value) :
    readMember (listOf format) (omitting List.isEmpty (listOf format) values) =
      some (values.map kept) := by
  apply read_omitting
  · intro empty
    rw [List.isEmpty_iff.mp empty]
    rfl
  · exact fun _ => list_keeps format kept keeps values

/-- The members of a document by their tags. -/
def written (fields : List Field) (tag : Field → Text)
    (member : Field → Option (Document Text Number)) : List (Text × Document Text Number) :=
  fields.filterMap fun field => (member field).map fun document => (tag field, document)

theorem lookup_other [DecidableEq Text] (fields : List Field) (tag : Field → Text)
    (member : Field → Option (Document Text Number)) (field : Field)
    (apart : tag field ∉ fields.map tag) :
    (written fields tag member).lookup (tag field) = none := by
  rw [List.lookup_eq_none_iff]
  intro entry inside
  obtain ⟨other, listed, found⟩ := List.mem_filterMap.mp inside
  obtain ⟨document, _, rfl⟩ := Option.map_eq_some_iff.mp found
  rw [bne_iff_ne]
  intro same
  rw [same] at apart
  exact apart (List.mem_map_of_mem listed)

/-- Under distinct tags, every field finds its own member. -/
theorem lookup_written [DecidableEq Text] (fields : List Field) (tag : Field → Text)
    (distinct : (fields.map tag).Nodup) (member : Field → Option (Document Text Number))
    (field : Field) (listed : field ∈ fields) :
    (written fields tag member).lookup (tag field) = member field := by
  induction fields with
  | nil => exact absurd listed List.not_mem_nil
  | cons first fields ih =>
      rw [List.map_cons, List.nodup_cons] at distinct
      unfold written at ih ⊢
      rw [List.filterMap_cons]
      cases List.mem_cons.mp listed with
      | inl same =>
          have later := lookup_other fields tag member first distinct.1
          rw [same]
          cases member first with
          | none => exact later
          | some document => simp
      | inr later =>
          have apart : tag field ≠ tag first := by
            intro same
            rw [← same] at distinct
            exact distinct.1 (List.mem_map_of_mem later)
          cases member first with
          | none => exact ih distinct.2 later
          | some document =>
              have other : (tag field == tag first) = false := by simpa using apart
              simp only [Option.map_some, List.lookup_cons, other]
              exact ih distinct.2 later

end Members

section Records

/-- How a record is written and read: its fields with their tags, each field's member,
and the record of what the members are read as. -/
structure RecordFormat (Text Number Field Value : Type*) where
  fields : List Field
  complete : ∀ field, field ∈ fields
  tag : Field → Text
  distinct : (fields.map tag).Nodup
  member : Value → Field → Option (Document Text Number)
  collect : (Field → Option (Document Text Number)) → Option Value

variable [DecidableEq Text]

def RecordFormat.format (record : RecordFormat Text Number Field Value) :
    Format Text Number Value where
  write value := .members (written record.fields record.tag (record.member value))
  read
    | .null => record.collect fun _ => none
    | .members entries => record.collect fun field => entries.lookup (record.tag field)
    | _ => none

/-- A record is read back from the members it was written as. -/
theorem record_read_write (record : RecordFormat Text Number Field Value) (value : Value) :
    record.format.read (record.format.write value) = record.collect (record.member value) := by
  change record.collect (fun field =>
    (written record.fields record.tag (record.member value)).lookup (record.tag field)) = _
  congr 1
  funext field
  exact lookup_written record.fields record.tag record.distinct (record.member value) field
    (record.complete field)

end Records

end KiroProxy.Foundation.Documents
