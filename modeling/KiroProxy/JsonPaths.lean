import KiroProxy.Foundation.Keyed
import KiroProxy.Json

/-!
# Paths in JSON values

A path leads to one value, by the keys of objects and the positions in arrays. What is written
at a path is found there, and edits under one step are edits of the value there.
-/

namespace KiroProxy

open Foundation (Keyed)

set_option autoImplicit false

namespace JsonFields

theorem set_keyed (fields : JsonFields) (key : GoString) (value : Json) :
    fields.set key value = Keyed.set fields key value := by
  induction fields with
  | nil => rfl
  | cons field fields ih => rw [set, Keyed.set, ih]

variable (fields : JsonFields) (key other : GoString) (value : Json)

theorem get_set_same : (fields.set key value).get key = some value := by
  rw [set_keyed]
  exact Keyed.get_set_same fields key value

theorem get_set_other (apart : other ≠ key) :
    (fields.set key value).get other = fields.get other := by
  rw [set_keyed]
  exact Keyed.get_set_other fields key other value apart

theorem set_set (first second : Json) :
    (fields.set key first).set key second = fields.set key second := by
  rw [set_keyed, set_keyed, set_keyed]
  exact Keyed.set_set fields key first second

theorem set_found (found : fields.get key = some value) : fields.set key value = fields := by
  rw [set_keyed]
  exact Keyed.set_found fields key value found

theorem get_delete_same : (fields.delete key).get key = none :=
  Keyed.get_delete_same fields key

theorem get_delete_other (apart : other ≠ key) :
    (fields.delete key).get other = fields.get other :=
  Keyed.get_delete_other fields key other apart

end JsonFields

inductive JsonStep where
  | key (name : GoString)
  | index (position : Nat)
  deriving DecidableEq

abbrev JsonPath := List JsonStep

structure Edit where
  path : JsonPath
  value : Json

namespace Json

def child : Json → JsonStep → Option Json
  | .obj fields, .key name => JsonFields.get fields name
  | .arr items, .index position => items[position]?
  | _, _ => none

def setChild (value : Json) (step : JsonStep) (new : Json) : Json :=
  match value, step with
  | .obj fields, .key name => .obj (JsonFields.set fields name new)
  | .arr items, .index position => .arr (items.set position new)
  | value, _ => value

def follow (value : Json) : JsonPath → Option Json
  | [] => some value
  | step :: path => (value.child step).bind fun inner => follow inner path

def replace (value : Json) (path : JsonPath) (new : Json) : Json :=
  match path with
  | [] => new
  | step :: path =>
      match value.child step with
      | some inner => value.setChild step (replace inner path new)
      | none => value

def applyEdit (value : Json) (edit : Edit) : Json := value.replace edit.path edit.value

def applyEdits (value : Json) (edits : List Edit) : Json := edits.foldl applyEdit value

end Json

def Edit.under (step : JsonStep) (edit : Edit) : Edit := { edit with path := step :: edit.path }

section Children

variable (value : Json) (step : JsonStep)

theorem child_set_same (new inner : Json) (found : value.child step = some inner) :
    (value.setChild step new).child step = some new := by
  cases value with
  | obj fields =>
      cases step with
      | key name => exact JsonFields.get_set_same fields name new
      | index position => simp [Json.child] at found
  | arr items =>
      cases step with
      | key name => simp [Json.child] at found
      | index position =>
          obtain ⟨bound, _⟩ := List.getElem?_eq_some_iff.mp found
          simp [Json.setChild, Json.child, bound]
  | _ => simp [Json.child] at found

theorem set_child_twice (first second : Json) :
    (value.setChild step first).setChild step second = value.setChild step second := by
  cases value with
  | obj fields =>
      cases step with
      | key name => exact congrArg Json.obj (JsonFields.set_set fields name first second)
      | index position => rfl
  | arr items =>
      cases step with
      | key name => rfl
      | index position => exact congrArg Json.arr (List.set_set ..)
  | _ => rfl

theorem set_child_found (inner : Json) (found : value.child step = some inner) :
    value.setChild step inner = value := by
  cases value with
  | obj fields =>
      cases step with
      | key name => exact congrArg Json.obj (JsonFields.set_found fields name inner found)
      | index position => simp [Json.child] at found
  | arr items =>
      cases step with
      | key name => simp [Json.child] at found
      | index position =>
          obtain ⟨bound, rfl⟩ := List.getElem?_eq_some_iff.mp found
          exact congrArg Json.arr (List.set_getElem_self bound)
  | _ => simp [Json.child] at found

end Children

section Edits

/-- Edits under one step are edits of the value there. -/
theorem apply_under (value inner : Json) (step : JsonStep) (edits : List Edit)
    (found : value.child step = some inner) :
    value.applyEdits (edits.map (Edit.under step)) =
      value.setChild step (inner.applyEdits edits) := by
  induction edits generalizing value inner with
  | nil => exact (set_child_found value step inner found).symm
  | cons edit edits ih =>
      have first : value.applyEdit (edit.under step) =
          value.setChild step (inner.applyEdit edit) := by
        rw [Json.applyEdit, Edit.under, Json.replace, found]
        rfl
      have there := child_set_same value step (inner.applyEdit edit) inner found
      rw [Json.applyEdits, List.map_cons, List.foldl_cons, first]
      exact (ih _ _ there).trans (set_child_twice value step _ _)

theorem apply_append (value : Json) (first second : List Edit) :
    value.applyEdits (first ++ second) = (value.applyEdits first).applyEdits second :=
  List.foldl_append

end Edits

end KiroProxy
