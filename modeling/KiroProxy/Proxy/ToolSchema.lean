import KiroProxy.Json

/-!
# Tool input schemas

The clean-up of a client's schema in `proxy/translator.go`. The source clones the
decoded map before it changes it; values here are immutable, so the clone is the
value itself.
-/

namespace KiroProxy.ToolSchema

set_option autoImplicit false

/-- Kiro rejects empty or malformed required arrays in tool schemas. -/
def malformedRequired : Json → Bool
  | .arr items => items.isEmpty
  | _ => true

def droppedField (key : GoString) (value : Json) : Bool :=
  key == lit "encrypted" || key == lit "additionalProperties" ||
    (key == lit "required" && malformedRequired value)

mutual

def cleanSchema : JsonFields → JsonFields
  | [] => []
  | (key, value) :: fields =>
      if droppedField key value then cleanSchema fields
      else (key, cleanValue value) :: cleanSchema fields

def cleanValue : Json → Json
  | .obj fields => .obj (cleanSchema fields)
  | .arr items => .arr (cleanItems items)
  | value => value

/-- Only the objects of an array are cleaned, not the arrays nested in it. -/
def cleanItems : List Json → List Json
  | [] => []
  | item :: items => cleanItem item :: cleanItems items

def cleanItem : Json → Json
  | .obj fields => .obj (cleanSchema fields)
  | value => value

end

def objectField (fields : JsonFields) (key : GoString) : Option JsonFields :=
  match fields.get key with
  | some (.obj value) => some value
  | _ => none

def addMissing (props : JsonFields) (field : GoString × Json) : JsonFields :=
  if (props.get field.1).isSome then props else props.set field.1 field.2

def addBranch (props : JsonFields) (branch : Json) : JsonFields :=
  match branch with
  | .obj fields => ((objectField fields (lit "properties")).getD []).foldl addMissing props
  | _ => props

def mergeBranchesIntoRoot (root : JsonFields) (branches : List Json) : JsonFields :=
  let props := branches.foldl addBranch ((objectField root (lit "properties")).getD [])
  if props = [] then root else root.set (lit "properties") (.obj props)

def flattenKeyword (state : JsonFields × Bool) (keyword : GoString) : JsonFields × Bool :=
  match state.1.get keyword with
  | none => state
  | some value =>
      let merged := match value with
        | .arr branches => mergeBranchesIntoRoot state.1 branches
        | _ => state.1
      (merged.delete keyword, true)

/-- A schema that carried a root composition keyword is forced back to an object. -/
def flattenTopLevelComposition (fields : JsonFields) : JsonFields :=
  let flattened := [lit "oneOf", lit "anyOf", lit "allOf"].foldl flattenKeyword (fields, false)
  if flattened.2 then flattened.1.set (lit "type") (.str (lit "object")) else flattened.1

def ensureObjectSchema (schema : Json) : Json :=
  match schema with
  | .obj fields =>
      let cleaned := flattenTopLevelComposition (cleanSchema fields)
      if (cleaned.get (lit "type")).isSome then .obj cleaned
      else .obj (cleaned.set (lit "type") (.str (lit "object")))
  | _ => .obj [(lit "type", .str (lit "object"))]

end KiroProxy.ToolSchema
