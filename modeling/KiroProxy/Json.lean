import KiroProxy.GoStrings

/-!
# JSON values

What `encoding/json` decodes into an `interface{}`. A number is kept as the text
it is written back as; an object is a list of fields with distinct keys, whose
order nothing depends on.
-/

namespace KiroProxy

set_option autoImplicit false

inductive Json where
  | null
  | bool (value : Bool)
  | num (text : GoString)
  | str (text : GoString)
  | arr (items : List Json)
  | obj (fields : List (GoString × Json))

abbrev JsonFields := List (GoString × Json)

namespace JsonFields

def get (fields : JsonFields) (key : GoString) : Option Json := fields.lookup key

def delete (fields : JsonFields) (key : GoString) : JsonFields :=
  fields.filter (fun field => field.1 != key)

def set (fields : JsonFields) (key : GoString) (value : Json) : JsonFields :=
  match fields with
  | [] => [(key, value)]
  | field :: rest =>
      if field.1 = key then (key, value) :: rest else field :: set rest key value

end JsonFields
end KiroProxy
