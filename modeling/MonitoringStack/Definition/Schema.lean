import MonitoringStack.Wire.Record

namespace MonitoringStack

structure Notes where
  description : Option String := none
  default : Option Json := none
  nullable : Bool := false
  title : Option String := none

namespace Notes

def described (description : String) : Notes := { description := some description }

def absentable (description : String) : Notes :=
  { description := some description, nullable := true }

def defaulting (default : Json) : Notes := { default := some default }

def defaultingTo (default : Json) (description : String) : Notes :=
  { default := some default, description := some description }

end Notes

/-- The values that an OpenAPI schema admits. -/
inductive Schema where
  | boolean (notes : Notes)
  | int32 (notes : Notes)
  | string (notes : Notes)
  | timestamp (notes : Notes)
  | choice (names : List String) (notes : Notes)
  | list (item : Schema) (notes : Notes)
  | record (fields : List (String × Schema)) (required : List String) (notes : Notes)

namespace Schema

open Wire

def optionalText (description : String) : Schema :=
  .string (.defaultingTo (.string "") description)

def flag (notes : Notes) : Schema := .boolean { notes with default := some (.bool false) }

def fields (type : String) (notes : Notes)
    (choices format items properties required : Option Json) : Json :=
  .object <| present "default" id notes.default ++
    present "description" .string notes.description ++ present "enum" id choices ++
    present "format" id format ++ present "items" id items ++
    present "nullable" .bool (if notes.nullable then some true else none) ++
    present "properties" id properties ++ present "required" id required ++
    present "title" .string notes.title ++ [("type", .string type)]

def scalar (type : String) (format : Option String) (notes : Notes) : Json :=
  fields type notes none (format.map .string) none none none

mutual

def encode : Schema → Json
  | .boolean notes => scalar "boolean" none notes
  | .int32 notes => scalar "integer" (some "int32") notes
  | .string notes => scalar "string" none notes
  | .timestamp notes => scalar "string" (some "date-time") notes
  | .choice names notes => fields "string" notes (some (strings names)) none none none none
  | .list item notes => fields "array" notes none none (some (encode item)) none none
  | .record properties required notes =>
    fields "object" notes none none none (some (.object (encodeFields properties)))
      (if required.isEmpty then none else some (strings required))

def encodeFields : List (String × Schema) → List (String × Json)
  | [] => []
  | (key, schema) :: rest => (key, encode schema) :: encodeFields rest

end

end Schema

end MonitoringStack
