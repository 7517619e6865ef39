import Formwork.Form.Basic

namespace Formwork.DocumentSchema

def obj (entries : List (String × Json)) : Json := Record.toJson (.ofList entries)

def names (ns : List String) : Json := .array (ns.map .string)

def described (description : String) (entries : List (String × Json)) : Json :=
  obj (("description", .string description) :: entries)

def ofType (type : String) : List (String × Json) := [("type", .string type)]

def text : Json := obj (ofType "string")

def textOrNull : Json := obj [("type", names ["string", "null"])]

def anything : Json := .bool true

def flagEntries : List (String × Json) := ("default", .bool false) :: ofType "boolean"

def flag : Json := obj flagEntries

def reference (definition : String) : Json :=
  obj [("$ref", .string ("#/definitions/" ++ definition))]

def listOf (definition : String) : Json := obj (("items", reference definition) :: ofType "array")

def enumeration (ns : List String) : List (String × Json) := ("enum", names ns) :: ofType "string"

def openEnumeration (ns : List String) (other : String) : Json :=
  obj [("oneOf", .array [
    obj (enumeration (ns.filter (· != "unknown"))), described other (enumeration ["unknown"])])]

def recordEntries (required : List String) (properties : List (String × Json)) :
    List (String × Json) :=
  [("properties", obj properties), ("required", names required)] ++ ofType "object"

def closedRecord (required : List String) (properties : List (String × Json)) : Json :=
  obj (recordEntries required properties)

def openRecord (required : List String) (properties : List (String × Json)) : Json :=
  obj (("additionalProperties", .bool true) :: recordEntries required properties)

def condition : Json :=
  described "A condition on another field's value." (recordEntries ["field", "operator"] [
    ("field", text), ("operator", reference "Operator"),
    ("value", described "`None` stands for an omitted value, which is distinct from `null`." [])])

def choice : Json := openRecord ["label", "value"] [("label", text), ("value", anything)]

def rule : Json :=
  closedRecord ["type"] [
    ("message", textOrNull), ("type", reference "ValidationKind"), ("value", anything)]

def field : Json :=
  openRecord ["id", "name", "type"] [
    ("clearValueRules", listOf "ConditionRule"),
    ("clearable", described "The widget offers a clear action." flagEntries),
    ("defaultValue", described "An explicit `null` is kept as `Some(Value::Null)`." []),
    ("disableRules", listOf "ConditionRule"), ("disabled", flag), ("helperText", textOrNull),
    ("hidden", flag), ("id", text), ("label", obj (("default", .string "") :: ofType "string")),
    ("multiple", flag), ("name", described "Storage key inside the value bag." (ofType "string")),
    ("options", listOf "FieldOption"), ("placeholder", textOrNull), ("reserveSpace", flag),
    ("restrictInput",
      described "Reject text changes that do not match the field's pattern rule." flagEntries),
    ("type", reference "FieldType"), ("validateOnChange", flag),
    ("validation", listOf "ValidationRule"), ("visibilityRules", listOf "ConditionRule")]

def definitions : Json :=
  obj [("ConditionRule", condition), ("FieldOption", choice), ("FieldSchema", field),
    ("FieldType", obj (enumeration (FieldType.all.map FieldType.name))),
    ("Operator",
      openEnumeration (Operator.all.map Operator.name)
        "Any operator name this crate does not know."),
    ("ValidationKind",
      openEnumeration (RuleKind.all.map RuleKind.name)
        "Any rule type this crate does not know; skipped at compile time."),
    ("ValidationRule", rule)]

def document : Json :=
  described "Declarative description of a whole form." (
    [("$schema", .string "http://json-schema.org/draft-07/schema#"), ("definitions", definitions),
      ("title", .string "FormSchema")] ++
    recordEntries ["fields"] [
      ("description", textOrNull), ("fields", listOf "FieldSchema"), ("id", textOrNull),
      ("layout", described "Grid/layout hints for the rendering layer. Never read by the core." []),
      ("styling", anything), ("title", textOrNull)])

end Formwork.DocumentSchema
