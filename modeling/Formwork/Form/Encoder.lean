import Formwork.Form.Basic

namespace Formwork

namespace Encode

def optional (key : String) : Option Json → List (String × Json)
  | none => []
  | some v => [(key, v)]

def optionalString (key : String) (s : Option String) : List (String × Json) :=
  optional key (s.map .string)

def nonempty {α : Type} (key : String) (encode : α → Json) (as : List α) : List (String × Json) :=
  if as.isEmpty then [] else [(key, .array (as.map encode))]

end Encode

open Encode

def Rule.toJson (r : Rule) : Json :=
  Record.toJson (.ofList
    ([("type", .string r.kind.name)] ++ optional "value" r.value ++
      optionalString "message" r.message))

def Condition.toJson (c : Condition) : Json :=
  Record.toJson (.ofList
    ([("field", .string c.field), ("operator", .string c.operator.name)] ++
      optional "value" c.value))

def Choice.toJson (c : Choice) : Json :=
  Record.toJson (c.extra.insertAll [("label", .string c.label), ("value", c.value)])

def Field.toJson (f : Field) : Json :=
  Record.toJson (f.extra.insertAll (
    [("id", .string f.id), ("name", .string f.name), ("label", .string f.label),
      ("type", .string f.type.name)] ++
    optional "defaultValue" f.defaultValue ++
    nonempty "validation" Rule.toJson f.validation ++
    nonempty "visibilityRules" Condition.toJson f.visibilityRules ++
    nonempty "disableRules" Condition.toJson f.disableRules ++
    nonempty "clearValueRules" Condition.toJson f.clearRules ++
    [("multiple", .bool f.multiple), ("disabled", .bool f.disabled), ("hidden", .bool f.hidden),
      ("reserveSpace", .bool f.reserveSpace), ("validateOnChange", .bool f.validateOnChange),
      ("restrictInput", .bool f.restrictInput), ("clearable", .bool f.clearable)] ++
    optionalString "placeholder" f.placeholder ++
    optionalString "helperText" f.helperText ++
    nonempty "options" Choice.toJson f.options))

def Form.toJson (form : Form) : Json :=
  Record.toJson (.ofList (
    optionalString "id" form.id ++ optionalString "title" form.title ++
    optionalString "description" form.description ++
    [("fields", .array (form.fields.map Field.toJson))] ++
    optional "layout" form.layout ++ optional "styling" form.styling))

end Formwork
