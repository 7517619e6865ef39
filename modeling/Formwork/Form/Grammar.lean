import Formwork.Json.Basic

namespace Formwork.Grammar

def IsText (v : Json) : Prop := ∃ s, v = .string s

def IsTextOrNull (v : Json) : Prop := v = .null ∨ IsText v

def IsFlag (v : Json) : Prop := ∃ b, v = .bool b

/-- A name is spelled as text, or as the only key of an object that has `null` there. -/
inductive Spells (name : String) : Json → Prop
  | text : Spells name (.string name)
  | key : Spells name (.object [(name, .null)])

def IsTag (v : Json) : Prop := ∃ name, Spells name v

def typeNames : List String :=
  ["text", "password", "number", "email", "url", "tel", "textarea", "checkbox", "switch", "radio",
    "select", "autocomplete", "date", "time", "datetime", "daterange", "file"]

def IsTypeTag (v : Json) : Prop := ∃ name ∈ typeNames, Spells name v

def IsListOf (P : Json → Prop) (v : Json) : Prop := ∃ items, v = .array items ∧ ∀ w ∈ items, P w

def Has (members : List (String × Json)) (key : String) (P : Json → Prop) : Prop :=
  ∃ v, members.lookup key = some v ∧ P v

def MayHave (members : List (String × Json)) (key : String) (P : Json → Prop) : Prop :=
  ∀ v, members.lookup key = some v → P v

/-- A rule is an object, or a row of its kind, its argument and its message that may end behind each
of them. -/
inductive IsRule : Json → Prop
  | object {members : List (String × Json)} :
      Has members "type" IsTag → MayHave members "message" IsTextOrNull → IsRule (.object members)
  | kind {k : Json} : IsTag k → IsRule (.array [k])
  | value {k v : Json} : IsTag k → IsRule (.array [k, v])
  | message {k v m : Json} : IsTag k → IsTextOrNull m → IsRule (.array [k, v, m])

/-- A condition is an object, or a row of its path, its operator and perhaps a value. -/
inductive IsCondition : Json → Prop
  | object {members : List (String × Json)} :
      Has members "field" IsText → Has members "operator" IsTag → IsCondition (.object members)
  | operator {f o : Json} : IsText f → IsTag o → IsCondition (.array [f, o])
  | value {f o v : Json} : IsText f → IsTag o → IsCondition (.array [f, o, v])

def IsChoice (v : Json) : Prop :=
  ∃ members, v = .object members ∧ Has members "label" IsText ∧ Has members "value" fun _ ↦ True

structure FieldMembers (members : List (String × Json)) : Prop where
  texts : ∀ key ∈ ["id", "name"], Has members key IsText
  type : Has members "type" IsTypeTag
  label : MayHave members "label" IsText
  hints : ∀ key ∈ ["placeholder", "helperText"], MayHave members key IsTextOrNull
  flags : ∀ key ∈ ["multiple", "disabled", "hidden", "reserveSpace", "validateOnChange",
    "restrictInput", "clearable"], MayHave members key IsFlag
  rules : MayHave members "validation" (IsListOf IsRule)
  conditions : ∀ key ∈ ["visibilityRules", "disableRules", "clearValueRules"],
    MayHave members key (IsListOf IsCondition)
  options : MayHave members "options" (IsListOf IsChoice)

def IsFormField (v : Json) : Prop := ∃ members, v = .object members ∧ FieldMembers members

structure FormMembers (members : List (String × Json)) : Prop where
  texts : ∀ key ∈ ["id", "title", "description"], MayHave members key IsTextOrNull
  fields : Has members "fields" (IsListOf IsFormField)

def IsForm (v : Json) : Prop := ∃ members, v = .object members ∧ FormMembers members

end Formwork.Grammar
