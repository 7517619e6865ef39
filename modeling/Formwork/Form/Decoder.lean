import Formwork.Form.Basic
import Formwork.Form.Error

namespace Formwork

namespace Decode

def string : Json → Except DecodeError String
  | .string s => .ok s
  | v => .error (.wrongType v .string)

def boolean : Json → Except DecodeError Bool
  | .bool b => .ok b
  | v => .error (.wrongType v .boolean)

/-- A text, where `null` is as good as nothing. -/
def optionalString : Json → Except DecodeError (Option String)
  | .null => .ok none
  | v => some <$> string v

def list {α : Type} (decode : Json → Except DecodeError α) : Json → Except DecodeError (List α)
  | .array items => items.mapM decode
  | v => .error (.wrongType v .sequence)

def member {α : Type} (decode : Json → Except DecodeError α) (members : List (String × Json))
    (key : String) : Except DecodeError (Option α) :=
  match members.lookup key with
  | none => .ok none
  | some v => some <$> decode v

def memberD {α : Type} (decode : Json → Except DecodeError α) (members : List (String × Json))
    (key : String) (default : α) : Except DecodeError α := do
  return (← member decode members key).getD default

def require {α : Type} (key : String) : Option α → Except DecodeError α
  | some a => .ok a
  | none => .error (.missing key)

/-- One of a fixed set of names: the text of the name, or an object with the name as its only key,
over `null`. -/
def tag {α : Type} (ofName : String → Except DecodeError α) : Json → Except DecodeError α
  | .string name => ofName name
  | .object [(name, v)] => do
    let a ← ofName name
    if v.isNull then return a else .error (.wrongType v .unit)
  | .object _ => .error .notSingleKey
  | v => .error (.wrongType v .variant)

def fieldType : Json → Except DecodeError FieldType :=
  tag fun name ↦
    match FieldType.ofName? name with
    | some t => .ok t
    | none => .error (.unknownVariant name (FieldType.all.map FieldType.name))

def ruleKind : Json → Except DecodeError RuleKind := tag fun name ↦ .ok (RuleKind.ofName name)

def operator : Json → Except DecodeError Operator := tag fun name ↦ .ok (Operator.ofName name)

def noMore (length size : Nat) : Except DecodeError Unit :=
  if size < length then .error (.tooLong length) else .ok ()

/-- A rule, as an object or as its kind, argument and message in a row. -/
def rule : Json → Except DecodeError Rule
  | .object members => do
    let message ← memberD optionalString members "message" none
    let kind ← member ruleKind members "type"
    return ⟨← require "type" kind, members.lookup "value", message⟩
  | .array [] => .error (.tooShort 0 "ValidationRule" 3)
  | .array (kind :: rest) => do
    let kind ← ruleKind kind
    let message ← match rest[1]? with
      | some v => optionalString v
      | none => .ok none
    noMore (rest.length + 1) 3
    return ⟨kind, rest[0]?, message⟩
  | v => .error (.wrongType v (.record "ValidationRule"))

def condition : Json → Except DecodeError Condition
  | .object members => do
    let field ← member string members "field"
    let operator ← member operator members "operator"
    return ⟨← require "field" field, ← require "operator" operator, members.lookup "value"⟩
  | .array [] => .error (.tooShort 0 "ConditionRule" 3)
  | .array (field :: rest) => do
    let field ← string field
    match rest with
    | [] => .error (.tooShort 1 "ConditionRule" 3)
    | op :: rest => do
      let op ← operator op
      noMore (rest.length + 2) 3
      return ⟨field, op, rest[0]?⟩
  | v => .error (.wrongType v (.record "ConditionRule"))

def extras (declared : List String) (members : List (String × Json)) : Record :=
  .ofList (members.filter fun e ↦ !declared.contains e.1)

def choiceKeys : List String := ["label", "value"]

def choice : Json → Except DecodeError Choice
  | .object members => do
    let label ← member string members "label"
    return ⟨← require "label" label, ← require "value" (members.lookup "value"),
      extras choiceKeys members⟩
  | v => .error (.wrongType v (.record "FieldOption"))

def fieldKeys : List String :=
  ["clearValueRules", "clearable", "defaultValue", "disableRules", "disabled", "helperText",
    "hidden", "id", "label", "multiple", "name", "options", "placeholder", "reserveSpace",
    "restrictInput", "type", "validateOnChange", "validation", "visibilityRules"]

def field : Json → Except DecodeError Field
  | .object members => do
    let clearRules ← memberD (list condition) members "clearValueRules" []
    let clearable ← memberD boolean members "clearable" false
    let disableRules ← memberD (list condition) members "disableRules" []
    let disabled ← memberD boolean members "disabled" false
    let helperText ← memberD optionalString members "helperText" none
    let hidden ← memberD boolean members "hidden" false
    let id ← member string members "id"
    let label ← memberD string members "label" ""
    let multiple ← memberD boolean members "multiple" false
    let name ← member string members "name"
    let options ← memberD (list choice) members "options" []
    let placeholder ← memberD optionalString members "placeholder" none
    let reserveSpace ← memberD boolean members "reserveSpace" false
    let restrictInput ← memberD boolean members "restrictInput" false
    let type ← member fieldType members "type"
    let validateOnChange ← memberD boolean members "validateOnChange" false
    let validation ← memberD (list rule) members "validation" []
    let visibilityRules ← memberD (list condition) members "visibilityRules" []
    let id ← require "id" id
    let name ← require "name" name
    let type ← require "type" type
    return {
      id, name, label, type, validation, visibilityRules, disableRules, clearRules, multiple,
      disabled, hidden, reserveSpace, validateOnChange, restrictInput, clearable, placeholder,
      helperText, options
      defaultValue := members.lookup "defaultValue"
      extra := extras fieldKeys members }
  | v => .error (.wrongType v (.record "FieldSchema"))

/-- Any value but `null`, which is as good as nothing. -/
def present? (members : List (String × Json)) (key : String) : Option Json :=
  (members.lookup key).filter fun v ↦ !v.isNull

def form (members : List (String × Json)) : Except DecodeError Form := do
  let description ← memberD optionalString members "description" none
  let fields ← memberD (list field) members "fields" []
  let id ← memberD optionalString members "id" none
  let title ← memberD optionalString members "title" none
  return ⟨id, title, description, fields, present? members "layout", present? members "styling"⟩

end Decode

def Form.ofJson (v : Json) : Except FormError Form :=
  match v with
  | .object members =>
    match members.lookup "fields" with
    | some (.array _) => (Decode.form members).mapError .malformed
    | _ => .error .noFields
  | v => .error (.notObject v)

end Formwork
