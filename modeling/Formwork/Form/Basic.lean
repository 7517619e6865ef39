import Formwork.Condition.Basic
import Formwork.Form.FieldType
import Formwork.Record.Basic

namespace Formwork

inductive RuleKind
  | required
  | email
  | url
  | minLength
  | maxLength
  | length
  | pattern
  | min
  | max
  | step
  | unknown
deriving DecidableEq

namespace RuleKind

def all : List RuleKind :=
  [.required, .email, .url, .minLength, .maxLength, .length, .pattern, .min, .max, .step, .unknown]

def name : RuleKind → String
  | .required => "required"
  | .email => "email"
  | .url => "url"
  | .minLength => "minLength"
  | .maxLength => "maxLength"
  | .length => "length"
  | .pattern => "pattern"
  | .min => "min"
  | .max => "max"
  | .step => "step"
  | .unknown => "unknown"

def ofName (name : String) : RuleKind := (all.find? (·.name == name)).getD .unknown

end RuleKind

/-- What is asked of a value, with the argument and the message that the form gives for it. -/
structure Rule where
  kind : RuleKind
  value : Option Json
  message : Option String

structure Choice where
  label : String
  value : Json
  extra : Record

structure Field where
  id : String
  /-- The key of the field's value in the bag. -/
  name : String
  label : String
  type : FieldType
  /-- A default of `null` is not the same as none. -/
  defaultValue : Option Json
  validation : List Rule
  visibilityRules : List Condition
  disableRules : List Condition
  clearRules : List Condition
  multiple : Bool
  disabled : Bool
  hidden : Bool
  reserveSpace : Bool
  validateOnChange : Bool
  restrictInput : Bool
  clearable : Bool
  placeholder : Option String
  helperText : Option String
  options : List Choice
  extra : Record

structure Form where
  id : Option String
  title : Option String
  description : Option String
  fields : List Field
  layout : Option Json
  styling : Option Json

namespace Rule

def ofKind (kind : RuleKind) : Rule := ⟨kind, none, none⟩

end Rule

namespace Field

def named (name : String) (type : FieldType) : Field where
  id := name
  name := name
  label := name
  type := type
  defaultValue := none
  validation := []
  visibilityRules := []
  disableRules := []
  clearRules := []
  multiple := false
  disabled := false
  hidden := false
  reserveSpace := false
  validateOnChange := false
  restrictInput := false
  clearable := false
  placeholder := none
  helperText := none
  options := []
  extra := .empty

def requirement? (f : Field) : Option Rule := f.validation.find? (·.kind == .required)

def isRequired (f : Field) : Bool := f.requirement?.isSome

def caption (f : Field) : String :=
  if f.label.isEmpty || f.label.toList.map Char.toLower == f.name.toList.map Char.toLower then
    f.name
  else f.label ++ " (" ++ f.name ++ ")"

def conditions (f : Field) : Purpose → List Condition
  | .visibility => f.visibilityRules
  | .disable => f.disableRules
  | .clear => f.clearRules

end Field

namespace Form

/-- The first field of a name. -/
def field? (form : Form) (name : String) : Option Field := form.fields.find? (·.name == name)

def fieldNames (form : Form) : List String := form.fields.map Field.name

end Form

def emptyRange : Json := .object [("end", .null), ("start", .null)]

namespace Field

def holdsList (f : Field) : Bool :=
  match f.type with
  | .select | .autocomplete => f.multiple
  | _ => false

/-- The default that the form gives, or else one by type. Numbers start as empty text, which zero is
not. -/
def initialValue (f : Field) : Json :=
  match f.defaultValue with
  | some v => v
  | none =>
    if f.holdsList then .array []
    else match f.type with
      | .checkbox | .switch => .bool false
      | .daterange => emptyRange
      | .file => .null
      | _ => .string ""

def blankValue (f : Field) : Json :=
  if f.holdsList then .array []
  else match f.type with
    | .daterange => emptyRange
    | .checkbox | .switch => .bool false
    | .date | .time | .datetime | .file => .null
    | _ => .string ""

/-- Whether a value, or the lack of one, counts as nothing entered. -/
def holdsNothing (f : Field) (v : Option Json) : Bool :=
  Json.isNothing v || Json.sameOption v (some f.blankValue)

end Field

def Form.initialBag (form : Form) : Bag :=
  .ofList (form.fields.map fun f ↦ (f.name, f.initialValue))

end Formwork
