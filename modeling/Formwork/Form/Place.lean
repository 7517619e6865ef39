import Formwork.Form.Decoder

namespace Formwork

namespace Json

inductive Step
  | key (key : String)
  | item (i : Nat)

def follow? : List Step → Json → Option Json
  | [], v => some v
  | .key key :: rest, .object members => (members.lookup key).bind (follow? rest)
  | .item i :: rest, .array items => items[i]?.bind (follow? rest)
  | _, _ => none

def mapMembers (f : String → Json → Json) : Json → Json
  | .object members => .object (members.map fun e ↦ (e.1, f e.1 e.2))
  | v => v

def modifyItem (i : Nat) (f : Json → Json) : Json → Json
  | .array items => .array (items.modify i f)
  | v => v

def underKey (key : String) (f : Json → Json) (k : String) : Json → Json :=
  if k = key then f else id

def modifyAt (f : Json → Json) : List Step → Json → Json
  | [] => f
  | .key key :: rest => mapMembers (underKey key (modifyAt f rest))
  | .item i :: rest => modifyItem i (modifyAt f rest)

def extend (key : String) (x : Json) : Json → Json
  | .object members => .object (insertEntry key x members)
  | v => v

end Json

def Purpose.key : Purpose → String
  | .visibility => "visibilityRules"
  | .disable => "disableRules"
  | .clear => "clearValueRules"

/-- An object of a description. Fields are counted in their form, all others in their field. -/
inductive Place
  | form
  | field (i : Nat)
  | choice (i j : Nat)
  | rule (i j : Nat)
  | condition (i : Nat) (purpose : Purpose) (j : Nat)

namespace Place

def steps : Place → List Json.Step
  | .form => []
  | .field i => [.key "fields", .item i]
  | .choice i j => [.key "fields", .item i, .key "options", .item j]
  | .rule i j => [.key "fields", .item i, .key "validation", .item j]
  | .condition i purpose j => [.key "fields", .item i, .key purpose.key, .item j]

def declared : Place → List String
  | .form => ["description", "fields", "id", "layout", "styling", "title"]
  | .field _ => Decode.fieldKeys
  | .choice _ _ => Decode.choiceKeys
  | .rule _ _ => ["message", "type", "value"]
  | .condition _ _ _ => ["field", "operator", "value"]

end Place

def Choice.extend (c : Choice) (key : String) (x : Json) : Choice :=
  { c with extra := c.extra.insert key x }

def Field.extend (f : Field) (key : String) (x : Json) : Field :=
  { f with extra := f.extra.insert key x }

namespace Form

def extra? (form : Form) : Place → Option Record
  | .field i => form.fields[i]?.map Field.extra
  | .choice i j => form.fields[i]?.bind fun f ↦ f.options[j]?.map Choice.extra
  | .form | .rule _ _ | .condition _ _ _ => none

/-- The form with one more extra entry at a place; where no extra entries are kept, it is the same
form. -/
def extend (form : Form) (key : String) (x : Json) : Place → Form
  | .field i => { form with fields := form.fields.modify i fun f ↦ f.extend key x }
  | .choice i j =>
    { form with fields := form.fields.modify i fun f ↦
      { f with options := f.options.modify j fun c ↦ c.extend key x } }
  | .form | .rule _ _ | .condition _ _ _ => form

end Form

end Formwork
