import Formwork.Validation.RuleDemand

namespace Formwork

structure Check where
  message : String
  demand : Demand

structure FieldChecks where
  name : String
  shape : Shape
  backend : Backend
  checks : List Check
  required : Option String

/-- The rule's own message, or one that says little. -/
def Rule.messageText (r : Rule) : String :=
  r.message.getD (if r.kind = .required then "Required" else "Invalid")

namespace Field

def check? (f : Field) (backend : Backend) (rule : Rule) : WithRemarks (Option Check) :=
  let (c, remarks) := rule.demand? f backend
  (c.map fun c ↦ ⟨rule.messageText, c⟩, remarks)

def checks (f : Field) (backend : Backend) : FieldChecks where
  name := f.name
  shape := f.shape
  backend := backend
  checks := f.validation.filterMap fun rule ↦ (f.check? backend rule).1
  required := f.requirement?.map Rule.messageText

def ruleRemarks (f : Field) (backend : Backend) : List Remark :=
  f.validation.flatMap fun rule ↦ (f.check? backend rule).2

end Field

namespace FieldChecks

def isRequired (w : FieldChecks) : Bool := w.required.isSome

def failing? (w : FieldChecks) : Entry → Option Check
  | .present v => w.checks.find? fun c ↦ !c.demand.isMet w.backend v
  | _ => none

/-- What is said of a value that passes all checks. A field of a yes-or-no type always needs an
answer. -/
def lastWord? (w : FieldChecks) (v : Entry) : Option String :=
  match w.required with
  | some message => if w.shape.suffices v then none else some message
  | none =>
    match w.shape, v with
    | .boolean, .empty => some Shape.boolean.complaint
    | _, _ => none

def validate (w : FieldChecks) (v : Option Json) : Option String :=
  match w.shape.read v with
  | .misshapen => some w.shape.complaint
  | v =>
    match w.failing? v with
    | some c => some c.message
    | none => w.lastWord? v

end FieldChecks

namespace Field

/-- The pattern that restricts what is typed: that of the first pattern rule, if it is one. -/
def inputPattern? (f : Field) : Option Pattern := do
  let rule ← f.validation.find? (·.kind == .pattern)
  Pattern.parse? (← (← rule.value).string?)

/-- Whether text may be entered. Only a field that restricts its input refuses any, and never the
empty text. -/
def acceptsText (f : Field) (text : String) : Bool :=
  if !f.restrictInput || text.isEmpty then true
  else match f.inputPattern? with
    | some p => p.search .unicode text != .absent
    | none => true

end Field

end Formwork
