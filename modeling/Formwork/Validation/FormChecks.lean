import Formwork.Validation.FieldChecks

namespace Formwork

abbrev Complaints := List (String × String)

namespace Complaints

/-- Puts a complaint in the place of the name's former one, or last. -/
def put (errors : Complaints) (name message : String) : Complaints :=
  match errors with
  | [] => [(name, message)]
  | (k, m) :: rest => if k = name then (name, message) :: rest else (k, m) :: put rest name message

def overlay (errors other : Complaints) : Complaints :=
  other.foldl (fun es e ↦ put es e.1 e.2) errors

end Complaints

structure FormChecks where
  backend : Backend
  fields : List FieldChecks

def Form.checks (form : Form) (backend : Backend) : FormChecks :=
  ⟨backend, form.fields.map fun f ↦ f.checks backend⟩

def Form.ruleRemarks (form : Form) (backend : Backend) : List Remark :=
  form.fields.flatMap fun f ↦ f.ruleRemarks backend

def Form.remarks (form : Form) (backend : Backend) : List Remark :=
  form.review ++ form.ruleRemarks backend

namespace FormChecks

def field? (w : FormChecks) (name : String) : Option FieldChecks := w.fields.find? (·.name == name)

def complain (values : Bag) (errors : Complaints) (f : FieldChecks) : Complaints :=
  if errors.any (·.1 == f.name) then errors
  else match f.validate (values.get? f.name) with
    | some message => errors ++ [(f.name, message)]
    | none => errors

def validate (w : FormChecks) (values : Bag) : Complaints := w.fields.foldl (complain values) []

/-- The first complaint of the fields of one name. -/
def validateField (w : FormChecks) (name : String) (values : Bag) : Option String :=
  (w.fields.filter (·.name == name)).findSome? fun f ↦ f.validate (values.get? name)

end FormChecks

end Formwork
