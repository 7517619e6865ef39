import Formwork.Form.Basic
import Formwork.Condition.Basic

namespace Formwork

inductive Level
  | warning
  | detail
deriving DecidableEq

def Level.name : Level → String
  | .warning => "WARN"
  | .detail => "DEBUG"

inductive Remark
  | duplicateName (field : String)
  | danglingReference (purpose : Purpose) (field dependsOn : String)
  | unsupportedOperator (purpose : Purpose) (field : String) (operator : Operator)
  | unknownRule (field : String)
  | inapplicableRule (field : String) (rule : RuleKind) (type : FieldType)
  | malformedRule (field : String) (rule : RuleKind)
  | invalidPattern (field pattern : String)
  | refusedConstraint

def capitalize (s : String) : String :=
  match s.toList with
  | [] => ""
  | c :: cs => String.ofList (c.toUpper :: cs)

namespace Remark

def level : Remark → Level
  | .danglingReference .. | .inapplicableRule .. => .detail
  | _ => .warning

def message : Remark → String
  | .duplicateName _ => "duplicate field name; later fields share storage"
  | .danglingReference purpose .. => purpose.name ++ " rule references a name outside the schema"
  | .unsupportedOperator purpose .. =>
    purpose.name ++ " rule uses an unsupported operator; it will never block"
  | .unknownRule _ => "unknown validation rule type; skipped"
  | .inapplicableRule .. => "validation rule does not apply to this field type; skipped"
  | .malformedRule .. => "malformed validation rule ignored"
  | .invalidPattern .. => "invalid pattern"
  | .refusedConstraint => "constraint rejected by JSON Schema engine; skipped"

def particulars : Remark → List (String × String)
  | .duplicateName field => [("field", field)]
  | .danglingReference _ field dependsOn => [("field", field), ("depends_on", dependsOn)]
  | .unsupportedOperator _ field op => [("field", field), ("operator", capitalize op.name)]
  | .unknownRule field => [("field", field)]
  | .inapplicableRule field rule type =>
    [("field", field), ("rule", capitalize rule.name), ("field_type", type.name)]
  | .malformedRule field rule => [("field", field), ("rule", capitalize rule.name)]
  | .invalidPattern field pattern => [("field", field), ("pattern", pattern)]
  | .refusedConstraint => []

end Remark

namespace Form

def sharedNames : List String → List String → List Remark
  | _, [] => []
  | seen, name :: names =>
    (if seen.contains name then [.duplicateName name] else []) ++ sharedNames (name :: seen) names

def reviewCondition (names : List String) (field : String) (purpose : Purpose) (c : Condition) :
    List Remark :=
  (if names.contains c.field then [] else [.danglingReference purpose field c.field]) ++
    if c.operator.isSupported purpose then [] else [.unsupportedOperator purpose field c.operator]

def reviewField (names : List String) (f : Field) : List Remark :=
  [Purpose.visibility, .disable, .clear].flatMap fun purpose ↦
    (f.conditions purpose).flatMap (reviewCondition names f.name purpose)

/-- Remarks on shared names come first, then those on conditions, field by field. -/
def review (form : Form) : List Remark :=
  sharedNames [] form.fieldNames ++ form.fields.flatMap (reviewField form.fieldNames)

end Form

end Formwork
