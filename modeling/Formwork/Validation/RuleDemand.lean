import Formwork.Form.Remark
import Formwork.Validation.Demand

namespace Formwork

def maxCount : Nat := Nat.pow 2 64 - 1

/-- A count: a whole number that is not negative, also as text. -/
def readCount? : Option Json → Option Nat
  | some (.number (.int n)) => if 0 ≤ n then some n.toNat else none
  | some (.number (.float x)) =>
    if 0 ≤ x.toInt && x.isWhole then some (min x.floorAbs maxCount) else none
  | some (.string s) => Whole.ofText? (Text.trim s)
  | _ => none

def readBound? : Option Json → Option Binary64
  | some (.number n) => some n.toBinary64
  | some (.string s) => (Extended.ofText? (Text.trim s)).bind Extended.finite?
  | _ => none

def readStep? (v : Option Json) : Option Binary64 := (readBound? v).filter fun x ↦ 0 < x.toInt

def RuleKind.appliesTo (rule : RuleKind) (kind : Shape) : Bool :=
  match rule with
  | .email | .url | .minLength | .maxLength | .length | .pattern => kind == .text
  | .min | .max | .step => kind == .number
  | .required | .unknown => false

abbrev WithRemarks (α : Type) := α × List Remark

def readPattern? (field : String) (backend : Backend) (v : Option Json) :
    WithRemarks (Option Demand) :=
  match v with
  | some (.string source) =>
    match Pattern.parse? source with
    | none => (none, [.invalidPattern field source, .malformedRule field .pattern])
    | some p =>
      match backend with
      | .native => (some (.pattern p .unicode), [])
      | .jsonSchema =>
        match p.plainAlphabet? with
        | some alphabet => (some (.pattern p alphabet), [])
        | none => (none, [.refusedConstraint])
  | _ => (none, [.malformedRule field .pattern])

/-- A demand, or else the remark that the rule is malformed. -/
def orMalformed (field : String) (rule : RuleKind) : Option Demand → WithRemarks (Option Demand)
  | some c => (some c, [])
  | none => (none, [.malformedRule field rule])

/-- What a rule demands of a field's values. `required` is a rule of its own kind and demands
nothing here. -/
def Rule.demand? (rule : Rule) (f : Field) (backend : Backend) : WithRemarks (Option Demand) :=
  match rule.kind with
  | .required => (none, [])
  | .unknown => (none, [.unknownRule f.name])
  | kind =>
    if !kind.appliesTo f.shape then (none, [.inapplicableRule f.name kind f.type])
    else match kind with
      | .minLength => orMalformed f.name kind ((readCount? rule.value).map .minLength)
      | .maxLength => orMalformed f.name kind ((readCount? rule.value).map .maxLength)
      | .length => orMalformed f.name kind ((readCount? rule.value).map .length)
      | .min => orMalformed f.name kind ((readBound? rule.value).map .min)
      | .max => orMalformed f.name kind ((readBound? rule.value).map .max)
      | .step => orMalformed f.name kind ((readStep? rule.value).map .step)
      | .pattern => readPattern? f.name backend rule.value
      | .email => (some .email, [])
      | .url => (some .url, [])
      | _ => (none, [])

end Formwork
