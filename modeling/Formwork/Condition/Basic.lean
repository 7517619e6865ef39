import Formwork.Record.Basic
import Formwork.Text.Basic

namespace Formwork

inductive Operator
  | eq
  | neq
  | gt
  | lt
  | isIn
  | contains
  | changed
  | unknown
deriving DecidableEq

namespace Operator

def name : Operator → String
  | .eq => "eq"
  | .neq => "neq"
  | .gt => "gt"
  | .lt => "lt"
  | .isIn => "in"
  | .contains => "contains"
  | .changed => "changed"
  | .unknown => "unknown"

def all : List Operator := [.eq, .neq, .gt, .lt, .isIn, .contains, .changed, .unknown]

def ofName (name : String) : Operator := (all.find? (·.name == name)).getD .unknown

end Operator

/-- A condition on the value at a path. An omitted value is not the value `null`. -/
structure Condition where
  field : String
  operator : Operator
  value : Option Json

inductive Purpose
  | visibility
  | disable
  | clear
deriving DecidableEq

def Purpose.name : Purpose → String
  | .visibility => "visibility"
  | .disable => "disable"
  | .clear => "clear"

def Json.numeric? : Json → Option Extended
  | .number n => some (.finite n.toBinary64)
  | .bool b => some (.finite (.ofNat (if b then 1 else 0)))
  | .string s =>
    let text := Text.trim s
    if text.isEmpty then none else Extended.ofText? text
  | _ => none

/-- The order of two values: two texts by their characters, otherwise by the numbers they stand
for. -/
def Json.compare? : Json → Json → Option Ordering
  | .string a, .string b => some (compareOfLessAndEq a b)
  | a, b => do (← a.numeric?).compare? (← b.numeric?)

namespace Operator

def test? (op : Operator) (actual expected : Option Json) : Option Bool :=
  match op with
  | .eq => some (Json.sameOption actual expected)
  | .neq => some (!Json.sameOption actual expected)
  | .isIn =>
    match expected, actual with
    | some (.array items), some v => some (items.any fun item ↦ item.same v)
    | _, _ => some false
  | .contains =>
    match actual, expected with
    | some (.array items), some v => some (items.any fun item ↦ item.same v)
    | _, _ => some false
  | .gt => some ((do (← actual).compare? (← expected)) == some .gt)
  | .lt => some ((do (← actual).compare? (← expected)) == some .lt)
  | .changed => none
  | .unknown => none

/-- Operators that mean something in a list of conditions: only clearing knows of changes. -/
def isSupported (op : Operator) (purpose : Purpose) : Bool :=
  match op with
  | .unknown => false
  | .changed => purpose == .clear
  | _ => true

end Operator

def Purpose.fallback (purpose : Purpose) : Bool := purpose == .visibility

namespace Condition

def sees (c : Condition) (values previous : Bag) : Bool :=
  !Json.sameOption (values.resolve? c.field) (previous.resolve? c.field)

/-- Whether a condition is met. Nothing has changed as long as there is no previous bag. -/
def holds (c : Condition) (purpose : Purpose) (values : Bag) (previous : Option Bag) : Bool :=
  if c.operator = .changed ∧ purpose = .clear then previous.any (c.sees values)
  else (c.operator.test? (values.resolve? c.field) c.value).getD purpose.fallback

end Condition

def allMet (conditions : List Condition) (purpose : Purpose) (values : Bag)
    (previous : Option Bag) : Bool :=
  conditions.all fun c ↦ c.holds purpose values previous

end Formwork
