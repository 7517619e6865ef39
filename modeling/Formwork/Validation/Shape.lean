import Formwork.Condition.Basic
import Formwork.Form.Basic

namespace Formwork

inductive Shape
  | number
  | boolean
  | dateRange
  | choice
  | choiceList
  | text
  | any
deriving DecidableEq

namespace Shape

/-- What is said of a value of another shape; any value has the shape `any`. -/
def complaint : Shape → String
  | .number => "Must be a number"
  | .boolean => "Expected true or false"
  | .dateRange => "Expected a date range"
  | .choice => "Expected a single option"
  | .choiceList => "Expected a list of options"
  | .text => "Expected text"
  | .any => ""

end Shape

def Field.shape (f : Field) : Shape :=
  match f.type with
  | .number => .number
  | .checkbox | .switch => .boolean
  | .daterange => .dateRange
  | .radio | .select | .autocomplete => if f.multiple then .choiceList else .choice
  | .date | .time | .datetime | .file => .any
  | .text | .password | .email | .url | .tel | .textarea => .text

inductive Entry
  | empty
  | present (v : Json)
  | misshapen

def Json.isTextOrNumber : Json → Bool
  | .string _ | .number _ => true
  | _ => false

namespace Shape

/-- Text with a finite number in it is that number. -/
def readNumber : Json → Entry
  | .number n => .present (.number n)
  | .string s =>
    let text := Text.trim s
    if text.isEmpty then .empty
    else match (Extended.ofText? text).bind Extended.finite? with
      | some x => .present (.number (.float x))
      | none => .misshapen
  | _ => .misshapen

def readValue (kind : Shape) (v : Json) : Entry :=
  match kind, v with
  | .number, v => readNumber v
  | .boolean, .bool b => .present (.bool b)
  | .dateRange, .object members => .present (.object members)
  | .choice, v => if v.isTextOrNumber then .present v else .misshapen
  | .choiceList, .array items =>
    if items.all Json.isTextOrNumber then
      (if items.isEmpty then .empty else .present (.array items)) else .misshapen
  | .text, .string s => .present (.string s)
  | .any, v => .present v
  | _, _ => .misshapen

def read (kind : Shape) (v : Option Json) : Entry :=
  if Json.isNothing v then .empty
  else match v with
    | none => .empty
    | some v => kind.readValue v

end Shape

def Json.isSomething : Json → Bool
  | .null => false
  | .bool b => b
  | .number n => !n.toBinary64.isZero
  | .string s => !s.isEmpty
  | .array _ | .object _ => true

def Json.hasSomething (v : Json) (key : String) : Bool :=
  match v with
  | .object members => (members.lookup key).any Json.isSomething
  | _ => false

/-- What a required field accepts: a range with both ends, a box that is ticked, or any value. -/
def Shape.suffices (kind : Shape) : Entry → Bool
  | .present v =>
    match kind with
    | .boolean => v.same (.bool true)
    | .dateRange => v.hasSomething "start" && v.hasSomething "end"
    | _ => true
  | _ => false

end Formwork
