import Formwork.Number.Basic

namespace Formwork

inductive Json
  | null
  | bool (b : Bool)
  | number (n : Number)
  | string (s : String)
  | array (items : List Json)
  | object (members : List (String × Json))
deriving Inhabited

namespace Json

def int (n : Int) : Json := .number (.int n)

mutual

/-- Equality of values. Whole and binary64 numbers differ, the two zeros do not. -/
def same : Json → Json → Bool
  | .null, .null => true
  | .bool a, .bool b => a == b
  | .number a, .number b => a.same b
  | .string a, .string b => a == b
  | .array a, .array b => sameItems a b
  | .object a, .object b => sameMembers a b
  | _, _ => false

def sameItems : List Json → List Json → Bool
  | [], [] => true
  | a :: as, b :: bs => same a b && sameItems as bs
  | _, _ => false

def sameMembers : List (String × Json) → List (String × Json) → Bool
  | [], [] => true
  | (k, a) :: as, (l, b) :: bs => k == l && same a b && sameMembers as bs
  | _, _ => false

end

def sameOption : Option Json → Option Json → Bool
  | none, none => true
  | some a, some b => a.same b
  | _, _ => false

/-- No value, `null` and empty text. -/
def isNothing : Option Json → Bool
  | none | some .null => true
  | some (.string s) => s.isEmpty
  | _ => false

def string? : Json → Option String
  | .string s => some s
  | _ => none

def isNull : Json → Bool
  | .null => true
  | _ => false

mutual

/-- Every object in the value lists its members in ascending order of their keys, each key once. -/
def WellFormed : Json → Prop
  | .array items => WellFormedItems items
  | .object members => members.Pairwise (fun a b ↦ a.1 < b.1) ∧ WellFormedMembers members
  | _ => True

def WellFormedItems : List Json → Prop
  | [] => True
  | v :: vs => WellFormed v ∧ WellFormedItems vs

def WellFormedMembers : List (String × Json) → Prop
  | [] => True
  | (_, v) :: vs => WellFormed v ∧ WellFormedMembers vs

end

end Json

end Formwork
