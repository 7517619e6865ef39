import Formwork.Pattern.CharSet

namespace Formwork.Pattern

/-- How much text matches take: the least number of characters, and whether it is the only one. -/
structure Extent where
  least : Nat
  fixed : Bool

namespace Extent

def nothing : Extent := ⟨0, true⟩

def append (x y : Extent) : Extent := ⟨x.least + y.least, x.fixed && y.fixed⟩

def or (x y : Extent) : Extent := ⟨min x.least y.least, x.fixed && y.fixed && x.least == y.least⟩

end Extent

def unboundedCount : Nat := Nat.pow 2 64 - 1

inductive Expr
  | empty
  | one (s : CharSet) (nesting : Nat)
  | edge (e : Edge)
  | concat (parts : List Expr)
  | alternate (branches : List Expr)
  | group (number : Nat) (body : Expr)
  | iterate (body : Expr) (low : Nat) (high : Option Nat) (greedy : Bool)
  /-- The preferred way through `body`, and no other. -/
  | atomic (body : Expr)
  | look (behind negated : Bool) (body : Expr)
  | reference (group : Nat) (ignoreCase : Bool) (extent : Extent)
  | captured (group : Nat)
  | conditional (condition yes no : Expr)

namespace Expr

def concatAll : List Expr → Expr
  | [] => .empty
  | [e] => e
  | es => .concat es

def alternateAll : List Expr → Expr
  | [] => .empty
  | [e] => e
  | es => .alternate es

/-- A repetition takes the count of its body so many times, and a fixed one if its bounds are
equal. -/
def repeatExtent (x : Extent) (low : Nat) (high : Option Nat) : Extent :=
  ⟨x.least * low, x.fixed && high.getD unboundedCount == low⟩

mutual

def extent : Expr → Extent
  | .empty | .edge _ | .look .. | .captured _ => .nothing
  | .one .. => ⟨1, true⟩
  | .concat parts => (extents parts).foldl .append .nothing
  | .alternate branches =>
    match extents branches with
    | [] => .nothing
    | x :: xs => xs.foldl .or x
  | .group _ body | .atomic body => body.extent
  | .iterate body low high _ => repeatExtent body.extent low high
  | .reference _ _ x => x
  | .conditional condition yes no =>
    let x := condition.extent
    let y := yes.extent
    let z := no.extent
    ⟨x.least + min y.least z.least, x.fixed && y.fixed && z.fixed && x.least + y.least == z.least⟩

def extents : List Expr → List Extent
  | [] => []
  | e :: es => e.extent :: extents es

end

mutual

/-- Whether no regular expression says the same; groups that are asked for count too. -/
def isHard (used : List Nat) : Expr → Bool
  | .empty | .one .. => false
  | .edge e => !e.isSoft
  | .concat parts | .alternate parts => anyHard used parts
  | .group n body => used.contains n || body.isHard used
  | .iterate body _ _ _ => body.isHard used
  | .atomic _ | .look .. | .reference .. | .captured _ | .conditional .. => true

def anyHard (used : List Nat) : List Expr → Bool
  | [] => false
  | e :: es => e.isHard used || anyHard used es

end

mutual

def references : Expr → List Nat
  | .empty | .one .. | .edge _ => []
  | .concat parts | .alternate parts => allReferences parts
  | .group _ body | .iterate body _ _ _ | .atomic body | .look _ _ body => body.references
  | .reference n _ _ | .captured n => [n]
  | .conditional condition yes no => condition.references ++ yes.references ++ no.references

def allReferences : List Expr → List Nat
  | [] => []
  | e :: es => e.references ++ allReferences es

end

mutual

def takesNothing : Expr → Bool
  | .empty | .edge _ | .look .. | .captured _ => true
  | .one .. | .reference .. => false
  | .concat parts | .alternate parts => allTakeNothing parts
  | .group _ body | .atomic body => body.takesNothing
  | .iterate body _ high _ => high == some 0 || body.takesNothing
  | .conditional condition yes no => condition.takesNothing && yes.takesNothing && no.takesNothing

def allTakeNothing : List Expr → Bool
  | [] => true
  | e :: es => e.takesNothing && allTakeNothing es

end

/-- The bounds of a repetition: what takes nothing need not be repeated more than once. -/
def bounds (body : Expr) (low : Nat) (high : Option Nat) : Nat × Option Nat :=
  if body.takesNothing then (min low 1, some (min (high.getD 1) 1)) else (low, high)

def items : Expr → List Expr
  | .concat parts => parts
  | e => [e]

end Expr

end Formwork.Pattern
