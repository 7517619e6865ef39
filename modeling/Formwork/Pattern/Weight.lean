import Formwork.Pattern.CharSet
import Formwork.Pattern.Expr

namespace Formwork.Pattern

def bytesOf (n : Nat) : List Nat :=
  if n < 0x80 then [n]
  else if n < 0x800 then [0xc0 + n / 0x40, 0x80 + n % 0x40]
  else if n < 0x10000 then [0xe0 + n / 0x1000, 0x80 + n / 0x40 % 0x40, 0x80 + n % 0x40]
  else [0xf0 + n / 0x40000, 0x80 + n / 0x1000 % 0x40, 0x80 + n / 0x40 % 0x40, 0x80 + n % 0x40]

/-- Parts of a run, each of which is a range in its first bytes that differ and everything in the
bytes behind. So many bytes may differ behind the first one. -/
def aligned : Nat → Nat → Nat → List (Nat × Nat)
  | 0, first, last => [(first, last)]
  | k + 1, first, last =>
    let block := Nat.pow 64 (k + 1)
    if first / block == last / block then aligned k first last
    else
      let start := (first + block - 1) / block * block
      let stop := (last + 1) / block * block
      let before := if first == start then [] else aligned k first (start - 1)
      let within := if start < stop then [(start, stop - 1)] else []
      let behind := if stop == last + 1 then [] else aligned k stop last
      before ++ within ++ behind

def byteSteps : List (Nat × Nat × Nat) :=
  [(0, 0, 0x7f), (1, 0x80, 0x7ff), (2, 0x800, 0xffff), (3, 0x10000, 0x10ffff)]

def byteRanges (run : Nat × Nat) : List (List (Nat × Nat)) :=
  byteSteps.flatMap fun (k, first, last) ↦
    let first := max run.1 first
    let last := min run.2 last
    if last < first then []
    else (aligned k first last).map fun part ↦ (bytesOf part.1).zip (bytesOf part.2)

def sharedLength : List (Nat × Nat) → List (Nat × Nat) → Nat
  | x :: xs, y :: ys => if x == y then sharedLength xs ys + 1 else 0
  | _, _ => 0

def newRanges : List (Nat × Nat) → List (List (Nat × Nat)) → Nat
  | _, [] => 0
  | before, r :: rs => r.length - sharedLength before r + newRanges r rs

inductive Direction
  | forward
  | backward
deriving DecidableEq

def setWeight (d : Direction) (s : CharSet) : Nat :=
  match s.runs .unicode with
  | [] => 32
  | [(first, last)] =>
    if first == last then 32 * (bytesOf first).length else runsWeight [(first, last)]
  | runs => runsWeight runs
where
  runsWeight (runs : List (Nat × Nat)) : Nat :=
    if runs.all (·.2 < 0x80) then 64 + 8 * runs.length
    else
      let sequences := runs.flatMap byteRanges
      let ranges := newRanges [] sequences
      match d with
      | .forward => 64 + 40 * ranges - 32 * sequences.length
      | .backward => 64 + 32 * ranges + 4 * sequences.length

/-- More than the room for one character of any set. -/
def weightCeiling : Nat := 131072

namespace Expr

def sets? : List Expr → Option (List CharSet)
  | [] => some []
  | .one s _ :: es => (sets? es).map (s :: ·)
  | _ :: _ => none

/-- The room for a repetition of what takes `w` itself; `mayBeEmpty` says that a turn may take no
text. -/
def repeatWeight (w : Nat) (mayBeEmpty : Bool) (low : Nat) : Option Nat → Nat
  | none => if low == 0 then (if mayBeEmpty then 112 else 40) + w else low * w + 40
  | some high =>
    if low == high then (if low == 0 then 32 else low * w)
    else if low == 0 && high == 1 then 72 + w
    else (if low == 0 then 32 else low * w) + 32 + (high - low) * (40 + w)

mutual

def weight (d : Direction) (ofSet : CharSet → Nat) : Expr → Nat
  | .empty | .edge _ => 32
  | .one s _ => ofSet s
  | .concat parts => weights d ofSet parts
  | .alternate branches =>
    match sets? branches with
    | some sets => ofSet (.unionAll sets)
    | none => 64 + 4 * branches.length + weights d ofSet branches
  | .group _ body => body.weight d ofSet + if d = .forward then 64 else 0
  | .iterate body low high _ =>
    let (low, high) := bounds body low high
    repeatWeight (body.weight d ofSet) (body.extent.least == 0) low high
  | _ => 32

def weights (d : Direction) (ofSet : CharSet → Nat) : List Expr → Nat
  | [] => 0
  | e :: es => e.weight d ofSet + weights d ofSet es

end

def weightLimit : Nat := 10485760

def frameWeight : Direction → Nat
  | .forward => 208
  | .backward => 144

def isLight (parts : List Expr) : Bool :=
  let within (d : Direction) (ofSet : CharSet → Nat) : Bool :=
    weights d ofSet parts + frameWeight d ≤ weightLimit
  within .forward (fun _ ↦ weightCeiling) ||
    (within .forward (setWeight .forward) && within .backward (setWeight .backward))

mutual

/-- How deeply the notation of an expression is nested, where only parts that bind more tightly than
`tightness` go without parentheses. -/
def nesting (tightness : Nat) : Expr → Nat
  | .empty => 0
  | .one _ n => n
  | .edge e => if e = .lineStart || e = .lineEnd then 1 else 0
  | .concat parts =>
    nestings 2 parts + (if 2 ≤ parts.length then 1 else 0) + if 1 < tightness then 1 else 0
  | .alternate branches =>
    nestings 1 branches + (if 2 ≤ branches.length then 1 else 0) + if 0 < tightness then 1 else 0
  | .group _ body => body.nesting 0 + 1
  | .iterate body _ _ _ => body.nesting 3 + 1 + if 2 < tightness then 1 else 0
  | _ => 0

def nestings (tightness : Nat) : List Expr → Nat
  | [] => 0
  | e :: es => max (e.nesting tightness) (nestings tightness es)

end

def nestingLimit : Nat := 250

def countLimit : Nat := 4294967295

mutual

def hasCounts : Expr → Bool
  | .concat parts | .alternate parts => allHaveCounts parts
  | .group _ body => body.hasCounts
  | .iterate body low high _ =>
    low ≤ countLimit && high.all (fun h ↦ low ≤ h && h ≤ countLimit) && body.hasCounts
  | _ => true

def allHaveCounts : List Expr → Bool
  | [] => true
  | e :: es => e.hasCounts && allHaveCounts es

end

def fit (depth : Nat) (parts : List Expr) : Bool :=
  allHaveCounts parts && depth ≤ nestingLimit && isLight parts

end Expr

end Formwork.Pattern
