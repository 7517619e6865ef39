import Formwork.Pattern.CharSet

namespace Formwork.Pattern

inductive Regular
  | empty
  | fail
  | one (s : CharSet)
  | edge (e : Edge)
  | concat (m n : Regular)
  | alternate (m n : Regular)
  /-- From `low` up to `high` repetitions; as many as possible first if `greedy`. -/
  | iterate (body : Regular) (low : Nat) (high : Option Nat) (greedy : Bool)

/-- Places of a text in the order in which they were found, the last one first. -/
structure Finds where
  places : List Nat
  known : Array Bool

namespace Finds

def start (size : Nat) : Finds := ⟨[], .replicate (size + 1) false⟩

def push (f : Finds) (p : Nat) : Finds :=
  if f.known.getD p true then f else ⟨p :: f.places, f.known.setIfInBounds p true⟩

end Finds

def distinct (size : Nat) (ps : List Nat) : List Nat :=
  (ps.foldl .push (Finds.start size)).places.reverse

/-- Repetitions being explored: the places from which they have been, and the ends found. -/
structure Trail where
  visited : Array Bool
  finds : Finds

namespace Trail

def start (levels size : Nat) : Trail := ⟨.replicate (levels * (size + 1)) false, .start size⟩

def push (t : Trail) (p : Nat) : Trail := { t with finds := t.finds.push p }

def visit (t : Trail) (i : Nat) : Trail := { t with visited := t.visited.setIfInBounds i true }

def ends (t : Trail) : List Nat := t.finds.places.reverse

end Trail

/-- Any number of repetitions from a place on, up to `fuel` of them. No place is repeated from
twice, and a repetition that takes nothing is the last one. -/
def roam (step : Nat → List Nat) (greedy : Bool) : Nat → Nat → Trail → Trail
  | 0, p, t => t.push p
  | fuel + 1, p, t =>
    if t.visited.getD p true then t
    else
      let onward (t : Trail) : Trail :=
        (step p).foldl (fun t q ↦ if q == p then t.push p else roam step greedy fuel q t) t
      if greedy then (onward (t.visit p)).push p else onward ((t.visit p).push p)

/-- Up to `budget` repetitions from a place on, in a text of a given size. No place is repeated from
twice with the same budget. -/
def upTo (step : Nat → List Nat) (greedy : Bool) (size : Nat) : Nat → Nat → Trail → Trail
  | 0, p, t => t.push p
  | budget + 1, p, t =>
    let i := budget * (size + 1) + p
    if t.visited.getD i true then t
    else
      let onward (t : Trail) : Trail :=
        (step p).foldl (fun t q ↦ upTo step greedy size budget q t) t
      if greedy then (onward (t.visit i)).push p else onward ((t.visit i).push p)

def power (step : List Nat → List Nat) : Nat → List Nat → List Nat
  | 0, ps => ps
  | n + 1, ps => if ps.isEmpty then [] else power step n (step ps)

def iterated (step : List Nat → List Nat) (low : Nat) (high : Option Nat) (greedy : Bool)
    (size : Nat) (ps : List Nat) : List Nat :=
  let single (p : Nat) : List Nat := step [p]
  let starts := power step low ps
  match high with
  | none => (starts.foldl (fun t p ↦ roam single greedy (size + 1) p t) (.start 1 size)).ends
  | some high =>
    if high ≤ low then starts
    else
      (starts.foldl (fun t p ↦ upTo single greedy size (high - low) p t)
        (.start (high - low) size)).ends

def past (a : Alphabet) (text : Array Char) (s : CharSet) (p : Nat) : Option Nat :=
  match text[p]? with
  | some c => if s.contains a c then some (p + 1) else none
  | none => none

namespace Regular

def concatAll : List Regular → Regular
  | [] => .empty
  | [r] => r
  | r :: rs => .concat r (concatAll rs)

def alternateAll : List Regular → Regular
  | [] => .fail
  | [r] => r
  | r :: rs => .alternate r (alternateAll rs)

def ends (a : Alphabet) (text : Array Char) : Regular → List Nat → List Nat
  | .empty, ps => ps
  | .fail, _ => []
  | .one s, ps => ps.filterMap (past a text s)
  | .edge e, ps => ps.filter fun p ↦ e.isAt text p
  | .concat m n, ps => n.ends a text (m.ends a text ps)
  | .alternate m n, ps =>
    distinct text.size (ps.flatMap fun p ↦ m.ends a text [p] ++ n.ends a text [p])
  | .iterate body low high greedy, ps => iterated (body.ends a text) low high greedy text.size ps

def isFoundIn (r : Regular) (a : Alphabet) (text : String) : Bool :=
  let chars := text.toList.toArray
  !(r.ends a chars (List.range (chars.size + 1))).isEmpty

end Regular

end Formwork.Pattern
