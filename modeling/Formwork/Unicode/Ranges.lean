namespace Formwork.Unicode

/-- A set of code points by its boundaries, in ascending order: the first one is the first member,
the second the first code point after it that is no member, and so on in turn. -/
structure Ranges where
  boundaries : List Nat

namespace Ranges

/-- Whether `n` lies inside: each boundary up to `n` leads from outside to inside, or back. -/
def holds (inside : Bool) (n : Nat) : List Nat → Bool
  | [] => inside
  | b :: bs => if n < b then inside else holds (!inside) n bs

def contains (r : Ranges) (c : Char) : Bool := holds false c.toNat r.boundaries

def turn (before after : Bool) (n : Nat) (bs : List Nat) : List Nat :=
  if before == after then bs else n :: bs

def join (f : Bool → Bool → Bool) : Bool → Bool → List Nat → List Nat → List Nat
  | _, _, [], [] => []
  | x, y, a :: as, [] => turn (f x y) (f (!x) y) a (join f (!x) y as [])
  | x, y, [], b :: bs => turn (f x y) (f x (!y)) b (join f x (!y) [] bs)
  | x, y, a :: as, b :: bs =>
    if a < b then turn (f x y) (f (!x) y) a (join f (!x) y as (b :: bs))
    else if b < a then turn (f x y) (f x (!y)) b (join f x (!y) (a :: as) bs)
    else turn (f x y) (f (!x) (!y)) a (join f (!x) (!y) as bs)
termination_by _ _ as bs => as.length + bs.length

def union (r s : Ranges) : Ranges := ⟨join (· || ·) false false r.boundaries s.boundaries⟩

def inter (r s : Ranges) : Ranges := ⟨join (· && ·) false false r.boundaries s.boundaries⟩

def complement (r : Ranges) : Ranges :=
  match r.boundaries with
  | 0 :: bs => ⟨bs⟩
  | bs => ⟨0 :: bs⟩

def runs (limit : Nat) : List Nat → List (Nat × Nat)
  | a :: b :: bs => if b ≤ a then runs limit bs else (a, b - 1) :: runs limit bs
  | [a] => if limit ≤ a then [] else [(a, limit - 1)]
  | [] => []

end Ranges

/-- A run of code points from `first` to `last`, `step` apart, that are moved so that `first` comes
to `target`. -/
structure Shift where
  first : Nat
  last : Nat
  step : Nat
  target : Nat

namespace Shift

def moves (s : Shift) (n : Nat) : Bool := s.first ≤ n && n ≤ s.last && (n - s.first) % s.step == 0

def image? (s : Shift) (n : Nat) : Option Nat :=
  if s.moves n then some (s.target + (n - s.first)) else none

def source? (s : Shift) (n : Nat) : Option Nat :=
  if s.target ≤ n && s.moves (s.first + (n - s.target)) then
    some (s.first + (n - s.target)) else none

end Shift

def shift (table : List Shift) (c : Char) : Char :=
  ((table.findSome? fun s ↦ s.image? c.toNat).map Char.ofNat).getD c

end Formwork.Unicode
