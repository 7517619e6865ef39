namespace Formwork

/-- A finite binary64 number: its sign, and its magnitude in units of `2⁻¹⁰⁷⁴`. -/
structure Binary64 where
  negative : Bool
  units : Nat
deriving DecidableEq, Inhabited

namespace Binary64

def precision : Nat := 53

def one : Nat := Nat.pow 2 1074

/-- The first magnitude that no finite number reaches, in units. -/
def limit : Nat := Nat.pow 2 2098

/-- The nearest whole number to `num / den`; a half goes to the even neighbour. -/
def roundDiv (num den : Nat) : Nat :=
  let q := num / den
  let twice := 2 * (num % den)
  if twice < den || (twice == den && q % 2 == 0) then q else q + 1

/-- `num / den` units, rounded to `precision` binary digits. -/
def roundUnits (num den : Nat) : Nat :=
  let step := Nat.pow 2 ((num / den).log2 + 1 - precision)
  roundDiv num (den * step) * step

def ofRatio? (negative : Bool) (num den : Nat) : Option Binary64 :=
  let units := roundUnits (num * one) den
  if units < limit then some ⟨negative, units⟩ else none

def zero (negative : Bool) : Binary64 := ⟨negative, 0⟩

/-- The number nearest to a whole number of moderate size (below `2¹⁰²³`). -/
def ofNat (n : Nat) : Binary64 := ⟨false, roundUnits (n * one) 1⟩

def ofInt (n : Int) : Binary64 := ⟨n < 0, roundUnits (n.natAbs * one) 1⟩

def toInt (x : Binary64) : Int := if x.negative then -x.units else x.units

def same (x y : Binary64) : Bool := x.toInt == y.toInt

def compare (x y : Binary64) : Ordering := compareOfLessAndEq x.toInt y.toInt

def isZero (x : Binary64) : Bool := x.units == 0

def isMultipleOf (x y : Binary64) : Bool := x.units % y.units == 0

def floorAbs (x : Binary64) : Nat := x.units / one

def isWhole (x : Binary64) : Bool := x.units % one == 0

def mul? (x y : Binary64) : Option Binary64 :=
  ofRatio? (x.negative != y.negative) (x.units * y.units) (one * one)

def div (x y : Binary64) : Binary64 :=
  ⟨x.negative != y.negative, roundUnits (x.units * one) y.units⟩

def powerOfTen (n : Nat) : Binary64 := ofNat (Nat.pow 10 n)

end Binary64

inductive Extended
  | finite (x : Binary64)
  | infinite (negative : Bool)
  | undefined

namespace Extended

def finite? : Extended → Option Binary64
  | .finite x => some x
  | _ => none

def compare? : Extended → Extended → Option Ordering
  | .finite x, .finite y => some (x.compare y)
  | .infinite a, .infinite b => some (if a == b then .eq else if a then .lt else .gt)
  | .infinite a, .finite _ => some (if a then .lt else .gt)
  | .finite _, .infinite b => some (if b then .gt else .lt)
  | _, _ => none

end Extended

end Formwork
