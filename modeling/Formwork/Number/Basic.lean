import Formwork.Number.Binary64

namespace Formwork.Binary64

structure Decimal where
  digits : Nat
  exponent : Int

structure Interval where
  low : Nat
  high : Nat
  closed : Bool

/-- A number reaches half way to its neighbours; the lower neighbour of a power of two is nearer,
and the ends belong to a number with an even significand. -/
def interval (units : Nat) : Interval :=
  let shift := units.log2 + 1 - precision
  let up := 2 * Nat.pow 2 shift
  let down := if shift != 0 && units == Nat.pow 2 units.log2 then Nat.pow 2 shift else up
  ⟨4 * units - down, 4 * units + up, units / Nat.pow 2 shift % 2 == 0⟩

def Interval.contains (i : Interval) (num den : Nat) : Bool :=
  if i.closed then i.low * den ≤ num && num ≤ i.high * den
  else i.low * den < num && num < i.high * den

def countDigits (n : Nat) : Nat := if h : n = 0 then 0 else countDigits (n / 10) + 1
termination_by n
decreasing_by omega

/-- The exponent `e` with `10^e ≤ value < 10^(e+1)`; no positive number is below `10^-324`. -/
def decimalExponent (units : Nat) : Int := countDigits (units * Nat.pow 10 324 / one) - 325

def gridPoint (digits : Nat) (exponent : Int) : Nat × Nat :=
  if 0 ≤ exponent then (digits * Nat.pow 10 exponent.toNat * (4 * one), 1)
  else (digits * (4 * one), Nat.pow 10 (-exponent).toNat)

/-- The grid point that reads back as the magnitude: the nearer one of the two neighbours, the even
one on a tie. -/
def onGrid? (units : Nat) (exponent : Int) : Option Decimal :=
  let (num, den) :=
    if 0 ≤ exponent then (units, one * Nat.pow 10 exponent.toNat)
    else (units * Nat.pow 10 (-exponent).toNat, one)
  let below := num / den
  let nearest := roundDiv num den
  let other := if nearest == below then below + 1 else below
  let reads (d : Nat) := (interval units).contains (gridPoint d exponent).1 (gridPoint d exponent).2
  if reads nearest then some ⟨nearest, exponent⟩
  else if reads other then some ⟨other, exponent⟩
  else none

def search (units : Nat) (first : Int) : Nat → Decimal
  | 0 => ⟨units, 0⟩
  | fuel + 1 =>
    match onGrid? units first with
    | some d => d
    | none => search units (first - 1) fuel

def stripZeros (d : Decimal) : Nat → Decimal
  | 0 => d
  | fuel + 1 =>
    if d.digits != 0 && d.digits % 10 == 0 then stripZeros ⟨d.digits / 10, d.exponent + 1⟩ fuel
    else d

/-- The fewest digits that read back; seventeen are always enough. -/
def shortest (units : Nat) : Decimal := stripZeros (search units (decimalExponent units) 18) 400

def zeros (n : Nat) : String := String.ofList (List.replicate n '0')

/-- Positional while the point falls at most sixteen places after the first digit or four zeros
before it, else with an exponent that always carries its sign. A whole number ends in `.0`. -/
def layout (d : Decimal) : String :=
  let ds := Nat.toDigits 10 d.digits
  let length : Int := ds.length
  let point := length + d.exponent
  if 0 ≤ d.exponent && point ≤ 16 then
    String.ofList ds ++ zeros d.exponent.toNat ++ ".0"
  else if 0 < point && point ≤ 16 then
    String.ofList (ds.take point.toNat) ++ "." ++ String.ofList (ds.drop point.toNat)
  else if -5 < point && point ≤ 0 then
    "0." ++ zeros (-point).toNat ++ String.ofList ds
  else
    let power := point - 1
    let sign := if 0 ≤ power then "+" else "-"
    let fraction := if ds.length == 1 then "" else "." ++ String.ofList (ds.drop 1)
    String.ofList (ds.take 1) ++ fraction ++ "e" ++ sign ++ toString power.natAbs

def toText (x : Binary64) : String :=
  (if x.negative then "-" else "") ++ (if x.units == 0 then "0.0" else layout (shortest x.units))

end Formwork.Binary64

namespace Formwork

inductive Number
  | int (n : Int)
  | float (x : Binary64)
deriving DecidableEq, Inhabited

namespace Number

def toBinary64 : Number → Binary64
  | .int n => .ofInt n
  | .float x => x

def same : Number → Number → Bool
  | .int a, .int b => a == b
  | .float a, .float b => a.same b
  | _, _ => false

def toText : Number → String
  | .int n => toString n
  | .float x => x.toText

end Number

end Formwork
