import Formwork.Number.Binary64

namespace Formwork.Extended

def digitsValue (start : Nat) (ds : List Char) : Nat :=
  ds.foldl (fun n c ↦ n * 10 + (c.toNat - '0'.toNat)) start

/-- The number nearest to `significand · 10^exponent`. Beyond the powers tested no number is left to
choose. -/
def ofDecimal (negative : Bool) (significand : Nat) (exponent : Int) : Extended :=
  let magnitude : Int := (Nat.toDigits 10 significand).length + exponent
  if significand == 0 || magnitude ≤ -324 then .finite (.zero negative)
  else if 310 ≤ magnitude then .infinite negative
  else
    let num := if 0 ≤ exponent then significand * Nat.pow 10 exponent.toNat else significand
    let den := if 0 ≤ exponent then 1 else Nat.pow 10 (-exponent).toNat
    match Binary64.ofRatio? negative num den with
    | some x => .finite x
    | none => .infinite negative

def splitSign : List Char → Bool × List Char
  | '-' :: cs => (true, cs)
  | '+' :: cs => (false, cs)
  | cs => (false, cs)

def exponent? : List Char → Option Int
  | [] => some 0
  | e :: cs =>
    if e == 'e' || e == 'E' then
      let (negative, ds) := splitSign cs
      if !ds.isEmpty && ds.all Char.isDigit then
        let n : Int := digitsValue 0 ds
        some (if negative then -n else n)
      else none
    else none

def decimal? (negative : Bool) (cs : List Char) : Option Extended :=
  let whole := cs.takeWhile Char.isDigit
  let rest := cs.dropWhile Char.isDigit
  let (fraction, rest) :=
    match rest with
    | '.' :: r => (r.takeWhile Char.isDigit, r.dropWhile Char.isDigit)
    | r => ([], r)
  if whole.isEmpty && fraction.isEmpty then none
  else (exponent? rest).map fun e ↦
    ofDecimal negative (digitsValue (digitsValue 0 whole) fraction) (e - fraction.length)

def ofChars? (cs : List Char) : Option Extended :=
  let (negative, body) := splitSign cs
  let word := String.ofList (body.map Char.toLower)
  if word == "nan" then some .undefined
  else if word == "inf" || word == "infinity" then some (.infinite negative)
  else decimal? negative body

def ofText? (s : String) : Option Extended := ofChars? s.toList

end Formwork.Extended

namespace Formwork.Whole

def isSigned : List Char → Bool
  | '+' :: _ => true
  | _ => false

/-- Decimal digits, after at most one plus sign. -/
def ofChars? (cs : List Char) : Option Nat :=
  let ds := if isSigned cs then cs.drop 1 else cs
  if ds.isEmpty || !ds.all Char.isDigit then none
  else
    let n := ds.foldl (fun n c ↦ n * 10 + (c.toNat - '0'.toNat)) 0
    if n < Nat.pow 2 64 then some n else none

def ofText? (s : String) : Option Nat := ofChars? s.toList

end Formwork.Whole
