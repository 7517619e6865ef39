import Formwork.Record.Basic
import Formwork.Text.Basic

namespace Formwork.Json

inductive ReadError
  | unexpectedEnd
  | malformed
deriving DecidableEq

/-- The deepest nesting of arrays and objects that is read. -/
def maxDepth : Nat := 127

def isSpace (c : Char) : Bool := c == ' ' || c == '\n' || c == '\r' || c == '\t'

def skipSpace (cs : List Char) : List Char := cs.dropWhile isSpace

def readWord (v : Json) : List Char → List Char → Except ReadError (Json × List Char)
  | [], cs => .ok (v, cs)
  | _ :: _, [] => .error .unexpectedEnd
  | w :: ws, c :: cs => if c = w then readWord v ws cs else .error .malformed

/-- A decimal significand being read: the digits kept so far, the power of ten they are short by,
and whether a digit had to be dropped because the significand would not have fitted 64 bits. -/
structure Significand where
  value : Nat
  exponent : Int
  full : Bool

/-- A digit before the point. The first one that does not fit closes the significand for the digits
left of the point; each dropped digit raises the power of ten. -/
def Significand.pushWhole (s : Significand) (c : Char) : Significand :=
  let next := s.value * 10 + (c.toNat - '0'.toNat)
  if !s.full && next < Nat.pow 2 64 then { s with value := next }
  else { s with exponent := s.exponent + 1, full := true }

def Significand.pushFraction (s : Significand) (c : Char) : Significand :=
  let next := s.value * 10 + (c.toNat - '0'.toNat)
  if !s.full && next < Nat.pow 2 64 then { s with value := next, exponent := s.exponent - 1 }
  else { s with full := true }

/-- Division by `10ⁿ` in steps that a binary64 number can hold, each of them rounded. -/
def scaleDown (x : Binary64) (n : Nat) : Binary64 :=
  if n ≤ 308 then x.div (.powerOfTen n)
  else if x.isZero then x
  else scaleDown (x.div (.powerOfTen 308)) (n - 308)
termination_by n

/-- The value of a scaled significand: it is rounded first, then scaled. Too large a number is
malformed. -/
def Significand.toBinary64 (s : Significand) (negative : Bool) : Except ReadError Binary64 :=
  let x : Binary64 := { Binary64.ofNat s.value with negative }
  if s.exponent < 0 then .ok (scaleDown x s.exponent.natAbs)
  else if s.value = 0 then .ok x
  else if 308 < s.exponent then .error .malformed
  else match x.mul? (.powerOfTen s.exponent.toNat) with
    | some y => .ok y
    | none => .error .malformed

def readDigits : List Char → Except ReadError (List Char × List Char)
  | [] => .error .unexpectedEnd
  | c :: cs =>
    if c.isDigit then .ok (c :: cs.takeWhile Char.isDigit, cs.dropWhile Char.isDigit)
    else .error .malformed

def readWhole (cs : List Char) : Except ReadError (List Char × List Char) := do
  let (ds, rest) ← readDigits cs
  if ds.head? = some '0' && 1 < ds.length then .error .malformed else .ok (ds, rest)

def readFraction : List Char → Except ReadError (Option (List Char) × List Char)
  | '.' :: cs => do
    let (ds, rest) ← readDigits cs
    return (some ds, rest)
  | cs => .ok (none, cs)

def readPowerSign : List Char → Bool × List Char
  | '-' :: cs => (true, cs)
  | '+' :: cs => (false, cs)
  | cs => (false, cs)

def readPower : List Char → Except ReadError (Option Int × List Char)
  | [] => .ok (none, [])
  | c :: cs =>
    if c = 'e' || c = 'E' then do
      let (negative, cs) := readPowerSign cs
      let (ds, rest) ← readDigits cs
      let n : Int := ds.foldl (fun n d ↦ n * 10 + (d.toNat - '0'.toNat)) 0
      return (some (if negative then -n else n), rest)
    else .ok (none, c :: cs)

/-- A number without point and power is whole if it fits 64 bits, signed or not; `-0` is not
whole. -/
def readNumber (negative : Bool) (cs : List Char) : Except ReadError (Json × List Char) := do
  let (whole, cs) ← readWhole cs
  let (fraction, cs) ← readFraction cs
  let (power, cs) ← readPower cs
  let s : Significand := whole.foldl .pushWhole ⟨0, 0, false⟩
  let isWhole := fraction.isNone && power.isNone && !s.full
  if isWhole && !negative then
    return (.int s.value, cs)
  else if isWhole && 0 < s.value && s.value ≤ Nat.pow 2 63 then
    return (.int (-s.value), cs)
  else
    let s := (fraction.getD []).foldl .pushFraction { s with full := false }
    let x ← { s with exponent := s.exponent + power.getD 0 : Significand }.toBinary64 negative
    return (.number (.float x), cs)

def byteCount (cs : List Char) : Nat := cs.foldl (fun n c ↦ n + c.utf8Size) 0

/-- Four hexadecimal digits. A text with less than four bytes left has ended too early, whatever
they are. -/
def readHex (cs : List Char) : Except ReadError (Nat × List Char) :=
  match cs with
  | a :: b :: c :: d :: rest =>
    match Text.hexDigit? a, Text.hexDigit? b, Text.hexDigit? c, Text.hexDigit? d with
    | some a, some b, some c, some d => .ok (a * 4096 + b * 256 + c * 16 + d, rest)
    | _, _, _, _ => .error .malformed
  | cs => if byteCount cs < 4 then .error .unexpectedEnd else .error .malformed

def readLowSurrogate (high : Nat) : List Char → Except ReadError (Char × List Char)
  | [] => .error .unexpectedEnd
  | ['\\'] => .error .unexpectedEnd
  | '\\' :: 'u' :: cs => do
    let (low, rest) ← readHex cs
    if 0xdc00 ≤ low && low ≤ 0xdfff then
      return (Char.ofNat (0x10000 + (high - 0xd800) * 1024 + (low - 0xdc00)), rest)
    else .error .malformed
  | _ => .error .malformed

def readEscape : List Char → Except ReadError (Char × List Char)
  | [] => .error .unexpectedEnd
  | c :: cs =>
    match c with
    | '"' => .ok ('"', cs)
    | '\\' => .ok ('\\', cs)
    | '/' => .ok ('/', cs)
    | 'b' => .ok (Char.ofNat 0x08, cs)
    | 'f' => .ok (Char.ofNat 0x0c, cs)
    | 'n' => .ok ('\n', cs)
    | 'r' => .ok ('\r', cs)
    | 't' => .ok ('\t', cs)
    | 'u' => do
      let (n, rest) ← readHex cs
      if 0xdc00 ≤ n && n ≤ 0xdfff then .error .malformed
      else if 0xd800 ≤ n && n ≤ 0xdbff then readLowSurrogate n rest
      else return (Char.ofNat n, rest)
    | _ => .error .malformed

def readString (read : List Char) : Nat → List Char → Except ReadError (String × List Char)
  | _, [] => .error .unexpectedEnd
  | 0, _ => .error .unexpectedEnd
  | fuel + 1, c :: cs =>
    if c = '"' then .ok (String.ofList read.reverse, cs)
    else if c = '\\' then do
      let (d, rest) ← readEscape cs
      readString (d :: read) fuel rest
    else if c.toNat < 0x20 then .error .malformed
    else readString (c :: read) fuel cs

mutual

/-- A value with at most `depth` levels of nesting. Every step takes a character, so a `fuel` of the
length of the text is enough. -/
def readValue (depth : Nat) : Nat → List Char → Except ReadError (Json × List Char)
  | 0, _ => .error .unexpectedEnd
  | fuel + 1, cs =>
    match skipSpace cs with
    | [] => .error .unexpectedEnd
    | c :: cs =>
      if c = 'n' then readWord .null ['u', 'l', 'l'] cs
      else if c = 't' then readWord (.bool true) ['r', 'u', 'e'] cs
      else if c = 'f' then readWord (.bool false) ['a', 'l', 's', 'e'] cs
      else if c = '-' then readNumber true cs
      else if c.isDigit then readNumber false (c :: cs)
      else if c = '"' then do
        let (s, rest) ← readString [] (cs.length + 1) cs
        return (.string s, rest)
      else if c = '[' then
        if depth = 0 then .error .malformed else
        match skipSpace cs with
        | ']' :: rest => .ok (.array [], rest)
        | cs => readItems (depth - 1) [] fuel cs
      else if c = '\x7b' then
        if depth = 0 then .error .malformed else
        match skipSpace cs with
        | '\x7d' :: rest => .ok (.object [], rest)
        | cs => readMembers (depth - 1) .empty fuel cs
      else .error .malformed

def readItems (depth : Nat) (items : List Json) :
    Nat → List Char → Except ReadError (Json × List Char)
  | 0, _ => .error .unexpectedEnd
  | fuel + 1, cs => do
    let (v, rest) ← readValue depth fuel cs
    match skipSpace rest with
    | [] => .error .unexpectedEnd
    | ',' :: rest => readItems depth (v :: items) fuel rest
    | ']' :: rest => return (.array (v :: items).reverse, rest)
    | _ => .error .malformed

/-- The members of an object, from the first or from behind a comma. The last member of a key
stays. -/
def readMembers (depth : Nat) (members : Record) :
    Nat → List Char → Except ReadError (Json × List Char)
  | 0, _ => .error .unexpectedEnd
  | fuel + 1, cs =>
    match skipSpace cs with
    | [] => .error .unexpectedEnd
    | '"' :: cs => do
      let (key, rest) ← readString [] (cs.length + 1) cs
      match skipSpace rest with
      | [] => .error .unexpectedEnd
      | ':' :: rest => do
        let (v, rest) ← readValue depth fuel rest
        match skipSpace rest with
        | [] => .error .unexpectedEnd
        | ',' :: rest => readMembers depth (members.insert key v) fuel rest
        | '\x7d' :: rest => return ((members.insert key v).toJson, rest)
        | _ => .error .malformed
      | _ => .error .malformed
    | _ => .error .malformed

end

def parseChars (cs : List Char) : Except ReadError Json := do
  let (v, rest) ← readValue maxDepth (2 * cs.length + 2) cs
  if (skipSpace rest).isEmpty then return v else .error .malformed

def parse (s : String) : Except ReadError Json := parseChars s.toList

end Formwork.Json
