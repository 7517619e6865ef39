import Formwork.Pattern.CharSet
import Formwork.Pattern.Named

namespace Formwork.Pattern

inductive Escape
  | char (c : Char)
  | set (s : CharSet) (negated : Bool)
  | edge (e : Edge)

/-- A character by its number: a fixed count of hexadecimal digits, or up to eight of them in
braces. -/
def readCodePoint? (count : Nat) (cs : List Char) : Option (Escape × List Char) := do
  let (ds, rest) ← match cs with
    | '\x7b' :: cs =>
      let ds := cs.takeWhile fun c ↦ (Text.hexDigit? c).isSome
      match cs.dropWhile fun c ↦ (Text.hexDigit? c).isSome with
      | '\x7d' :: rest => if ds.isEmpty || 8 < ds.length then none else some (ds, rest)
      | _ => none
    | cs =>
      let ds := cs.take count
      if ds.length == count && ds.all fun c ↦ (Text.hexDigit? c).isSome then
        some (ds, cs.drop count)
      else none
  let n := (Text.readHex 0 ds).1
  if h : n.isValidChar then some (.char (Char.ofNatAux n h), rest) else none

def readProperty? (negated : Bool) : List Char → Option (Escape × List Char)
  | [] => none
  | '\x7b' :: cs => do
    let text := cs.takeWhile (· != '\x7d')
    let rest ← match cs.dropWhile (· != '\x7d') with
      | _ :: rest => some rest
      | [] => none
    let (set, inverse) ← setInBraces? text
    some (.set set (negated != inverse), rest)
  | c :: cs => do some (.set (← setByName? [c]) negated, cs)

def readSharedEscape? : List Char → Option (Option (Escape × List Char))
  | [] => none
  | c :: cs =>
    let shorthand (k : Shorthand) (negated : Bool) :=
      some (some (Escape.set (.shorthand k) negated, cs))
    match c with
    | 'd' => shorthand .digit false
    | 'D' => shorthand .digit true
    | 'w' => shorthand .word false
    | 'W' => shorthand .word true
    | 's' => shorthand .space false
    | 'S' => shorthand .space true
    | 'x' => some (readCodePoint? 2 cs)
    | 'u' => some (readCodePoint? 4 cs)
    | 'U' => some (readCodePoint? 8 cs)
    | 'p' => some (readProperty? false cs)
    | 'P' => some (readProperty? true cs)
    | _ => none

def controlLetters : List (Char × Nat) :=
  [('a', 0x07), ('f', 0x0c), ('n', 0x0a), ('r', 0x0d), ('t', 0x09), ('v', 0x0b)]

def hexadecimal : CharSet := .unionAll [.range '0' '9', .range 'A' 'F', .range 'a' 'f']

def readCharEscape? (cs : List Char) : Option (Escape × List Char) :=
  match readSharedEscape? cs with
  | some result => result
  | none =>
    match cs with
    | [] => none
    | 'h' :: cs => some (.set hexadecimal false, cs)
    | 'H' :: cs => some (.set hexadecimal true, cs)
    | 'e' :: cs => some (.char '\x1b', cs)
    | c :: cs =>
      match controlLetters.lookup c with
      | some n => some (.char (Char.ofNat n), cs)
      | none => if c.isAlphanum then none else some (.char c, cs)

def readPlainEscape? (cs : List Char) : Option (Escape × List Char) :=
  match readSharedEscape? cs with
  | some result => result
  | none =>
    match cs with
    | [] => none
    | 'A' :: cs => some (.edge .textStart, cs)
    | 'z' :: cs => some (.edge .textEnd, cs)
    | 'b' :: cs => some (.edge .wordEdge, cs)
    | 'B' :: cs => some (.edge .noWordEdge, cs)
    | '<' :: cs => some (.edge .wordStart, cs)
    | '>' :: cs => some (.edge .wordEnd, cs)
    | c :: cs =>
      match controlLetters.lookup c with
      | some n => some (.char (Char.ofNat n), cs)
      | none => if c.isAlphanum || 0x80 ≤ c.toNat then none else some (.char c, cs)

end Formwork.Pattern
