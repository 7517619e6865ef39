import Formwork.Pattern.Escape

namespace Formwork.Pattern

/-- The text behind blanks and comments, which a spaced-out pattern may hold anywhere. -/
def dropBlanks (comment : Bool) : List Char → List Char
  | [] => []
  | c :: cs =>
    if comment then dropBlanks (c != '\n') cs
    else if Text.isBlank c then dropBlanks false cs
    else if c == '#' then dropBlanks true cs
    else c :: cs

def skipBlanks (spaced : Bool) (cs : List Char) : List Char :=
  if spaced then dropBlanks false cs else cs

inductive SetOperation
  | intersection
  | difference
  | symmetricDifference

def SetOperation.apply : SetOperation → CharSet → CharSet → CharSet
  | intersection => .inter
  | difference => .diff
  | symmetricDifference => .symmDiff

structure ClassPart where
  set : CharSet
  nesting : Nat

def SetOperation.join (op : SetOperation) (p q : ClassPart) : ClassPart :=
  ⟨op.apply p.set q.set, max p.nesting q.nesting + 1⟩

structure Members where
  whole : ClassPart
  count : Nat

namespace Members

def none : Members := ⟨⟨.none, 0⟩, 0⟩

def add (m : Members) (p : ClassPart) : Members :=
  ⟨⟨.union m.whole.set p.set, max m.whole.nesting p.nesting⟩, m.count + 1⟩

def toPart (m : Members) : ClassPart :=
  if 2 ≤ m.count then ⟨m.whole.set, m.whole.nesting + 1⟩ else m.whole

end Members

def readAsciiClass? (ignoreCase : Bool) (cs : List Char) : Option (CharSet × List Char) :=
  match cs with
  | '[' :: ':' :: cs =>
    let (negated, cs) := match cs with
      | '^' :: cs => (true, cs)
      | cs => (false, cs)
    match cs.dropWhile (· != ':') with
    | ':' :: ']' :: rest =>
      (asciiClasses.lookup (String.ofList (cs.takeWhile (· != ':')))).map fun s ↦
        ((s.foldIf ignoreCase).negateIf negated, rest)
    | _ => none
  | _ => none

def readMember? : List Char → Option (Escape × List Char)
  | [] => none
  | '\\' :: cs => readPlainEscape? cs
  | c :: cs => some (.char c, cs)

def setOperation? : List Char → Option SetOperation
  | '&' :: '&' :: _ => some .intersection
  | '-' :: '-' :: _ => some .difference
  | '~' :: '~' :: _ => some .symmetricDifference
  | _ => none

def peekPastBlanks (spaced : Bool) (cs : List Char) : Option Char :=
  if !spaced then cs.head?
  else
    match cs.dropWhile Text.isBlank with
    | '#' :: comment => (comment.dropWhile Text.isBlank).head?.or cs.head?
    | rest => rest.head?.or cs.head?

/-- The text behind the dash of a range. A dash before a bracket stands for itself, and two of them
are an operator. -/
def rangeEnd? (spaced : Bool) : List Char → Option (List Char)
  | '-' :: cs =>
    let next := peekPastBlanks spaced cs
    if next == some ']' || next == some '-' then none else some (skipBlanks spaced cs)
  | _ => none

def readRange? (spaced ignoreCase : Bool) (cs : List Char) : Option (CharSet × List Char) := do
  let (first, cs) ← readMember? cs
  let cs := skipBlanks spaced cs
  match rangeEnd? spaced cs with
  | none =>
    match first with
    | .char c => some ((CharSet.char c).foldIf ignoreCase, cs)
    | .set s negated => some ((s.foldIf ignoreCase).negateIf negated, cs)
    | .edge _ => none
  | some cs => do
    let (last, cs) ← readMember? cs
    match first, last with
    | .char a, .char b => if a ≤ b then some ((CharSet.range a b).foldIf ignoreCase, cs) else none
    | _, _ => none

def readDashes (spaced : Bool) (members : Members) : Nat → List Char → Members × List Char
  | fuel + 1, '-' :: cs =>
    readDashes spaced (members.add ⟨.char '-', 0⟩) fuel (skipBlanks spaced cs)
  | _, cs => (members, cs)

def readOpening (spaced : Bool) (cs : List Char) : Members × List Char :=
  match cs with
  | ']' :: cs => (Members.none.add ⟨.char ']', 0⟩, skipBlanks spaced cs)
  | cs => readDashes spaced .none cs.length cs

mutual

def readBrackets? (spaced ignoreCase : Bool) : Nat → List Char → Option (ClassPart × List Char)
  | 0, _ => none
  | fuel + 1, cs => do
    let cs := skipBlanks spaced cs
    let (negated, cs) := match cs with
      | '^' :: cs => (true, skipBlanks spaced cs)
      | cs => (false, cs)
    let (members, cs) := readOpening spaced cs
    let (part, cs) ← readMembers? spaced ignoreCase none members fuel cs
    some (⟨part.set.negateIf negated, part.nesting + 1⟩, cs)

/-- The members of a class up to its closing bracket: `before` is what an operator has closed off,
`members` what has been read since. -/
def readMembers? (spaced ignoreCase : Bool) (before : Option (SetOperation × ClassPart))
    (members : Members) : Nat → List Char → Option (ClassPart × List Char)
  | 0, _ => none
  | fuel + 1, cs =>
    let closed := match before with
      | none => members.toPart
      | some (op, left) => op.join left members.toPart
    let cs := skipBlanks spaced cs
    match cs with
    | [] => none
    | ']' :: rest => some (closed, rest)
    | '[' :: rest =>
      match readAsciiClass? ignoreCase cs with
      | some (set, rest) => readMembers? spaced ignoreCase before (members.add ⟨set, 0⟩) fuel rest
      | none => do
        let (part, rest) ← readBrackets? spaced ignoreCase fuel rest
        readMembers? spaced ignoreCase before (members.add part) fuel rest
    | cs =>
      match setOperation? cs with
      | some op => readMembers? spaced ignoreCase (some (op, closed)) .none fuel (cs.drop 2)
      | none => do
        let (set, rest) ← readRange? spaced ignoreCase cs
        readMembers? spaced ignoreCase before (members.add ⟨set, 0⟩) fuel rest

end

def readClass? (spaced ignoreCase : Bool) (cs : List Char) : Option (ClassPart × List Char) :=
  readBrackets? spaced ignoreCase (2 * cs.length + 2) cs

def signs : List Char :=
  ['\\', '.', '+', '*', '?', '(', ')', '|', '[', ']', '\x7b', '\x7d', '^', '$', '#', '&', '-', '~']

def quote (c : Char) : List Char := if signs.contains c then ['\\', c] else [c]

/-- Letters that mean a place or a reference behind a backslash, and stand for themselves there
within a class. -/
def placeLetters : List Char := ['A', 'B', 'G', 'K', 'k', 'z']

def plainEscape? : List Char → Option (List Char × List Char)
  | [] => none
  | 'b' :: cs => some (['\x08'], cs)
  | 'h' :: cs => some ("[0-9A-Fa-f]".toList, cs)
  | 'H' :: cs => some ("[^0-9A-Fa-f]".toList, cs)
  | c :: cs =>
    if placeLetters.contains c then some ([c], cs)
    else
      match readCharEscape? (c :: cs) with
      | some (.char d, rest) => some (quote d, rest)
      | some (_, rest) => some ('\\' :: (c :: cs).take (cs.length + 1 - rest.length), rest)
      | none => none

def plainClass? (depth : Nat) : Nat → List Char → Option (List Char × List Char)
  | 0, _ => none
  | fuel + 1, cs => do
    let more (written : List Char) (depth : Nat) (rest : List Char) :
        Option (List Char × List Char) :=
      (plainClass? depth fuel rest).map fun r ↦ (written ++ r.1, r.2)
    match cs with
    | [] => none
    | '\\' :: cs => do
      let (written, rest) ← plainEscape? cs
      more written depth rest
    | '[' :: cs => more ['['] (depth + 1) cs
    | ']' :: cs => if depth ≤ 1 then some ([']'], cs) else more [']'] (depth - 1) cs
    | c :: cs => more [c] depth cs

def readFullClass? (ignoreCase : Bool) (cs : List Char) : Option (ClassPart × List Char) := do
  let (opening, cs) := match cs with
    | '^' :: ']' :: cs => (['^', ']'], cs)
    | ']' :: cs => ([']'], cs)
    | cs => ([], cs)
  let (written, rest) ← plainClass? 1 (cs.length + 1) cs
  match readClass? false ignoreCase (opening ++ written) with
  | some (part, []) => some (part, rest)
  | _ => none

end Formwork.Pattern
