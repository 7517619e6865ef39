import Formwork.Pattern.Class
import Formwork.Pattern.Weight
import Formwork.Unicode.Alphanumeric

namespace Formwork.Pattern.Plain

structure Item where
  nesting : Nat
  repeatable : Bool

structure Level where
  spaced : Bool
  /-- The number of branches that are complete, and the depth of the deepest one. -/
  branches : Nat
  deepestBranch : Nat
  /-- The number of parts of the current branch, the depth of the deepest one but the last, and the
  last one. -/
  items : Nat
  deepestItem : Nat
  last : Option Item

namespace Level

def start (spaced : Bool) : Level := ⟨spaced, 0, 0, 0, 0, none⟩

def add (l : Level) (i : Item) : Level :=
  { l with
    items := l.items + 1
    deepestItem := max l.deepestItem (l.last.elim 0 (·.nesting))
    last := some i }

def repeat? (l : Level) : Option Level :=
  match l.last with
  | some i => if i.repeatable then some { l with last := some ⟨i.nesting + 1, true⟩ } else none
  | none => none

def branchNesting (l : Level) : Nat :=
  max l.deepestItem (l.last.elim 0 (·.nesting)) + if 2 ≤ l.items then 1 else 0

def endBranch (l : Level) : Level :=
  ⟨l.spaced, l.branches + 1, max l.deepestBranch l.branchNesting, 0, 0, none⟩

def nesting (l : Level) : Nat :=
  max l.deepestBranch l.branchNesting + if 1 ≤ l.branches then 1 else 0

end Level

structure Scan where
  rest : List Char
  spaced : Bool
  names : List (List Char)
  bell : Bool
  level : Level
  outer : List Level

inductive Verdict
  | plain
  /-- A look-around or a reference by number comes first of what is not plain. -/
  | beyond
  | foreign
deriving DecidableEq

abbrev Step := Except Verdict Scan

def orForeign {α : Type} : Option α → Except Verdict α
  | some x => .ok x
  | none => .error .foreign

def Scan.add (s : Scan) (i : Item) (rest : List Char) : Scan :=
  { s with level := s.level.add i, rest }

def readName? (first : Bool) : List Char → Option (List Char × List Char)
  | [] => none
  | c :: cs =>
    if c == '>' then (if first then none else some ([], cs))
    else
      let fits := c == '_' ||
        (if first then Unicode.isLetter c else "[.]".contains c || Unicode.isAlphanumeric c)
      if fits then (readName? false cs).map fun r ↦ (c :: r.1, r.2) else none

def switchSigns : List Char := ['i', 'm', 's', 'U', 'u', 'R', 'x', '-']

/-- Switches up to the sign that ends them, each given once: whether blanks count for nothing if
that is said, whether there are any, and whether a group follows. -/
def readSwitches? (seen : List Char) (spaced : Option Bool) :
    List Char → Option (Option Bool × Bool × Bool × List Char)
  | [] => none
  | c :: cs =>
    if c == ':' || c == ')' then
      if seen.head? == some '-' then none else some (spaced, !seen.isEmpty, c == ':', cs)
    else if seen.contains c || !(switchSigns.contains c) then none
    else readSwitches? (c :: seen) (if c == 'x' then some (!seen.contains '-') else spaced) cs

def Scan.opened (s : Scan) (spaced : Bool) (rest : List Char) : Scan :=
  { s with rest, spaced, level := .start s.spaced, outer := s.level :: s.outer }

def openGroup (s : Scan) : Step :=
  match s.rest with
  | '?' :: '=' :: _ | '?' :: '!' :: _ | '?' :: '<' :: '=' :: _ | '?' :: '<' :: '!' :: _ =>
    .error .beyond
  | '?' :: 'P' :: '<' :: cs | '?' :: '<' :: cs => do
    let (name, rest) ← orForeign (readName? true cs)
    if s.names.contains name then .error .foreign
    else .ok { s.opened s.spaced rest with names := name :: s.names }
  | '?' :: cs => do
    let (spaced, given, hasBody, rest) ← orForeign (readSwitches? [] none cs)
    if hasBody then .ok (s.opened (spaced.getD s.spaced) rest)
    else if given then .ok { s.add ⟨0, false⟩ rest with spaced := spaced.getD s.spaced }
    else .error .foreign
  | cs => .ok (s.opened s.spaced cs)

def closeGroup (s : Scan) (rest : List Char) : Step :=
  match s.outer with
  | [] => .error .foreign
  | level :: outer =>
    .ok { s with
      rest, outer
      spaced := s.level.spaced
      level := level.add ⟨s.level.nesting + 1, true⟩ }

def readDigits (spaced : Bool) : Nat → List Char → List Char × List Char
  | fuel + 1, c :: cs =>
    if c.isDigit then
      let r := readDigits spaced fuel (skipBlanks spaced cs)
      (c :: r.1, r.2)
    else ([], c :: cs)
  | _, cs => ([], cs)

def readCount? (spaced : Bool) (cs : List Char) : Option (Nat × List Char) :=
  let (digits, rest) := readDigits spaced cs.length (cs.dropWhile Text.isBlank)
  let n := digits.foldl (fun n c ↦ n * 10 + (c.toNat - '0'.toNat)) 0
  let rest := rest.dropWhile Text.isBlank
  if digits.isEmpty || Expr.countLimit < n then none else some (n, rest)

def dropLazySign : List Char → List Char
  | '?' :: cs => cs
  | cs => cs

def afterBounds? (spaced : Bool) (cs : List Char) : Option (List Char) := do
  let (low, cs) ← readCount? spaced (skipBlanks spaced cs)
  let (high, cs) ← match cs with
    | ',' :: cs =>
      match skipBlanks spaced cs with
      | '\x7d' :: cs => some (none, '\x7d' :: cs)
      | cs => (readCount? spaced cs).map fun r ↦ (some r.1, r.2)
    | cs => some (some low, cs)
  match cs with
  | '\x7d' :: cs => if high.any (· < low) then none else some (dropLazySign (skipBlanks spaced cs))
  | _ => none

def step (s : Scan) (c : Char) (cs : List Char) : Step :=
  match c with
  | '(' => openGroup { s with rest := skipBlanks s.spaced cs }
  | ')' => closeGroup s cs
  | '|' => .ok { s with level := s.level.endBranch, rest := cs }
  | '[' => do
    let (part, rest) ← orForeign (readClass? s.spaced false cs)
    .ok (s.add ⟨part.nesting, true⟩ rest)
  | '?' | '*' | '+' =>
    do .ok { s with level := ← orForeign s.level.repeat?, rest := dropLazySign cs }
  | '\x7b' => do
    let level ← orForeign s.level.repeat?
    .ok { s with level, rest := ← orForeign (afterBounds? s.spaced cs) }
  | '\\' =>
    if cs.head?.any Char.isDigit then .error .beyond
    else do
      let (_, rest) ← orForeign (readPlainEscape? cs)
      .ok { s.add ⟨0, true⟩ rest with bell := s.bell || cs.head? == some 'a' }
  | _ => .ok (s.add ⟨0, true⟩ cs)

def run : Nat → Scan → Verdict
  | 0, _ => .foreign
  | fuel + 1, s =>
    match skipBlanks s.spaced s.rest with
    | [] =>
      if s.outer.isEmpty && !s.bell && s.level.nesting ≤ Expr.nestingLimit then .plain else .foreign
    | c :: cs =>
      match step s c cs with
      | .ok s => run fuel s
      | .error v => v

def verdict (text : String) : Verdict :=
  let cs := text.toList
  run (cs.length + 1) ⟨cs, false, [], false, .start false, []⟩

end Formwork.Pattern.Plain
