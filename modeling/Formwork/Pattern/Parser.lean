import Formwork.Pattern.Class
import Formwork.Pattern.Expr
import Formwork.Unicode.Alphanumeric

namespace Formwork.Pattern

structure Switches where
  ignoreCase : Bool
  multiline : Bool
  dotAll : Bool
  swapGreed : Bool
  spaced : Bool

structure Scan where
  rest : List Char
  switches : Switches
  groups : Nat
  names : List (String × Nat)
  extents : List (Nat × Extent)
  hasNumbered : Bool
  /-- Half the size of the text in bytes; a reference by number must stay below. -/
  referenceLimit : Nat

def afterComment? : List Char → Option (List Char)
  | [] => none
  | ')' :: cs => some cs
  | '\\' :: _ :: cs => afterComment? cs
  | _ :: cs => afterComment? cs

def skipIgnored : Nat → Scan → Option Scan
  | 0, s => some s
  | fuel + 1, s =>
    match s.rest with
    | '(' :: '?' :: '#' :: cs => do skipIgnored fuel { s with rest := ← afterComment? cs }
    | '#' :: cs =>
      if s.switches.spaced then
        skipIgnored fuel { s with rest := (cs.dropWhile (· != '\n')).drop 1 }
      else some s
    | c :: cs =>
      if s.switches.spaced && [' ', '\n', '\r', '\t'].contains c then
        skipIgnored fuel { s with rest := cs }
      else some s
    | [] => some s

def skip (s : Scan) : Option Scan := skipIgnored (s.rest.length + 1) s

def number (ds : List Char) : Nat := ds.foldl (fun n c ↦ n * 10 + (c.toNat - '0'.toNat)) 0

def readNumber? (cs : List Char) : Option (Nat × List Char) :=
  let ds := cs.takeWhile Char.isDigit
  if ds.isEmpty || unboundedCount < number ds then none else some (number ds, cs.drop ds.length)

def isNameChar (c : Char) : Bool := c == '_' || Unicode.isAlphanumeric c

def readName? (close : List Char) (cs : List Char) : Option (List Char × List Char) :=
  let name := cs.takeWhile isNameChar
  let rest := cs.drop name.length
  if !name.isEmpty && close.isPrefixOf rest then some (name, rest.drop close.length) else none

def readDistance? (close : List Char) (cs : List Char) : Option (Nat × List Char) := do
  let (n, rest) ← readNumber? cs
  if 0 < n && close.isPrefixOf rest then some (n, rest.drop close.length) else none

def readReference? (fromHere : Bool) (close : List Char) (s : Scan) : Option (Nat × Scan) :=
  match fromHere, s.rest with
  | true, '-' :: cs => do
    let (n, rest) ← readDistance? close cs
    if n ≤ s.groups then some (s.groups + 1 - n, { s with rest }) else none
  | true, '+' :: cs => do
    let (n, rest) ← readDistance? close cs
    some (s.groups + n, { s with rest })
  | _, cs => do
    let (name, rest) ← readName? close cs
    match s.names.lookup (String.ofList name) with
    | some group => some (group, { s with rest })
    | none => if name.all Char.isDigit then some (number name, { s with rest }) else none

def Scan.refer (s : Scan) (group : Nat) : Expr :=
  .reference group s.switches.ignoreCase ((s.extents.lookup group).getD ⟨0, false⟩)

def readNumbered? (s : Scan) : Option (Expr × Scan) := do
  let (group, rest) ← readNumber? s.rest
  if group < s.referenceLimit then
    let s := { s with rest, hasNumbered := true }
    some (s.refer group, s)
  else none

def readNamed? (fromHere : Bool) (close : List Char) (s : Scan) : Option (Expr × Scan) := do
  let (group, s) ← readReference? fromHere close s
  some (s.refer group, s)

def Scan.one (s : Scan) (set : CharSet) (nesting : Nat) : Expr :=
  .one set (nesting + if s.switches.ignoreCase then 1 else 0)

def Scan.char (s : Scan) (c : Char) : Expr :=
  s.one ((CharSet.char c).foldIf s.switches.ignoreCase) 0

def anyCharacter (dotAll : Bool) : Expr :=
  if dotAll then .one .all 1 else .one (.negate (.char '\n')) 0

def textEndOrBreaks : Expr :=
  .look false false (.concat [.iterate (.one (.char '\n') 0) 0 none true, .edge .textEnd])

/-- An escape outside of a class, from behind its backslash. A character beyond ASCII that is
escaped is taken as it is. -/
def readEscape? (s : Scan) : Option (Expr × Scan) :=
  match s.rest with
  | [] => none
  | c :: cs =>
    let r := { s with rest := cs }
    match c, cs with
    | 'A', _ => some (.edge .textStart, r)
    | 'z', _ => some (.edge .textEnd, r)
    | 'Z', _ => some (textEndOrBreaks, r)
    | 'b', _ => if cs.head? == some '\x7b' then none else some (.edge .wordEdge, r)
    | 'B', _ => if cs.head? == some '\x7b' then none else some (.edge .noWordEdge, r)
    | '<', _ => some (.edge .wordStart, r)
    | '>', _ => some (.edge .wordEnd, r)
    | 'K', _ => some (.edge .anywhere, r)
    | 'G', _ => some (.edge .searchStart, r)
    | 'O', _ => some (anyCharacter true, r)
    | 'k', '<' :: cs => readNamed? true ['>'] { s with rest := cs }
    | 'k', '\x27' :: cs => readNamed? true ['\x27'] { s with rest := cs }
    | c, _ =>
      if c.isDigit then readNumbered? s
      else if 0x80 ≤ c.toNat then some (.one (.char c) 0, r)
      else
        match readCharEscape? s.rest with
        | some (.char d, rest) => some (s.char d, { s with rest })
        | some (.set set negated, rest) =>
          let nesting := if c == 'h' || c == 'H' then 2 else 0
          some (s.one ((set.foldIf s.switches.ignoreCase).negateIf negated) nesting,
            { s with rest })
        | _ => none

def readBounds? (s : Scan) : Option (Nat × Nat × Scan) := do
  let s ← skip s
  let (low, s) ← match readNumber? s.rest with
    | some (n, rest) => some (n, { s with rest })
    | none => if s.rest.head? == some ',' then some (0, s) else none
  let s ← skip s
  let (high, s) ← match s.rest with
    | ',' :: cs => do
      let s ← skip { s with rest := cs }
      match readNumber? s.rest with
      | some (n, rest) => some (n, ← skip { s with rest })
      | none => some (unboundedCount, s)
    | _ => some (low, s)
  match s.rest with
  | '\x7d' :: cs => some (low, high, { s with rest := cs })
  | _ => none

def readRepetition? (s : Scan) : Option (Nat × Option Nat × Scan) :=
  match s.rest with
  | '?' :: cs => some (0, some 1, { s with rest := cs })
  | '*' :: cs => some (0, none, { s with rest := cs })
  | '+' :: cs => some (1, none, { s with rest := cs })
  | '\x7b' :: cs => do
    let (low, high, s) ← readBounds? { s with rest := cs }
    some (low, if high < unboundedCount then some high else none, s)
  | _ => none

/-- What takes no text by itself cannot be repeated. -/
def Expr.isRepeatable : Expr → Bool
  | .empty | .edge _ | .look .. | .captured _ => false
  | _ => true

/-- Puts the repetition that follows an expression around it, with what follows the repetition: a
question mark for few repetitions first, a plus sign for giving none back. -/
def repeated? (e : Expr) (s : Scan) : Option (Expr × Scan) := do
  let s ← skip s
  match readRepetition? s with
  | none => some (e, s)
  | some (low, high, s) =>
    if !e.isRepeatable then none else do
      let s ← skip s
      let (lazily, s) := match s.rest with
        | '?' :: cs => (true, { s with rest := cs })
        | _ => (false, s)
      let e := Expr.iterate e low high (lazily == s.switches.swapGreed)
      match s.rest with
      | '+' :: cs => some (.atomic e, { s with rest := cs })
      | _ => some (e, s)

def closeGroup? (s : Scan) : Option Scan :=
  match s.rest with
  | ')' :: cs => some { s with rest := cs }
  | _ => none

def openNamed? (close : Char) (s : Scan) : Option Scan := do
  let (name, rest) ← readName? [close] s.rest
  let group := s.groups + 1
  some { s with rest, groups := group, names := (String.ofList name, group) :: s.names }

def Scan.closed (s : Scan) (group : Nat) (body : Expr) : Expr × Scan :=
  (.group group body, { s with extents := (group, body.extent) :: s.extents })

def readSwitches? (negated : Bool) : Nat → Scan → Option (Bool × Scan)
  | 0, _ => none
  | fuel + 1, s => do
    let s ← skip s
    match s.rest with
    | [] => none
    | c :: cs =>
      let on := !negated
      let turn (switches : Switches) : Option (Bool × Scan) :=
        readSwitches? negated fuel { s with rest := cs, switches }
      match c with
      | 'i' => turn { s.switches with ignoreCase := on }
      | 'm' => turn { s.switches with multiline := on }
      | 's' => turn { s.switches with dotAll := on }
      | 'U' => turn { s.switches with swapGreed := on }
      | 'x' => turn { s.switches with spaced := on }
      | 'u' => if negated then none else turn s.switches
      | '-' => if negated then none else readSwitches? true fuel { s with rest := cs }
      | ')' => some (false, { s with rest := cs })
      | ':' => some (true, { s with rest := cs })
      | _ => none

def asCondition : Expr → Expr
  | .reference group _ _ => .captured group
  | e => e

/-- A choice whose two sides are both empty is its condition. -/
def conditional (condition yes no : Expr) : Expr :=
  match yes, no with
  | .empty, .empty => condition
  | yes, no => .conditional condition yes no

def maxGroups : Nat := 64

mutual

/-- An expression. References by number and named groups exclude each other, unless there are
alternatives. -/
def readExpression? (depth : Nat) : Nat → Scan → Option (Expr × Scan)
  | 0, _ => none
  | fuel + 1, s => do
    let (first, s) ← readBranch? depth [] fuel s
    let s ← skip s
    match s.rest with
    | '|' :: _ => do
      let (others, s) ← readBranches? depth fuel s
      some (.alternate (first :: others), s)
    | _ => if s.hasNumbered && !s.names.isEmpty then none else some (first, s)
termination_by structural fuel => fuel

def readBranches? (depth : Nat) : Nat → Scan → Option (List Expr × Scan)
  | 0, _ => none
  | fuel + 1, s =>
    match s.rest with
    | '|' :: cs => do
      let (e, s) ← readBranch? depth [] fuel { s with rest := cs }
      let s ← skip s
      let (es, s) ← readBranches? depth fuel s
      some (e :: es, s)
    | _ => some ([], s)
termination_by structural fuel => fuel

def readBranch? (depth : Nat) (parts : List Expr) : Nat → Scan → Option (Expr × Scan)
  | 0, _ => none
  | fuel + 1, s =>
    if s.rest.isEmpty then some (.concatAll parts.reverse, s)
    else do
      let (e, r) ← readPiece? depth fuel s
      if r.rest.length == s.rest.length then some (.concatAll parts.reverse, s)
      else match e with
        | .empty => readBranch? depth parts fuel r
        | e => readBranch? depth (e :: parts) fuel r
termination_by structural fuel => fuel

def readPiece? (depth : Nat) : Nat → Scan → Option (Expr × Scan)
  | 0, _ => none
  | fuel + 1, s => do
    let (e, s) ← readAtom? depth fuel s
    repeated? e s
termination_by structural fuel => fuel

def readAtom? (depth : Nat) : Nat → Scan → Option (Expr × Scan)
  | 0, _ => none
  | fuel + 1, s => do
    let s ← skip s
    match s.rest with
    | [] => some (.empty, s)
    | c :: cs =>
      let r := { s with rest := cs }
      match c with
      | '.' => some (anyCharacter s.switches.dotAll, r)
      | '^' => some (.edge (if s.switches.multiline then .lineStart else .textStart), r)
      | '$' => some (.edge (if s.switches.multiline then .lineEnd else .textEnd), r)
      | '(' => readGroup? depth fuel r
      | '\\' => readEscape? r
      | '+' | '*' | '?' | '|' | ')' => some (.empty, s)
      | '[' => do
        let (part, rest) ← readFullClass? s.switches.ignoreCase cs
        some (s.one part.set part.nesting, { s with rest })
      | c => some (s.char c, r)
termination_by structural fuel => fuel

def readGroup? (depth : Nat) : Nat → Scan → Option (Expr × Scan)
  | 0, _ => none
  | fuel + 1, s =>
    if maxGroups ≤ depth + 1 then none else do
      let s ← skip s
      let body (s : Scan) : Option (Expr × Scan) := do
        let (e, s) ← readExpression? (depth + 1) fuel s
        some (e, ← closeGroup? s)
      let look (behind negated : Bool) (cs : List Char) : Option (Expr × Scan) := do
        let (e, s) ← body { s with rest := cs }
        some (.look behind negated e, s)
      let named (close : Char) (cs : List Char) : Option (Expr × Scan) := do
        let s ← openNamed? close { s with rest := cs }
        let (e, r) ← body s
        some (r.closed s.groups e)
      match s.rest with
      | '?' :: '=' :: cs => look false false cs
      | '?' :: '!' :: cs => look false true cs
      | '?' :: '<' :: '=' :: cs => look true false cs
      | '?' :: '<' :: '!' :: cs => look true true cs
      | '?' :: '<' :: cs => named '>' cs
      | '?' :: '\x27' :: cs => named '\x27' cs
      | '?' :: 'P' :: '<' :: cs => named '>' cs
      | '?' :: 'P' :: '=' :: cs => readNamed? false [')'] { s with rest := cs }
      | '?' :: '>' :: cs => do
        let (e, s) ← body { s with rest := cs }
        some (.atomic e, s)
      | '?' :: '(' :: cs => readConditional? depth fuel { s with rest := cs }
      | '?' :: ')' :: _ | '?' :: '-' :: ')' :: _ | '?' :: '-' :: ':' :: _ => none
      | '?' :: cs => do
        let (hasBody, r) ← readSwitches? false (cs.length + 1) { s with rest := cs }
        if hasBody then do
          let (e, r) ← body r
          some (e, { r with switches := s.switches })
        else some (.empty, r)
      | _ => do
        let group := s.groups + 1
        let (e, r) ← body { s with groups := group }
        some (r.closed group e)
termination_by structural fuel => fuel

def readConditional? (depth : Nat) : Nat → Scan → Option (Expr × Scan)
  | 0, _ => none
  | fuel + 1, s => do
    let (condition, s) ← match s.rest with
      | '<' :: cs => readNamed? true ['>', ')'] { s with rest := cs }
      | '\x27' :: cs => readNamed? true ['\x27', ')'] { s with rest := cs }
      | c :: _ =>
        if c.isDigit || c == '+' || c == '-' then readNamed? true [')'] s
        else do
          let (e, s) ← readExpression? (depth + 1) fuel s
          some (e, ← closeGroup? s)
      | [] => none
    let (branches, r) ← readExpression? (depth + 1) fuel s
    let isReference := match condition with
      | .reference .. => true
      | _ => false
    if r.rest.length == s.rest.length && !isReference then none
    else do
      let (yes, no) := match branches with
        | .alternate (yes :: others) => (yes, Expr.alternateAll others)
        | e => (e, .empty)
      some (conditional (asCondition condition) yes no, ← closeGroup? r)
termination_by structural fuel => fuel

end

/-- The expression that a text is the notation of. The groups asked for have to be there. -/
def Expr.parse? (text : String) : Option Expr := do
  let cs := text.toList
  let start : Scan :=
    ⟨cs, ⟨false, false, false, false, false⟩, 0, [], [], false, text.utf8ByteSize / 2⟩
  let (e, s) ← readExpression? 0 (8 * cs.length + 16) start
  if s.rest.isEmpty && e.references.all (fun n ↦ 0 < n && n ≤ s.groups) then some e else none

end Formwork.Pattern
