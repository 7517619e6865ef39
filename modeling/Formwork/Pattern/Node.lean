import Formwork.Pattern.Regular
import Formwork.Pattern.Weight

namespace Formwork.Pattern

inductive Node
  | empty
  /-- The preferred match of a regular expression. -/
  | whole (r : Regular)
  | edge (e : Edge)
  | concat (m n : Node)
  | alternate (m n : Node)
  /-- From `low` up to `high` repetitions. Where they have no bound, one behind the first ones that
  takes nothing is the last one. -/
  | iterate (body : Node) (low : Nat) (high : Option Nat) (greedy : Bool)
  | group (number : Nat) (body : Node)
  | atomic (body : Node)
  /-- What is to be found from a place on that lies so many characters back, or not to be found
  there. -/
  | look (back : Nat) (negated : Bool) (body : Node)
  | reference (group : Nat) (ignoreCase : Bool)
  | captured (group : Nat)
  | conditional (condition yes no : Node)

namespace Node

def concatAll : List Node → Node
  | [] => .empty
  | [n] => n
  | n :: ns => .concat n (concatAll ns)

def alternateAll : List Node → Node
  | [] => .empty
  | [n] => n
  | n :: ns => .alternate n (alternateAll ns)

end Node

namespace Expr

mutual

def toRegular : Expr → Regular
  | .empty => .empty
  | .one s _ => .one s
  | .edge e => .edge e
  | .concat parts => .concatAll (allToRegular parts)
  | .alternate branches => .alternateAll (allToRegular branches)
  | .group _ body => body.toRegular
  | .iterate body low high greedy =>
    let (low, high) := bounds body low high
    .iterate body.toRegular low high greedy
  | _ => .fail

def allToRegular : List Expr → List Regular
  | [] => []
  | e :: es => e.toRegular :: allToRegular es

end

def whole? (parts : List Expr) : Option Node :=
  let parts := parts.flatMap items
  let depth := match parts with
    | [e] => e.nesting 1
    | es => nestings 2 es + 1
  if fit depth parts then some (.whole (.concatAll (allToRegular parts))) else none

/-- The parts of a list that can be taken as a whole at its front and at its end, and the number of
those between. At the end they need not take a fixed count of characters, unless that is
`strict`. -/
def splitParts (used : List Nat) (strict : Bool) (parts : List Expr) :
    List Expr × Nat × List Expr :=
  let easy (e : Expr) : Bool := !e.isHard used
  let front := parts.takeWhile fun e ↦ e.extent.fixed && easy e
  let rest := parts.drop front.length
  let last := (rest.reverse.takeWhile fun e ↦ easy e && (!strict || e.extent.fixed)).reverse
  (front, rest.length - last.length, last)

def wholes? (parts : List Expr) : Option (List Node) :=
  if parts.isEmpty then some [] else (whole? parts).map ([·])

mutual

/-- How an expression is looked for, if it can be: what is looked for behind a place has to have one
extent. Where that is `strict`, what follows may need any way through it; elsewhere the preferred
one of a regular expression will do. -/
def toNode? (used : List Nat) (strict : Bool) (e : Expr) : Option Node :=
  if !strict && !e.isHard used then whole? [e]
  else
    match e with
    | .empty => some .empty
    | .one s n => whole? [.one s n]
    | .edge e => some (.edge e)
    | .concat parts => do
      let (front, between, last) := splitParts used strict parts
      let nodes ← nodesBetween? used front.length between parts
      some (.concatAll ((← wholes? front) ++ nodes ++ (← wholes? last)))
    | .alternate branches => (branchNodes? used strict branches).map .alternateAll
    | .group n body => do
      let node ← body.toNode? used strict
      some (if used.contains n then .group n node else node)
    | .iterate body low high greedy =>
      if low == 0 && high == some 1 then do
        let node ← body.toNode? used strict
        some (if greedy then .alternate node .empty else .alternate .empty node)
      else (body.toNode? used true).map fun node ↦ .iterate node low high greedy
    | .atomic body => (body.toNode? used false).map .atomic
    | .look false negated body => (body.toNode? used false).map (.look 0 negated)
    | .look true negated body =>
      if body.extent.fixed then (body.toNode? used false).map (.look body.extent.least negated)
      else
        match body with
        | .alternate branches => do
          let nodes ← nodesBehind? used negated branches
          some (if negated then .concatAll nodes else .alternateAll nodes)
        | _ => none
    | .reference n ignoreCase _ => some (.reference n ignoreCase)
    | .captured n => some (.captured n)
    | .conditional condition yes no => do
      some (.conditional (← condition.toNode? used strict) (← yes.toNode? used strict)
        (← no.toNode? used strict))

def nodesBetween? (used : List Nat) (skipped count : Nat) : List Expr → Option (List Node)
  | [] => some []
  | e :: es =>
    if 0 < skipped then nodesBetween? used (skipped - 1) count es
    else if count == 0 then some []
    else do some ((← e.toNode? used true) :: (← nodesBetween? used 0 (count - 1) es))

def branchNodes? (used : List Nat) (strict : Bool) : List Expr → Option (List Node)
  | [] => some []
  | e :: es => do some ((← e.toNode? used strict) :: (← branchNodes? used strict es))

def nodesBehind? (used : List Nat) (negated : Bool) : List Expr → Option (List Node)
  | [] => some []
  | e :: es => do
    let node ← e.toNode? used false
    if e.extent.fixed then
      some (.look e.extent.least negated node :: (← nodesBehind? used negated es))
    else none

end

/-- A look ahead at the very end is no different from what it looks for. -/
def openEnd : Expr → Expr
  | .concat parts =>
    match parts.getLast? with
    | some (.look false false body) => .concat [.group 0 (.concat parts.dropLast), body]
    | _ => .concat parts
  | e => e

def search? (e : Expr) : Option Node :=
  let used := e.references
  let e := e.openEnd
  if e.isHard used then e.toNode? used false
  else if fit (e.nesting 0) e.items then some (.whole e.toRegular)
  else none

end Expr

end Formwork.Pattern
