import Formwork.Pattern.Node

namespace Formwork.Pattern

inductive Task
  | find (n : Node)
  | close (group : Nat)
  /-- What comes behind so many repetitions; `since` is the place at which the latest optional one
  began. -/
  | again (body : Node) (low : Nat) (high : Option Nat) (greedy : Bool) (count : Nat)
      (since : Option Nat)
  | commit
  /-- Forgets all choices but so many, and is stuck. -/
  | refuse (height : Nat)
  | goTo (position : Nat)
  | seek (n : Node)

abbrev Places := List (Nat × Nat)

def Places.set (ps : Places) (group position : Nat) : Places :=
  (group, position) :: ps.filter (·.1 != group)

structure Moment where
  tasks : List Task
  position : Nat
  starts : Places
  ends : Places
  /-- The numbers of choices that were kept when parts began that give none back. -/
  marks : List Nat

structure Search where
  now : Moment
  choices : List Moment
  height : Nat
  patience : Nat

/-- What becomes of a search; one that takes back more than `choiceLimit` choices is given up. -/
inductive Finding
  | present
  | absent
  | givenUp
deriving DecidableEq

inductive Outcome
  | ended (f : Finding)
  | ongoing (s : Search)

def foldsTo (c d : Char) : Bool := Unicode.fold c == Unicode.fold d

def byteLength : List Char → Nat
  | [] => 0
  | c :: cs => c.utf8Size + byteLength cs

def takeBytes? (n : Nat) : List Char → Option (List Char)
  | [] => if n = 0 then some [] else none
  | c :: cs =>
    if n = 0 then some []
    else if n < c.utf8Size then none
    else (takeBytes? (n - c.utf8Size) cs).map (c :: ·)

def beginsWith : List Char → List Char → Bool
  | _, [] => true
  | [], _ :: _ => false
  | c :: cs, d :: ds => foldsTo c d && beginsWith cs ds

def holds (text sought : List Char) : Bool :=
  match text with
  | [] => sought.isEmpty
  | c :: cs => beginsWith (c :: cs) sought || holds cs sought

/-- Whether a text of as many bytes repeats another one but for case. Text of ASCII repeats that
alone; elsewhere it is enough to find the repetition somewhere in the text. -/
def repeats (text captured : List Char) : Bool :=
  if text.all (·.toNat < 0x80) then text.map Char.toLower == captured.map Char.toLower
  else holds text captured

def repetition? (text : Array Char) (ignoreCase : Bool) (first last position : Nat) : Option Nat :=
  let captured := (text.extract first last).toList
  let bytes := byteLength captured
  match takeBytes? bytes (text.extract position (position + bytes)).toList with
  | none => none
  | some found =>
    if found == captured || (ignoreCase && repeats found captured) then some found.length else none

namespace Search

def back (s : Search) : Outcome :=
  match s.choices, s.patience with
  | [], _ => .ended .absent
  | _ :: _, 0 => .ended .givenUp
  | m :: ms, patience + 1 => .ongoing { now := m, choices := ms, height := s.height - 1, patience }

def proceed (s : Search) (tasks : List Task) : Outcome :=
  .ongoing { s with now := { s.now with tasks } }

def proceedAt (s : Search) (position : Nat) (tasks : List Task) : Outcome :=
  .ongoing { s with now := { s.now with position, tasks } }

def keep (s : Search) (m : Moment) : Search :=
  { s with choices := m :: s.choices, height := s.height + 1 }

def cut (s : Search) (height : Nat) : Search :=
  { s with choices := s.choices.drop (s.height - height), height := min s.height height }

def mark (s : Search) : Search := { s with now := { s.now with marks := s.height :: s.now.marks } }

def choose (s : Search) (first second : List Task) : Outcome :=
  (s.keep { s.now with tasks := second }).proceed first

def isOver (position : Nat) (high : Option Nat) (count : Nat) (since : Option Nat) : Bool :=
  high == some count || (high.isNone && since == some position)

def find (a : Alphabet) (text : Array Char) (s : Search) (tasks : List Task) : Node → Outcome
  | .empty => s.proceed tasks
  | .whole r =>
    match (r.ends a text [s.now.position]).head? with
    | some position => s.proceedAt position tasks
    | none => s.back
  | .edge e => if e.isAt text s.now.position then s.proceed tasks else s.back
  | .concat m n => s.proceed (.find m :: .find n :: tasks)
  | .alternate m n => s.choose (.find m :: tasks) (.find n :: tasks)
  | .iterate body low high greedy => s.proceed (.again body low high greedy 0 none :: tasks)
  | .group n body =>
    .ongoing { s with
      now := { s.now with
        starts := s.now.starts.set n s.now.position
        tasks := .find body :: .close n :: tasks } }
  | .atomic body => s.mark.proceed (.find body :: .commit :: tasks)
  | .look back negated body =>
    if s.now.position < back then (if negated then s.proceed tasks else s.back)
    else
      let start := s.now.position - back
      if negated then (s.keep { s.now with tasks }).proceedAt start [.find body, .refuse s.height]
      else s.proceedAt start (.find body :: .goTo s.now.position :: tasks)
  | .reference n ignoreCase =>
    match s.now.starts.lookup n, s.now.ends.lookup n with
    | some first, some last =>
      match repetition? text ignoreCase first last s.now.position with
      | some length => s.proceedAt (s.now.position + length) tasks
      | none => s.back
    | _, _ => s.back
  | .captured n => if (s.now.starts.lookup n).isSome then s.proceed tasks else s.back
  | .conditional condition yes no =>
    s.mark.choose (.find condition :: .commit :: .find yes :: tasks) (.find no :: tasks)

def step (a : Alphabet) (text : Array Char) (s : Search) : Outcome :=
  match s.now.tasks with
  | [] => .ended .present
  | .find n :: tasks => s.find a text tasks n
  | .close n :: tasks =>
    .ongoing { s with now := { s.now with ends := s.now.ends.set n s.now.position, tasks } }
  | .again body low high greedy count since :: tasks =>
    if isOver s.now.position high count since then s.proceed tasks
    else
      let turn (since : Option Nat) : List Task :=
        .find body :: .again body low high greedy (count + 1) since :: tasks
      if count < low then s.proceed (turn since)
      else if greedy then s.choose (turn (some s.now.position)) tasks
      else s.choose tasks (turn (some s.now.position))
  | .commit :: tasks =>
    match s.now.marks with
    | height :: marks => .ongoing { s.cut height with now := { s.now with marks, tasks } }
    | [] => s.proceed tasks
  | .refuse height :: _ => (s.cut height).back
  | .goTo position :: tasks => s.proceedAt position tasks
  | .seek n :: _ =>
    if s.now.position < text.size then
      (s.keep { s.now with position := s.now.position + 1, tasks := [.seek n] }).proceed [.find n]
    else s.proceed [.find n]

def run? (a : Alphabet) (text : Array Char) (s : Search) : Option Finding :=
  match s.step a text with
  | .ended f => some f
  | .ongoing s => s |>.run? a text
partial_fixpoint

/-- The number of choices that a search takes back before it is given up. -/
def choiceLimit : Nat := 1000000

def start (n : Node) : Search := ⟨⟨[.seek n], 0, [], [], []⟩, [], 0, choiceLimit⟩

end Search

def Node.search (n : Node) (a : Alphabet) (text : String) : Finding :=
  match n with
  | .whole r => if r.isFoundIn a text then .present else .absent
  -- Every search ends (`Node.run?_start`), so the default is never reached.
  | n => ((Search.start n).run? a text.toList.toArray).getD .givenUp

end Formwork.Pattern
