import Formwork.Form.Basic

namespace Formwork

structure Ticket where
  number : Nat
  query : String

structure Lookup where
  asked : Nat
  choices : List Choice

namespace Lookup

def start : Lookup := ⟨0, []⟩

def ask (l : Lookup) (query : String) : Ticket × Lookup :=
  (⟨l.asked + 1, query⟩, { l with asked := l.asked + 1 })

def isLatest (l : Lookup) (t : Ticket) : Bool := t.number == l.asked

/-- Takes an answer, if it is to the last query; returns whether it was. A query that failed has no
answer, which leaves no choices. -/
def receive (l : Lookup) (t : Ticket) (answer : Option (List Choice)) : Bool × Lookup :=
  if l.isLatest t then (true, { l with choices := answer.getD [] }) else (false, l)

def consult (l : Lookup) (provider : String → Option (List Choice)) (query : String) : Lookup :=
  let (t, l) := l.ask query
  (l.receive t (provider query)).2

end Lookup

end Formwork
