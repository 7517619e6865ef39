import Formwork.Pattern.Basic
import Formwork.Validation.Shape

namespace Formwork

inductive Backend
  | native
  | jsonSchema
deriving DecidableEq

def Backend.name : Backend → String
  | .native => "native"
  | .jsonSchema => "jsonSchema"

def Backend.alphabet : Backend → Pattern.Alphabet
  | .native => .unicode
  | .jsonSchema => .compact

/-- Whether a text passes by what a search in it came to. The native backend lets a text pass if the
search was given up, the other one does not. -/
def Backend.admits : Backend → Pattern.Finding → Bool
  | _, .present => true
  | _, .absent => false
  | .native, .givenUp => true
  | .jsonSchema, .givenUp => false

inductive Demand
  | minLength (n : Nat)
  | maxLength (n : Nat)
  | length (n : Nat)
  | pattern (p : Pattern) (alphabet : Pattern.Alphabet)
  | email
  | url
  | min (x : Binary64)
  | max (x : Binary64)
  | step (x : Binary64)

/-- The order of a number and a bound. The native backend rounds whole numbers first, the other one
does not. -/
def Number.compareTo (backend : Backend) (n : Number) (bound : Binary64) : Ordering :=
  match backend, n with
  | .jsonSchema, .int n => compareOfLessAndEq (n * Binary64.one) bound.toInt
  | _, n => n.toBinary64.compare bound

namespace Demand

def isMetByText (backend : Backend) (c : Demand) (s : String) : Bool :=
  match c with
  | .minLength n => n ≤ s.length
  | .maxLength n => s.length ≤ n
  | .length n => s.length == n
  | .pattern p alphabet => backend.admits (p.search alphabet s)
  | .email => Pattern.mailAddress.isFoundIn backend.alphabet s
  | .url => Pattern.webAddress.isFoundIn backend.alphabet s
  | _ => true

def isMetByNumber (backend : Backend) (c : Demand) (n : Number) : Bool :=
  match c with
  | .min x => n.compareTo backend x != .lt
  | .max x => n.compareTo backend x != .gt
  | .step x => n.toBinary64.isMultipleOf x
  | _ => true

/-- Whether a value meets a demand. Demands on text say nothing of numbers, and the other way
round. -/
def isMet (backend : Backend) (c : Demand) : Json → Bool
  | .string s => c.isMetByText backend s
  | .number n => c.isMetByNumber backend n
  | _ => true

end Demand

end Formwork
