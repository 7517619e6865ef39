import Formwork.Pattern.Parser
import Formwork.Pattern.Plain
import Formwork.Pattern.Search

namespace Formwork

structure Pattern where
  source : String
  root : Pattern.Node

namespace Pattern

def parse? (text : String) : Option Pattern := do
  let root ← (← Expr.parse? text).search?
  some ⟨text, root⟩

/-- A pattern whose text is in the notation of regular expressions alone is taken at the compact
alphabet. One that leaves it first at a look-around or at a reference by number is taken as it is;
all others are refused. -/
def plainAlphabet? (p : Pattern) : Option Alphabet :=
  match Plain.verdict p.source with
  | .plain => some .compact
  | .beyond => some .unicode
  | .foreign => none

def search (p : Pattern) (a : Alphabet) (text : String) : Finding := p.root.search a text

def some1 (s : CharSet) : Regular := .iterate (.one s) 1 none true

def some0 (s : CharSet) : Regular := .iterate (.one s) 0 none true

def literal (text : String) : List Regular := text.toList.map fun c ↦ .one (.char c)

def oneOf (text : String) : CharSet := .unionAll (text.toList.map .char)

def mailChar : CharSet := .negate (.union (.shorthand .space) (.char '@'))

/-- Text before and behind one at sign, and a dot within what is behind it. -/
def mailAddress : Regular :=
  .concatAll [
    .edge .textStart, some1 mailChar, .one (.char '@'),
    some1 mailChar, .one (.char '.'), some1 mailChar, .edge .textEnd]

def asciiLetter : CharSet := .union (.range 'A' 'Z') (.range 'a' 'z')

def schemeChar : CharSet := .unionAll [asciiLetter, .range '0' '9', oneOf "+.-"]

def hostChar : CharSet := .negate (.union (.shorthand .space) (oneOf "/?#"))

/-- A scheme, a colon with two slashes, and a rest without white space. -/
def webAddress : Regular :=
  .concatAll ([.edge .textStart, .one asciiLetter, some0 schemeChar] ++ literal "://" ++
    [some1 hostChar, some0 (.negate (.shorthand .space)), .edge .textEnd])

end Pattern

end Formwork
