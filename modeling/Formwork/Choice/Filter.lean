import Formwork.Form.Basic
import Formwork.Unicode.Lowercase

namespace Formwork

namespace Unicode

def startsCased (cs : List Char) : Bool :=
  match cs.dropWhile caseIgnorable.contains with
  | [] => false
  | c :: _ => cased.contains c

/-- Lower case of the rest of a text, given the characters before it from the nearest to the
farthest. A capital sigma that ends a word becomes a final sigma. -/
def lowercaseFrom : List Char → List Char → List Char
  | _, [] => []
  | before, c :: cs =>
    let here :=
      if c.toNat == 0x3a3 then
        [Char.ofNat (if startsCased before && !startsCased cs then 0x3c2 else 0x3c3)]
      else if c.toNat == 0x130 then ['i', Char.ofNat 0x307]
      else [lowercaseChar c]
    here ++ lowercaseFrom (c :: before) cs

def lowercase (s : String) : String := String.ofList (lowercaseFrom [] s.toList)

end Unicode

def isWithin (needle : List Char) : List Char → Bool
  | [] => needle.isEmpty
  | c :: cs => needle.isPrefixOf (c :: cs) || isWithin needle cs

def Choice.matchesQuery (c : Choice) (query : String) : Bool :=
  isWithin (Unicode.lowercase query).toList (Unicode.lowercase c.label).toList

def matchingChoices (choices : List Choice) (query : String) : List Choice :=
  choices.filter (·.matchesQuery query)

end Formwork
