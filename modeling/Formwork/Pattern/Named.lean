import Formwork.Pattern.Segmentation
import Formwork.Unicode.Age
import Formwork.Unicode.ScriptExtension

namespace Formwork.Pattern

def isIgnoredInNames (c : Char) : Bool := c == ' ' || c == '_' || c == '-' || 0x80 ≤ c.toNat

def bareName (name : List Char) : List Char := (name.filter (!isIgnoredInNames ·)).map Char.toLower

/-- Names are compared by their bare forms without a leading `is`, unless that leaves but a `c`. -/
def normalizeName (name : List Char) : String :=
  match name with
  | i :: s :: rest =>
    if i.toLower == 'i' && s.toLower == 's' then
      if bareName rest == ['c'] then "isc" else String.ofList (bareName rest)
    else String.ofList (bareName name)
  | name => String.ofList (bareName name)

def categoryNames : List (String × List String) := [
  ("l", ["Lu", "Ll", "Lt", "Lm", "Lo"]), ("letter", ["Lu", "Ll", "Lt", "Lm", "Lo"]),
  ("lc", ["Lu", "Ll", "Lt"]), ("casedletter", ["Lu", "Ll", "Lt"]),
  ("lu", ["Lu"]), ("uppercaseletter", ["Lu"]), ("ll", ["Ll"]), ("lowercaseletter", ["Ll"]),
  ("lt", ["Lt"]), ("titlecaseletter", ["Lt"]), ("lm", ["Lm"]), ("modifierletter", ["Lm"]),
  ("lo", ["Lo"]), ("otherletter", ["Lo"]),
  ("m", ["Mn", "Mc", "Me"]), ("mark", ["Mn", "Mc", "Me"]), ("combiningmark", ["Mn", "Mc", "Me"]),
  ("mn", ["Mn"]), ("nonspacingmark", ["Mn"]), ("mc", ["Mc"]), ("spacingmark", ["Mc"]),
  ("me", ["Me"]), ("enclosingmark", ["Me"]),
  ("n", ["Nd", "Nl", "No"]), ("number", ["Nd", "Nl", "No"]),
  ("nd", ["Nd"]), ("decimalnumber", ["Nd"]), ("digit", ["Nd"]), ("nl", ["Nl"]),
  ("letternumber", ["Nl"]), ("no", ["No"]), ("othernumber", ["No"]),
  ("p", ["Pc", "Pd", "Ps", "Pe", "Pi", "Pf", "Po"]),
  ("punctuation", ["Pc", "Pd", "Ps", "Pe", "Pi", "Pf", "Po"]),
  ("punct", ["Pc", "Pd", "Ps", "Pe", "Pi", "Pf", "Po"]),
  ("pc", ["Pc"]), ("connectorpunctuation", ["Pc"]), ("pd", ["Pd"]), ("dashpunctuation", ["Pd"]),
  ("ps", ["Ps"]), ("openpunctuation", ["Ps"]), ("pe", ["Pe"]), ("closepunctuation", ["Pe"]),
  ("pi", ["Pi"]), ("initialpunctuation", ["Pi"]), ("pf", ["Pf"]), ("finalpunctuation", ["Pf"]),
  ("po", ["Po"]), ("otherpunctuation", ["Po"]),
  ("s", ["Sm", "Sc", "Sk", "So"]), ("symbol", ["Sm", "Sc", "Sk", "So"]),
  ("sm", ["Sm"]), ("mathsymbol", ["Sm"]), ("sc", ["Sc"]), ("currencysymbol", ["Sc"]),
  ("sk", ["Sk"]), ("modifiersymbol", ["Sk"]), ("so", ["So"]), ("othersymbol", ["So"]),
  ("z", ["Zs", "Zl", "Zp"]), ("separator", ["Zs", "Zl", "Zp"]), ("zs", ["Zs"]),
  ("spaceseparator", ["Zs"]), ("zl", ["Zl"]), ("lineseparator", ["Zl"]), ("zp", ["Zp"]),
  ("paragraphseparator", ["Zp"]),
  ("cc", ["Cc"]), ("control", ["Cc"]), ("cntrl", ["Cc"]), ("cf", ["Cf"]), ("format", ["Cf"]),
  ("co", ["Co"]), ("privateuse", ["Co"])]

def categorySet (codes : List String) : CharSet :=
  .unionAll (codes.filterMap fun code ↦ (Unicode.categories.lookup code).map .listed)

def ascii : CharSet := .range (Char.ofNat 0) (Char.ofNat 0x7f)

def categoryByName? (name : String) : Option CharSet :=
  if name == "any" then some .all
  else if name == "assigned" then some Property.assigned
  else if name == "ascii" then some ascii
  else if name == "cn" || name == "unassigned" then some (.negate Property.assigned)
  else if name == "c" || name == "other" then
    some (.union (.negate Property.assigned) (categorySet ["Cc", "Cf", "Co"]))
  else (categoryNames.lookup name).map categorySet

def scriptAliases : List (String × String) := [("qaac", "copt"), ("qaai", "zinh")]

def scriptByName? (name : String) : Option Unicode.Script :=
  let name := (scriptAliases.lookup name).getD name
  Unicode.scripts.find? fun s ↦ s.name == name || s.code == name

/-- The characters that a script uses. What is common to scripts or taken over from the text around
does not count as used if others name it as theirs. -/
def scriptExtension (s : Unicode.Script) : CharSet :=
  if s.code == "zyyy" || s.code == "zinh" then
    (CharSet.listed s.ranges).diff (Property.tables (Unicode.sharedCharacters.map (·.2)))
  else
    match Unicode.sharedCharacters.lookup s.code with
    | some shared => .union (.listed s.ranges) (.listed shared)
    | none => .listed s.ranges

def editionByName? (name : String) : Option CharSet :=
  let isNamed (number : String) : Bool :=
    number == name || String.ofList ('v' :: number.toList.filter (· != '.')) == name
  if Unicode.editions.any (isNamed ·.1) then
    let earlier := Unicode.editions.takeWhile (!isNamed ·.1)
    let own := Unicode.editions.filter (isNamed ·.1)
    some (Property.tables ((earlier ++ own).map (·.2)))
  else none

def entryByName? (table : List (List String × CharSet)) (name : String) : Option CharSet :=
  (table.find? (·.1.contains name)).map (·.2)

def categoriesFirst : List String := ["cf", "sc", "lc"]

def setByName? (name : List Char) : Option CharSet :=
  let name := normalizeName name
  let property := if categoriesFirst.contains name then none else entryByName? Property.all name
  property.orElse fun _ ↦ (categoryByName? name).orElse fun _ ↦
    (scriptByName? name).map fun s ↦ .listed s.ranges

def setByValue? (property value : List Char) : Option CharSet :=
  let value := normalizeName value
  match normalizeName property with
  | "generalcategory" | "gc" => categoryByName? value
  | "script" | "sc" => (scriptByName? value).map fun s ↦ .listed s.ranges
  | "scriptextensions" | "scx" => (scriptByName? value).map scriptExtension
  | "age" => editionByName? value
  | "graphemeclusterbreak" | "gcb" => entryByName? Grapheme.classes value
  | "wordbreak" | "wb" => entryByName? WordPart.classes value
  | "sentencebreak" | "sb" => entryByName? SentencePart.classes value
  | _ => none

def splitAtFirst? (sign : List Char) : List Char → Option (List Char × List Char)
  | [] => none
  | c :: cs =>
    if sign.isPrefixOf (c :: cs) then some ([], (c :: cs).drop sign.length)
    else (splitAtFirst? sign cs).map fun r ↦ (c :: r.1, r.2)

def setInBraces? (text : List Char) : Option (CharSet × Bool) :=
  match splitAtFirst? ['!', '='] text with
  | some (property, value) => (setByValue? property value).map (·, true)
  | none =>
    match (splitAtFirst? [':'] text).orElse fun _ ↦ splitAtFirst? ['='] text with
    | some (property, value) => (setByValue? property value).map (·, false)
    | none => (setByName? text).map (·, false)

def asciiAlpha : CharSet := .union (.range 'a' 'z') (.range 'A' 'Z')

def asciiAlnum : CharSet := .union asciiAlpha (.range '0' '9')

def asciiClasses : List (String × CharSet) := [
  ("alnum", asciiAlnum), ("alpha", asciiAlpha), ("ascii", ascii),
  ("blank", .union (.char ' ') (.char '\t')),
  ("cntrl", .union (.range (Char.ofNat 0) (Char.ofNat 0x1f)) (.char (Char.ofNat 0x7f))),
  ("digit", .range '0' '9'),
  ("graph", .range '!' '~'), ("lower", .range 'a' 'z'), ("print", .range ' ' '~'),
  ("punct",
    .unionAll [.range '!' '/', .range ':' '@', .range '[' (Char.ofNat 0x60), .range '\x7b' '~']),
  ("space", .union (.range '\t' '\r') (.char ' ')), ("upper", .range 'A' 'Z'),
  ("word", .union asciiAlnum (.char '_')),
  ("xdigit", .unionAll [.range '0' '9', .range 'a' 'f', .range 'A' 'F'])]

end Formwork.Pattern
