import Formwork.Json.Printer
import Formwork.Unicode.Visible

namespace Formwork

inductive Expected
  | string
  | boolean
  | sequence
  | map
  | variant
  | unit
  | record (name : String)

namespace Expected

def text : Expected → String
  | .string => "a string"
  | .boolean => "a boolean"
  | .sequence => "a sequence"
  | .map => "a map"
  | .variant => "string or map"
  | .unit => "unit"
  | .record name => "struct " ++ name

end Expected

inductive DecodeError
  | missing (key : String)
  | wrongType (found : Json) (expected : Expected)
  | unknownVariant (name : String) (known : List String)
  | notSingleKey
  | tooShort (length : Nat) (record : String) (size : Nat)
  | tooLong (length : Nat)

namespace DecodeError

def hex (n : Nat) : String := String.ofList (Nat.toDigits 16 n)

/-- A character of quoted text: what cannot be seen alone is given by its number. -/
def quoteChar (c : Char) : String :=
  if c == '"' then "\\\""
  else if c == '\\' then "\\\\"
  else if c == '\n' then "\\n"
  else if c == '\r' then "\\r"
  else if c == '\t' then "\\t"
  else if c.toNat == 0 then "\\0"
  else if Unicode.visible.contains c then c.toString
  else "\\u\x7b" ++ hex c.toNat ++ "\x7d"

def quote (s : String) : String := "\"" ++ String.join (s.toList.map quoteChar) ++ "\""

def describe : Json → String
  | .null => "null"
  | .bool b => "boolean `" ++ (if b then "true" else "false") ++ "`"
  | .number (.int n) => "integer `" ++ toString n ++ "`"
  | .number (.float x) => "floating point `" ++ x.toText ++ "`"
  | .string s => "string " ++ quote s
  | .array _ => "sequence"
  | .object _ => "map"

def tick (s : String) : String := "`" ++ s ++ "`"

def alternatives : List String → String
  | [] => "there are no variants"
  | [a] => "expected " ++ tick a
  | [a, b] => "expected " ++ tick a ++ " or " ++ tick b
  | names => "expected one of " ++ ", ".intercalate (names.map tick)

def message : DecodeError → String
  | .missing key => "missing field " ++ tick key
  | .wrongType found expected =>
    "invalid type: " ++ describe found ++ ", expected " ++ expected.text
  | .unknownVariant name known => "unknown variant " ++ tick name ++ ", " ++ alternatives known
  | .notSingleKey => "invalid value: map, expected map with a single key"
  | .tooShort length record size =>
    "invalid length " ++ toString length ++ ", expected struct " ++ record ++ " with " ++
      toString size ++ " elements"
  | .tooLong length => "invalid length " ++ toString length ++ ", expected fewer elements in array"

end DecodeError

inductive FormError
  | notObject (found : Json)
  | noFields
  | malformed (cause : DecodeError)

namespace FormError

def kindOf : Json → String
  | .null => "null"
  | .bool _ => "boolean"
  | .number _ => "number"
  | .string _ => "string"
  | .array _ => "array"
  | .object _ => "object"

def message : FormError → String
  | .notObject found => "form schema must be an object, found " ++ kindOf found
  | .noFields => "form schema must define a `fields` array"
  | .malformed cause => "invalid form schema: " ++ cause.message

end FormError

end Formwork
