import Formwork.Json.Basic

namespace Formwork.Json

def hexDigit (n : Nat) : Char := (Nat.digitChar n)

/-- Quotes, backslashes and control characters are escaped; all other characters stand for
themselves. -/
def escapeChar (c : Char) : List Char :=
  if c == '"' then ['\\', '"']
  else if c == '\\' then ['\\', '\\']
  else if c == '\n' then ['\\', 'n']
  else if c == '\r' then ['\\', 'r']
  else if c == '\t' then ['\\', 't']
  else if c.toNat == 0x08 then ['\\', 'b']
  else if c.toNat == 0x0c then ['\\', 'f']
  else if c.toNat < 0x20 then
    ['\\', 'u', '0', '0', hexDigit (c.toNat / 16), hexDigit (c.toNat % 16)]
  else [c]

def quote (s : String) : String := "\"" ++ String.ofList (s.toList.flatMap escapeChar) ++ "\""

def scalarText : Json → String
  | .null => "null"
  | .bool b => if b then "true" else "false"
  | .number n => n.toText
  | .string s => quote s
  | .array _ | .object _ => ""

mutual

def compact : Json → String
  | .array items => "[" ++ compactItems items ++ "]"
  | .object members => "\x7b" ++ compactMembers members ++ "\x7d"
  | v => scalarText v

def compactItems : List Json → String
  | [] => ""
  | [v] => compact v
  | v :: w :: vs => compact v ++ "," ++ compactItems (w :: vs)

def compactMembers : List (String × Json) → String
  | [] => ""
  | [(k, v)] => quote k ++ ":" ++ compact v
  | (k, v) :: e :: es => quote k ++ ":" ++ compact v ++ "," ++ compactMembers (e :: es)

end

def newline (depth : Nat) : String := "\n" ++ String.ofList (List.replicate (2 * depth) ' ')

mutual

def prettyAt (depth : Nat) : Json → String
  | .array [] => "[]"
  | .array (v :: vs) => "[" ++ prettyItems (depth + 1) (v :: vs) ++ newline depth ++ "]"
  | .object [] => "\x7b\x7d"
  | .object (e :: es) => "\x7b" ++ prettyMembers (depth + 1) (e :: es) ++ newline depth ++ "\x7d"
  | v => scalarText v

def prettyItems (depth : Nat) : List Json → String
  | [] => ""
  | [v] => newline depth ++ prettyAt depth v
  | v :: w :: vs => newline depth ++ prettyAt depth v ++ "," ++ prettyItems depth (w :: vs)

def prettyMembers (depth : Nat) : List (String × Json) → String
  | [] => ""
  | [(k, v)] => newline depth ++ quote k ++ ": " ++ prettyAt depth v
  | (k, v) :: e :: es =>
    newline depth ++ quote k ++ ": " ++ prettyAt depth v ++ "," ++ prettyMembers depth (e :: es)

end

def pretty (v : Json) : String := prettyAt 0 v

end Formwork.Json
