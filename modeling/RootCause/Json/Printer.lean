import RootCause.Decimal.Layout
import RootCause.Json.Basic

/-!
JSON values written as text on one line.
-/

namespace RootCause

namespace Json

def hexChar (n : Nat) : Char := (Nat.digitChar n)

/-- A character inside a string. Quote, backslash and control characters are escaped. -/
def escapeChar (c : Char) : String :=
  if c = '"' then "\\\""
  else if c = '\\' then "\\\\"
  else if c = '\n' then "\\n"
  else if c = '\r' then "\\r"
  else if c = '\t' then "\\t"
  else if c.toNat < 0x20 then
    "\\u00" ++ String.ofList [hexChar (c.toNat / 16), hexChar (c.toNat % 16)]
  else String.ofList [c]

def quote (s : String) : String :=
  "\"" ++ String.join (s.toList.map escapeChar) ++ "\""

/-- A double that is not finite has no text of its own and is written as null. -/
def Number.text : Number → String
  | .integer n => toString n
  | .double x => if x.isFinite then x.jsonText else "null"

mutual

def text : Json → String
  | .null => "null"
  | .bool b => toString b
  | .number n => n.text
  | .string s => quote s
  | .array items => "[" ++ itemsText items ++ "]"
  | .object ms => "\x7b" ++ membersText ms ++ "\x7d"

def itemsText : List Json → String
  | [] => ""
  | [item] => text item
  | item :: rest => text item ++ "," ++ itemsText rest

def membersText : List (String × Json) → String
  | [] => ""
  | [(key, value)] => quote key ++ ":" ++ text value
  | (key, value) :: rest => quote key ++ ":" ++ text value ++ "," ++ membersText rest

end

end Json

end RootCause
