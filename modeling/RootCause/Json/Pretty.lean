import RootCause.Json.Printer

/-!
JSON values written over many lines, two blanks a level.
-/

namespace RootCause

namespace Json

def margin (level : Nat) : String := String.ofList (List.replicate (2 * level) ' ')

mutual

/-- The text of a value whose first line stands at a level. -/
def pretty (level : Nat) : Json → String
  | .array [] => "[]"
  | .array items => "[\n" ++ prettyItems (level + 1) items ++ "\n" ++ margin level ++ "]"
  | .object [] => "\x7b\x7d"
  | .object ms => "\x7b\n" ++ prettyMembers (level + 1) ms ++ "\n" ++ margin level ++ "\x7d"
  | j => j.text

def prettyItems (level : Nat) : List Json → String
  | [] => ""
  | [item] => margin level ++ pretty level item
  | item :: rest => margin level ++ pretty level item ++ ",\n" ++ prettyItems level rest

def prettyMembers (level : Nat) : List (String × Json) → String
  | [] => ""
  | [(key, value)] => margin level ++ quote key ++ ": " ++ pretty level value
  | (key, value) :: rest =>
    margin level ++ quote key ++ ": " ++ pretty level value ++ ",\n" ++ prettyMembers level rest

end

end Json

end RootCause
