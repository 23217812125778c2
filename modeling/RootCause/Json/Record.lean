import RootCause.Json.Basic

/-!
JSON values read as the values of a domain type.

A record is an object of its fields in any order, or the array of its fields in declared
order. Unknown members do not count, a field given twice is refused.
-/

namespace RootCause

namespace Json

def toText? : Json → Option String
  | .string s => some s
  | _ => none

def toBool? : Json → Option Bool
  | .bool b => some b
  | _ => none

/-- A count is an integer literal from `0` to `2 ^ 64 - 1`. -/
def toCount? : Json → Option UInt64
  | .number (.integer n) => if 0 ≤ n ∧ n.toNat < UInt64.size then some (UInt64.ofNat n.toNat) else none
  | _ => none

def toDouble? : Json → Option Binary64
  | .number n => some n.toDouble
  | _ => none

def toList? {α : Type} (decode : Json → Option α) : Json → Option (List α)
  | .array items => items.mapM decode
  | _ => none

/-- A map from an object; of equal keys the last one stays. -/
def toDict? {α : Type} (decode : Json → Option α) : Json → Option (Dict α)
  | .object members =>
    (members.mapM fun m => (decode m.2).map fun value => (m.1, value)).map Dict.ofList
  | _ => none

/-- Any value, in its normal form. -/
def toValue? (j : Json) : Option Json := some j.normalize

/-- Absent for null. -/
def toOption? {α : Type} (decode : Json → Option α) : Json → Option (Option α)
  | .null => some none
  | j => (decode j).map some

end Json

/-- A finite type whose values have names in texts. -/
class Named (α : Type) where
  all : List α
  name : α → String

def Named.ofName? {α : Type} [Named α] (name : String) : Option α :=
  (Named.all (α := α)).find? fun a => Named.name a == name

def Json.ofNamed {α : Type} [Named α] (a : α) : Json := .string (Named.name a)

/-- A named value: its name, or an object with the name as only key and null under it. In
the settings of a step the empty object also stands for that null. -/
def Json.toNamed? {α : Type} [Named α] (inSettings : Bool) : Json → Option α
  | .string name => Named.ofName? name
  | .object [(name, .null)] => Named.ofName? name
  | .object [(name, .object [])] => if inSettings then Named.ofName? name else none
  | _ => none

/-- The fields of a record in declared order, each with the other names it is read under, and
how many of them an array has to give. -/
structure Shape where
  fields : List (String × List String)
  required : Nat

/-- A shape whose fields have no other names. -/
def Shape.plain (names : List String) (required : Nat) : Shape :=
  ⟨names.map (·, []), required⟩

/-- The field that a key stands for. -/
def Shape.fieldOf? (shape : Shape) (key : String) : Option String :=
  (shape.fields.find? fun f => f.1 == key || f.2.contains key).map (·.1)

/-- The given fields of a record, under their declared names. -/
abbrev Record := List (String × Json)

/-- The fields in `j`; none when one is given twice or an array has a wrong length. -/
def Json.record? (shape : Shape) : Json → Option Record
  | .object members =>
    let given := members.filterMap fun m => (shape.fieldOf? m.1).map (·, m.2)
    if (given.map (·.1)).Nodup then some given else none
  | .array items =>
    if shape.required ≤ items.length ∧ items.length ≤ shape.fields.length then
      some ((shape.fields.map (·.1)).zip items)
    else none
  | _ => none

namespace Record

variable {α : Type}

/-- A field that has to be given. -/
def required (r : Record) (name : String) (decode : Json → Option α) : Option α :=
  match r.lookup name with
  | none => none
  | some j => decode j

/-- A field that may be left out. -/
def orElse (r : Record) (name : String) (decode : Json → Option α) (default : α) : Option α :=
  match r.lookup name with
  | none => some default
  | some j => decode j

/-- A field that may be left out or null. -/
def optional (r : Record) (name : String) (decode : Json → Option α) : Option (Option α) :=
  r.orElse name (Json.toOption? decode) none

end Record

end RootCause
