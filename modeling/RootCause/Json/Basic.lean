import RootCause.Binary64.Rounding
import RootCause.Dict

/-!
JSON values.

Objects are member lists as a text gives them, repeated keys included. `normalize` leaves one
member a key, in key order; values that came from anything but a text are normal already.
-/

namespace RootCause

/-- A number is an integer in the range of 64 bits, signed or unsigned, or a double. -/
inductive Json.Number where
  | integer (n : Int)
  | double (x : Binary64)
deriving DecidableEq

inductive Json where
  | null
  | bool (b : Bool)
  | number (n : Json.Number)
  | string (s : String)
  | array (items : List Json)
  | object (members : List (String × Json))

namespace Json

instance : Inhabited Json := ⟨null⟩

/-- The double nearest to a number. -/
def Number.toDouble : Number → Binary64
  | .integer n => Binary64.ofInt n
  | .double x => x

/-- Integers equal integers and doubles equal doubles, by value. -/
def Number.same : Number → Number → Bool
  | .integer m, .integer n => decide (m = n)
  | .double x, .double y => x.eqv y
  | _, _ => false

mutual

/-- Equality of normal values. -/
def same : Json → Json → Bool
  | .null, .null => true
  | .bool a, .bool b => a == b
  | .number a, .number b => a.same b
  | .string a, .string b => a == b
  | .array a, .array b => sameItems a b
  | .object a, .object b => sameMembers a b
  | _, _ => false

def sameItems : List Json → List Json → Bool
  | [], [] => true
  | a :: as, b :: bs => same a b && sameItems as bs
  | _, _ => false

def sameMembers : List (String × Json) → List (String × Json) → Bool
  | [], [] => true
  | (j, a) :: as, (k, b) :: bs => j == k && same a b && sameMembers as bs
  | _, _ => false

end

mutual

/-- One member a key, the last one given, in key order, at every level. -/
def normalize : Json → Json
  | .array items => .array (normalizeItems items)
  | .object members => .object (normalizeMembers [] members)
  | other => other

def normalizeItems : List Json → List Json
  | [] => []
  | item :: rest => normalize item :: normalizeItems rest

def normalizeMembers (done : List (String × Json)) : List (String × Json) → List (String × Json)
  | [] => done
  | (key, value) :: rest => normalizeMembers (putEntry key (normalize value) done) rest

end

/-- The value of the first member with the key, none for anything but an object. -/
def get? (key : String) : Json → Option Json
  | .object members => members.lookup key
  | _ => none

def asString? : Json → Option String
  | .string s => some s
  | _ => none

def asArray? : Json → Option (List Json)
  | .array items => some items
  | _ => none

/-- A double as a value; what is not finite has no number and is null. -/
def ofDouble (x : Binary64) : Json := if x.isFinite then .number (.double x) else .null

def ofNat (n : Nat) : Json := .number (.integer n)

def ofCount (n : UInt64) : Json := .number (.integer n.toNat)

/-- The null value for an absent one. -/
def ofOption {α : Type} (f : α → Json) : Option α → Json
  | none => .null
  | some a => f a

/-- A member that is left out when its value is absent. -/
def memberIfSome {α : Type} (key : String) (f : α → Json) : Option α → List (String × Json)
  | none => []
  | some a => [(key, f a)]

def ofStrings (texts : List String) : Json := .array (texts.map .string)

/-- A map with its entries in key order. -/
def ofDict {β : Type} (f : β → Json) (d : Dict β) : Json :=
  .object (d.entries.map fun e => (e.1, f e.2))

end Json

end RootCause
