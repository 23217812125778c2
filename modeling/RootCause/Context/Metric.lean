import RootCause.Decimal.Layout
import RootCause.Json.Record

/-!
Metric values: what steps compute and later steps compare, show and count on.
-/

namespace RootCause

/-- A value under a metric name. A change without a baseline is `missing`. -/
inductive MetricValue where
  | number (x : Binary64)
  | flag (b : Bool)
  | text (s : String)
  | missing
deriving DecidableEq

abbrev Metrics := Dict MetricValue

namespace MetricValue

def toDouble? : MetricValue → Option Binary64
  | .number x => some x
  | _ => none

def isMissing : MetricValue → Bool
  | .missing => true
  | _ => false

def ofCount (n : UInt64) : MetricValue := .number (Binary64.ofNat n.toNat)

def ofOption : Option Binary64 → MetricValue
  | some x => .number x
  | none => .missing

/-- The text shown for a value. -/
def display : MetricValue → String
  | .number x => x.text
  | .flag b => toString b
  | .text s => s
  | .missing => "null"

def toJson : MetricValue → Json
  | .number x => .ofDouble x
  | .flag b => .bool b
  | .text s => .string s
  | .missing => .null

def ofJson? : Json → Option MetricValue
  | .number n => some (.number n.toDouble)
  | .bool b => some (.flag b)
  | .string s => some (.text s)
  | .null => some .missing
  | _ => none

end MetricValue

end RootCause
