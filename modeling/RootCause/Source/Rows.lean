import RootCause.Json.Record

/-!
The rows a source of analytics answers with.
-/

namespace RootCause

/-- Current and baseline totals of a tenant. -/
structure TotalsRow where
  currentSessions : UInt64
  baselineSessions : UInt64
  currentAtcSessions : UInt64
  baselineAtcSessions : UInt64
  currentOrders : UInt64
  baselineOrders : UInt64
deriving DecidableEq

/-- Current and baseline figures of one value of a dimension. -/
structure DimensionRow where
  value : String
  productTitle : Option String
  currentSessions : UInt64
  baselineSessions : UInt64
  currentAtcSessions : UInt64
  baselineAtcSessions : UInt64
  currentOrders : UInt64
  baselineOrders : UInt64
deriving DecidableEq

namespace TotalsRow

def shape : Shape := .plain
  ["current_sessions", "baseline_sessions", "current_atc_sessions", "baseline_atc_sessions",
    "current_orders", "baseline_orders"] 6

def ofJson? (j : Json) : Option TotalsRow := do
  let r ← j.record? shape
  return {
    currentSessions := ← r.required "current_sessions" Json.toCount?
    baselineSessions := ← r.required "baseline_sessions" Json.toCount?
    currentAtcSessions := ← r.orElse "current_atc_sessions" Json.toCount? 0
    baselineAtcSessions := ← r.orElse "baseline_atc_sessions" Json.toCount? 0
    currentOrders := ← r.required "current_orders" Json.toCount?
    baselineOrders := ← r.required "baseline_orders" Json.toCount? }

def toJson (t : TotalsRow) : Json := .object [
  ("baseline_atc_sessions", .ofCount t.baselineAtcSessions),
  ("baseline_orders", .ofCount t.baselineOrders),
  ("baseline_sessions", .ofCount t.baselineSessions),
  ("current_atc_sessions", .ofCount t.currentAtcSessions),
  ("current_orders", .ofCount t.currentOrders),
  ("current_sessions", .ofCount t.currentSessions)]

end TotalsRow

namespace DimensionRow

def shape : Shape := .plain
  ["dimension_value", "product_title", "current_sessions", "baseline_sessions",
    "current_atc_sessions", "baseline_atc_sessions", "current_orders", "baseline_orders"] 1

def ofJson? (j : Json) : Option DimensionRow := do
  let r ← j.record? shape
  return {
    value := ← r.required "dimension_value" Json.toText?
    productTitle := ← r.optional "product_title" Json.toText?
    currentSessions := ← r.orElse "current_sessions" Json.toCount? 0
    baselineSessions := ← r.orElse "baseline_sessions" Json.toCount? 0
    currentAtcSessions := ← r.orElse "current_atc_sessions" Json.toCount? 0
    baselineAtcSessions := ← r.orElse "baseline_atc_sessions" Json.toCount? 0
    currentOrders := ← r.orElse "current_orders" Json.toCount? 0
    baselineOrders := ← r.orElse "baseline_orders" Json.toCount? 0 }

def toJson (r : DimensionRow) : Json := .object (
  [("baseline_atc_sessions", .ofCount r.baselineAtcSessions),
    ("baseline_orders", .ofCount r.baselineOrders),
    ("baseline_sessions", .ofCount r.baselineSessions),
    ("current_atc_sessions", .ofCount r.currentAtcSessions),
    ("current_orders", .ofCount r.currentOrders),
    ("current_sessions", .ofCount r.currentSessions),
    ("dimension_value", .string r.value)] ++
  Json.memberIfSome "product_title" .string r.productTitle)

end DimensionRow

end RootCause
