import RootCause.Json.Record

/-!
Scored segments of traffic and their JSON form.
-/

namespace RootCause

/-- The metric a breakdown is scored against. -/
inductive BaseMetric where
  | cvr
  | orders
  | sessions
  | atcRate
deriving DecidableEq

instance : Named BaseMetric where
  all := [.cvr, .orders, .sessions, .atcRate]
  name
    | .cvr => "cvr"
    | .orders => "orders"
    | .sessions => "sessions"
    | .atcRate => "atc_rate"

/-- Counts and rates of one segment in one window. A rate is absent without sessions. -/
structure SegmentFigures where
  orders : UInt64
  sessions : UInt64
  atcSessions : UInt64
  cvr : Option Binary64
  atcRate : Option Binary64
deriving DecidableEq

/-- Changes from baseline to current in percent, absent when the baseline is zero. -/
structure SegmentDeltas where
  cvr : Option Binary64
  atcRate : Option Binary64
  atcSessions : Option Binary64
  orders : Option Binary64
  sessions : Option Binary64
deriving DecidableEq

/-- One scored segment: a value of a dimension, found at a depth of a drill-down. -/
structure Evidence where
  dimension : String
  value : String
  displayValue : String
  depth : UInt64
  current : SegmentFigures
  baseline : SegmentFigures
  deltas : SegmentDeltas
  sessionShare : Binary64
  orderShare : Binary64
  baselineSessionShare : Binary64
  baselineOrderShare : Binary64
  baseMetric : BaseMetric
deriving DecidableEq

namespace SegmentFigures

def shape : Shape := .plain ["orders", "sessions", "atc_sessions", "cvr", "atc_rate"] 5

def ofJson? (j : Json) : Option SegmentFigures := do
  let r ← j.record? shape
  return {
    orders := ← r.required "orders" Json.toCount?
    sessions := ← r.required "sessions" Json.toCount?
    atcSessions := ← r.required "atc_sessions" Json.toCount?
    cvr := ← r.optional "cvr" Json.toDouble?
    atcRate := ← r.optional "atc_rate" Json.toDouble? }

def toJson (f : SegmentFigures) : Json := .object [
  ("atc_rate", .ofOption .ofDouble f.atcRate),
  ("atc_sessions", .ofCount f.atcSessions),
  ("cvr", .ofOption .ofDouble f.cvr),
  ("orders", .ofCount f.orders),
  ("sessions", .ofCount f.sessions)]

end SegmentFigures

namespace SegmentDeltas

def shape : Shape := .plain
  ["cvr_delta_pct", "atc_rate_delta_pct", "atc_sessions_delta_pct", "orders_delta_pct",
    "sessions_delta_pct"] 5

def ofJson? (j : Json) : Option SegmentDeltas := do
  let r ← j.record? shape
  return {
    cvr := ← r.optional "cvr_delta_pct" Json.toDouble?
    atcRate := ← r.optional "atc_rate_delta_pct" Json.toDouble?
    atcSessions := ← r.optional "atc_sessions_delta_pct" Json.toDouble?
    orders := ← r.optional "orders_delta_pct" Json.toDouble?
    sessions := ← r.optional "sessions_delta_pct" Json.toDouble? }

def toJson (d : SegmentDeltas) : Json := .object [
  ("atc_rate_delta_pct", .ofOption .ofDouble d.atcRate),
  ("atc_sessions_delta_pct", .ofOption .ofDouble d.atcSessions),
  ("cvr_delta_pct", .ofOption .ofDouble d.cvr),
  ("orders_delta_pct", .ofOption .ofDouble d.orders),
  ("sessions_delta_pct", .ofOption .ofDouble d.sessions)]

end SegmentDeltas

namespace Evidence

/-- The name shown to people: the display value, or the raw value when that is empty. -/
def label (e : Evidence) : String := if e.displayValue.isEmpty then e.value else e.displayValue

/-- Whether two entries are about the same value of the same dimension, at any depths. -/
def sameSegment (e f : Evidence) : Bool := e.dimension == f.dimension && e.value == f.value

def shape : Shape := .plain
  ["dimension", "value", "display_value", "depth", "current", "baseline", "deltas",
    "sessionShare", "orderShare", "baselineSessionShare", "baselineOrderShare",
    "base_metric"] 12

def ofJson? (j : Json) : Option Evidence := do
  let r ← j.record? shape
  return {
    dimension := ← r.required "dimension" Json.toText?
    value := ← r.required "value" Json.toText?
    displayValue := ← r.required "display_value" Json.toText?
    depth := ← r.required "depth" Json.toCount?
    current := ← r.required "current" SegmentFigures.ofJson?
    baseline := ← r.required "baseline" SegmentFigures.ofJson?
    deltas := ← r.required "deltas" SegmentDeltas.ofJson?
    sessionShare := ← r.required "sessionShare" Json.toDouble?
    orderShare := ← r.required "orderShare" Json.toDouble?
    baselineSessionShare := ← r.required "baselineSessionShare" Json.toDouble?
    baselineOrderShare := ← r.required "baselineOrderShare" Json.toDouble?
    baseMetric := ← r.required "base_metric" (Json.toNamed? false) }

def toJson (e : Evidence) : Json := .object [
  ("base_metric", .ofNamed e.baseMetric),
  ("baseline", e.baseline.toJson),
  ("baselineOrderShare", .ofDouble e.baselineOrderShare),
  ("baselineSessionShare", .ofDouble e.baselineSessionShare),
  ("current", e.current.toJson),
  ("deltas", e.deltas.toJson),
  ("depth", .ofCount e.depth),
  ("dimension", .string e.dimension),
  ("display_value", .string e.displayValue),
  ("orderShare", .ofDouble e.orderShare),
  ("sessionShare", .ofDouble e.sessionShare),
  ("value", .string e.value)]

end Evidence

end RootCause
