import RootCause.Json.Record
import RootCause.Time.Reader

/-!
What a run is about: tenant, metric and the two windows that are compared.
-/

namespace RootCause

/-- A half-open range of time. A bound may be absent. -/
structure TimeWindow where
  start : Option DateTime
  stop : Option DateTime
deriving DecidableEq

/-- The facts of a run, fixed before its first step. -/
structure RunMeta where
  tenantId : String
  metric : String
  triggeredAt : Option String
  window : Option TimeWindow
  baselineWindow : Option TimeWindow
deriving DecidableEq

namespace TimeWindow

def bounds (w : TimeWindow) : Option (DateTime × DateTime) := do
  return (← w.start, ← w.stop)

def isComplete (w : TimeWindow) : Bool := w.start.isSome && w.stop.isSome

/-- A bound is null, a blank text or a date-time. -/
def boundOfJson? : Json → Option (Option DateTime)
  | .null => some none
  | .string s => if isBlankText s then some none else (DateTime.ofText? s).map some
  | _ => none

def shape : Shape := .plain ["start", "end"] 0

def ofJson? (j : Json) : Option TimeWindow := do
  let r ← j.record? shape
  return {
    start := ← r.orElse "start" boundOfJson? none
    stop := ← r.orElse "end" boundOfJson? none }

/-- Bounds are written to the whole second. -/
def toJson (w : TimeWindow) : Json :=
  let bound (t : DateTime) : Json := .string t.text
  .object [("end", .ofOption bound w.stop), ("start", .ofOption bound w.start)]

end TimeWindow

namespace RunMeta

def shape : Shape := .plain
  ["tenantId", "metric", "triggeredAt", "window", "baselineWindow"] 0

def ofJson? (j : Json) : Option RunMeta := do
  let r ← j.record? shape
  return {
    tenantId := ← r.orElse "tenantId" Json.toText? ""
    metric := ← r.orElse "metric" Json.toText? ""
    triggeredAt := ← r.optional "triggeredAt" Json.toText?
    window := ← r.optional "window" TimeWindow.ofJson?
    baselineWindow := ← r.optional "baselineWindow" TimeWindow.ofJson? }

def toJson (m : RunMeta) : Json := .object (
  Json.memberIfSome "baselineWindow" TimeWindow.toJson m.baselineWindow ++
  [("metric", .string m.metric), ("tenantId", .string m.tenantId)] ++
  Json.memberIfSome "triggeredAt" .string m.triggeredAt ++
  Json.memberIfSome "window" TimeWindow.toJson m.window)

end RunMeta

end RootCause
