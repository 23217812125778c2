import RootCause.Context.Basic

/-!
What a step wants to know from a source of analytics.
-/

namespace RootCause

/-- The dimension whose values carry a title. -/
def productDimension : String := "product_id"

/-- A half-open range of time with both bounds. -/
structure WindowRange where
  start : DateTime
  stop : DateTime
deriving DecidableEq

/-- Why meta does not tell what to ask for. -/
inductive IntentError where
  | missingTenant
  | missingWindow
  | missingBaselineWindow
deriving DecidableEq

def IntentError.message : IntentError → String
  | .missingTenant => "tenant id is required"
  | .missingWindow => "current window needs both start and end"
  | .missingBaselineWindow => "baseline window needs both start and end"

/-- Totals of a tenant in both windows. -/
structure MetricQuery where
  tenantId : String
  metrics : List String
  window : WindowRange
  baselineWindow : WindowRange
deriving DecidableEq

/-- Figures of each value of a dimension, under filters, in both windows. -/
structure BreakdownQuery where
  tenantId : String
  dimension : String
  window : WindowRange
  baselineWindow : WindowRange
  filters : List Filter
deriving DecidableEq

/-- Both windows of a tenant that has a name. -/
def RunMeta.windows (m : RunMeta) : Except IntentError (WindowRange × WindowRange) :=
  if isBlankText m.tenantId then .error .missingTenant
  else match m.window.bind TimeWindow.bounds with
    | none => .error .missingWindow
    | some (start, stop) =>
      match m.baselineWindow.bind TimeWindow.bounds with
      | none => .error .missingBaselineWindow
      | some (baselineStart, baselineStop) =>
        .ok (⟨start, stop⟩, ⟨baselineStart, baselineStop⟩)

def WindowRange.toJson (w : WindowRange) : Json :=
  .object [("end", .string w.stop.iso), ("start", .string w.start.iso)]

namespace MetricQuery

def ofMeta (m : RunMeta) (metrics : List String) : Except IntentError MetricQuery :=
  m.windows.map fun (window, baseline) => ⟨m.tenantId, metrics, window, baseline⟩

def toJson (q : MetricQuery) : Json := .object [
  ("baseline_window", q.baselineWindow.toJson),
  ("metrics", .ofStrings q.metrics),
  ("tenant_id", .string q.tenantId),
  ("window", q.window.toJson)]

end MetricQuery

namespace BreakdownQuery

def ofMeta (m : RunMeta) (dimension : String) (filters : List Filter) :
    Except IntentError BreakdownQuery :=
  m.windows.map fun (window, baseline) => ⟨m.tenantId, dimension, window, baseline, filters⟩

/-- The same tenant and windows, another dimension and other filters. -/
def refine (q : BreakdownQuery) (dimension : String) (filters : List Filter) :
    BreakdownQuery :=
  { q with dimension, filters }

def wantsTitles (q : BreakdownQuery) : Bool := q.dimension == productDimension

def toJson (q : BreakdownQuery) : Json := .object [
  ("baseline_window", q.baselineWindow.toJson),
  ("dimension", .string q.dimension),
  ("filters", .array (q.filters.map Filter.toJson)),
  ("tenant_id", .string q.tenantId),
  ("window", q.window.toJson)]

end BreakdownQuery

end RootCause
