import RootCause.Source.Basic
import RootCause.Step.Result
import RootCause.Workflow.Basic

/-!
The comparison step: current and baseline totals of the tenant, and their changes.
-/

namespace RootCause

/-- Totals, rates and changes of a totals row, under their metric names. -/
def TotalsRow.metrics (row : TotalsRow) : Metrics :=
  let currentCvr := rate row.currentOrders row.currentSessions
  let baselineCvr := rate row.baselineOrders row.baselineSessions
  let currentAtcRate := rate row.currentAtcSessions row.currentSessions
  let baselineAtcRate := rate row.baselineAtcSessions row.baselineSessions
  .ofList [
    ("current_orders", .ofCount row.currentOrders),
    ("baseline_orders", .ofCount row.baselineOrders),
    ("current_sessions", .ofCount row.currentSessions),
    ("baseline_sessions", .ofCount row.baselineSessions),
    ("current_atc_sessions", .ofCount row.currentAtcSessions),
    ("baseline_atc_sessions", .ofCount row.baselineAtcSessions),
    ("current_cvr", .ofOption currentCvr),
    ("baseline_cvr", .ofOption baselineCvr),
    ("current_atc_rate", .ofOption currentAtcRate),
    ("baseline_atc_rate", .ofOption baselineAtcRate),
    ("orders_delta_pct", .ofOption (countChange row.currentOrders row.baselineOrders)),
    ("sessions_delta_pct", .ofOption (countChange row.currentSessions row.baselineSessions)),
    ("cvr_delta_pct", .ofOption (rateChange currentCvr baselineCvr)),
    ("atc_rate_delta_pct", .ofOption (rateChange currentAtcRate baselineAtcRate))]

/-- Fails without data and without sessions in either window. -/
def runComparison (source : Source) (step : Step) (settings : CompareSettings) (c : Context) :
    Inquiry Verdict :=
  match c.runMeta with
  | none => return .fail .compareWithoutMeta
  | some m =>
    match MetricQuery.ofMeta m settings.metrics with
    | .error e => return .fail (.compareIntent e)
    | .ok query => do
      match ← source.askTotals query with
      | none => return .fail .compareWithoutData
      | some row =>
        if row.currentSessions = 0 ∨ row.baselineSessions = 0 then
          return .fail .compareWithoutSessions
        else return .pass (some (.ofMetrics row.metrics)) step.next

end RootCause
