import RootCause.Step.Result
import RootCause.Workflow.Basic

/-!
The validation step: is there enough meta to analyse anything?
-/

namespace RootCause

/-- The metrics of a run that may go on. -/
def validationMetrics (baselineAvailable : Bool) : Metrics := .ofList [
  ("data_valid", .flag true),
  ("baseline_available", .flag baselineAvailable)]

/-- Needs a tenant, a metric and a complete current window; a baseline is only reported. -/
def runValidation (step : Step) (c : Context) : Verdict :=
  match c.runMeta with
  | none => .fail .missingMeta
  | some m =>
    if isBlankText m.tenantId then .fail .missingTenant
    else if isBlankText m.metric then .fail .missingMetric
    else if !m.window.any TimeWindow.isComplete then .fail .missingWindow
    else
      .pass (some (.ofMetrics (validationMetrics (m.baselineWindow.any TimeWindow.isComplete))))
        step.next

end RootCause
