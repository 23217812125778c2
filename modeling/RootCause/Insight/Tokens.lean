import RootCause.Insight.Finding
import RootCause.Score.Report

/-!
The tokens that templates can show.

Computed tokens are set after the metrics, so a metric of the same name does not show.
-/

namespace RootCause

/-- The tokens of the metrics that have a value. -/
def metricTokens (metrics : Metrics) : List (String × String) :=
  metrics.entries.filterMap fun (name, value) =>
    if value.isMissing then none else some (name, value.display)

def metaTokens (m : RunMeta) : List (String × String) :=
  [("tenant_id", m.tenantId), ("metric", m.metric)]

/-- Changes and rates of the whole tenant as percentages. -/
def totalTokens (c : Context) : List (String × String) :=
  let change (name : String) : String × String :=
    (name ++ "_delta_pct_fmt", formatPct (c.metricDouble? (name ++ "_delta_pct")))
  let rate (name : String) : String × String :=
    (name ++ "_pct", formatRatePct (c.metricDouble? name))
  [change "cvr", change "sessions", change "orders", change "atc_rate",
    rate "current_cvr", rate "baseline_cvr", rate "current_atc_rate",
    rate "baseline_atc_rate"]

/-- The fields of the top finding. -/
def topTokens (e : Evidence) : List (String × String) := [
  ("dimension", e.dimension),
  ("value", e.value),
  ("display_value", e.displayValue),
  ("top_label", e.label),
  ("top_dimension", e.dimension),
  ("top_value", e.value),
  ("top_display_value", e.displayValue),
  ("top_current_cvr_pct", formatRatePct e.current.cvr),
  ("top_baseline_cvr_pct", formatRatePct e.baseline.cvr),
  ("top_current_atc_rate_pct", formatRatePct e.current.atcRate),
  ("top_baseline_atc_rate_pct", formatRatePct e.baseline.atcRate),
  ("top_cvr_delta_pct_fmt", formatPct e.deltas.cvr),
  ("top_sessions_delta_pct_fmt", formatPct e.deltas.sessions),
  ("top_orders_delta_pct_fmt", formatPct e.deltas.orders),
  ("top_atc_rate_delta_pct_fmt", formatPct e.deltas.atcRate),
  ("top_current_sessions", toString e.current.sessions),
  ("top_baseline_sessions", toString e.baseline.sessions),
  ("top_current_orders", toString e.current.orders),
  ("top_baseline_orders", toString e.baseline.orders),
  ("top_session_share_pct", formatRatePct (some e.sessionShare))]

/-- The fields of the segment in a slot, counted from one. -/
def slotTokens (slot : Nat) (e : Evidence) : List (String × String) :=
  let name (field : String) : String := s!"rank{slot}_{field}"
  [(name "dimension", e.dimension),
    (name "label", e.label),
    (name "display_value", e.displayValue),
    (name "cvr_delta_pct_fmt", formatPct e.deltas.cvr),
    (name "sessions_delta_pct_fmt", formatPct e.deltas.sessions),
    (name "orders_delta_pct_fmt", formatPct e.deltas.orders),
    (name "atc_rate_delta_pct_fmt", formatPct e.deltas.atcRate),
    (name "baseline_cvr_pct", formatRatePct e.baseline.cvr)]

/-- The tokens that a context and its findings give, without the metrics. -/
def computedTokens (c : Context) (top : Option Evidence) (ranked : List Evidence)
    (confidence : Binary64) : List (String × String) :=
  (match c.runMeta with
    | some m => metaTokens m
    | none => []) ++
  totalTokens c ++
  (match top with
    | some e => topTokens e
    | none => []) ++
  ranked.zipIdx.flatMap (fun (e, i) => slotTokens (i + 1) e) ++
  [("evidence_count", toString ranked.length), ("confidence_score", confidence.text)]

/-- Every token of an insight. -/
def insightTokens (c : Context) (top : Option Evidence) (ranked : List Evidence)
    (confidence : Binary64) : Dict String :=
  .ofList (metricTokens c.metrics ++ computedTokens c top ranked confidence)

end RootCause
