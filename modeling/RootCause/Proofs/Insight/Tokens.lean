import RootCause.Insight.Publish
import RootCause.Proofs.Dict

/-!
The tokens of an insight and their names. Those of the top finding are written after the metrics,
and nothing that is written later takes their names, so each of them shows its field.
-/

namespace RootCause

def metaNames : List String := ["tenant_id", "metric"]

def totalNames : List String := [
  "cvr_delta_pct_fmt", "sessions_delta_pct_fmt", "orders_delta_pct_fmt", "atc_rate_delta_pct_fmt",
  "current_cvr_pct", "baseline_cvr_pct", "current_atc_rate_pct", "baseline_atc_rate_pct"]

def topNames : List String := [
  "dimension", "value", "display_value", "top_label", "top_dimension", "top_value",
  "top_display_value", "top_current_cvr_pct", "top_baseline_cvr_pct", "top_current_atc_rate_pct",
  "top_baseline_atc_rate_pct", "top_cvr_delta_pct_fmt", "top_sessions_delta_pct_fmt",
  "top_orders_delta_pct_fmt", "top_atc_rate_delta_pct_fmt", "top_current_sessions",
  "top_baseline_sessions", "top_current_orders", "top_baseline_orders", "top_session_share_pct"]

def slotNames (slot : Nat) : List String :=
  ["dimension", "label", "display_value", "cvr_delta_pct_fmt", "sessions_delta_pct_fmt",
    "orders_delta_pct_fmt", "atc_rate_delta_pct_fmt", "baseline_cvr_pct"].map (s!"rank{slot}_{·}")

theorem names_totalTokens (c : Context) : (totalTokens c).map (·.1) = totalNames := by
  unfold totalTokens
  rfl

theorem names_rankedTokens (ranked : List Evidence) :
    (ranked.zipIdx.flatMap fun (e, i) => slotTokens (i + 1) e).map (·.1) =
      (List.range ranked.length).flatMap fun i => slotNames (i + 1) := by
  rw [List.map_flatMap, List.range_eq_range', ← List.zipIdx_map_snd, List.flatMap_map]
  rfl

variable {e : Evidence}

theorem head?_of_mem_slotNames {slot : Nat} {name : String} (member : name ∈ slotNames slot) :
    name.toList.head? = some 'r' := by
  obtain ⟨field, -, rfl⟩ := List.mem_map.1 member
  have stem : toString "rank" = "rank" := rfl
  simp [stem]

/-- Each token for the top finding shows its field of an entry. -/
structure Evidence.ToldBy (e : Evidence) (shows : String → String → Prop) : Prop where
  dimension : shows "dimension" e.dimension
  value : shows "value" e.value
  displayValue : shows "display_value" e.displayValue
  topLabel : shows "top_label" e.label
  topDimension : shows "top_dimension" e.dimension
  topValue : shows "top_value" e.value
  topDisplayValue : shows "top_display_value" e.displayValue
  currentCvr : shows "top_current_cvr_pct" (formatRatePct e.current.cvr)
  baselineCvr : shows "top_baseline_cvr_pct" (formatRatePct e.baseline.cvr)
  currentAtcRate : shows "top_current_atc_rate_pct" (formatRatePct e.current.atcRate)
  baselineAtcRate : shows "top_baseline_atc_rate_pct" (formatRatePct e.baseline.atcRate)
  cvrChange : shows "top_cvr_delta_pct_fmt" (formatPct e.deltas.cvr)
  sessionsChange : shows "top_sessions_delta_pct_fmt" (formatPct e.deltas.sessions)
  ordersChange : shows "top_orders_delta_pct_fmt" (formatPct e.deltas.orders)
  atcRateChange : shows "top_atc_rate_delta_pct_fmt" (formatPct e.deltas.atcRate)
  currentSessions : shows "top_current_sessions" (toString e.current.sessions)
  baselineSessions : shows "top_baseline_sessions" (toString e.baseline.sessions)
  currentOrders : shows "top_current_orders" (toString e.current.orders)
  baselineOrders : shows "top_baseline_orders" (toString e.baseline.orders)
  sessionShare : shows "top_session_share_pct" (formatRatePct (some e.sessionShare))

end RootCause
