import RootCause.Breakdown.Walk
import RootCause.Score.Report
import RootCause.Step.Result

/-!
The breakdown step: a drill-down, its evidence without repetitions and ranked, and the
metrics of the top entry.
-/

namespace RootCause

/-- A segment at a depth. -/
abbrev Slot := String × String × UInt64

/-- Where an entry stands in a drill-down. -/
def Evidence.slot (e : Evidence) : Slot := (e.dimension, e.value, e.depth)

/-- The entries that are kept so far, and the index of each of their slots among them. -/
structure SlotTable where
  entries : List Evidence
  indices : List (Slot × Nat)

/-- Puts an entry at the end, or in place of an earlier one of its slot when its session share is
larger. -/
def SlotTable.put (t : SlotTable) (e : Evidence) : SlotTable :=
  match t.indices.lookup e.slot with
  | some i =>
    let larger (f : Evidence) : Evidence := if f.sessionShare.lt e.sessionShare then e else f
    { t with entries := t.entries.modify i larger }
  | none =>
    { entries := t.entries ++ [e]
      indices := (e.slot, t.entries.length) :: t.indices }

/-- One entry for each segment and depth, in the order in which they first occur. -/
def dedupe (entries : List Evidence) : List Evidence :=
  (entries.foldl SlotTable.put ⟨[], []⟩).entries

/-- The fields of the top entry as metrics. -/
def Evidence.topFields (e : Evidence) : List (String × MetricValue) := [
  ("top_dimension", .text e.dimension),
  ("top_value", .text e.value),
  ("top_display_value", .text e.displayValue),
  ("top_depth", .ofCount e.depth),
  ("top_cvr_delta_pct", .ofOption e.deltas.cvr),
  ("top_atc_rate_delta_pct", .ofOption e.deltas.atcRate),
  ("top_atc_sessions_delta_pct", .ofOption e.deltas.atcSessions),
  ("top_orders_delta_pct", .ofOption e.deltas.orders),
  ("top_sessions_delta_pct", .ofOption e.deltas.sessions),
  ("top_current_sessions", .ofCount e.current.sessions),
  ("top_baseline_sessions", .ofCount e.baseline.sessions),
  ("top_current_orders", .ofCount e.current.orders),
  ("top_baseline_orders", .ofCount e.baseline.orders),
  ("top_current_atc_sessions", .ofCount e.current.atcSessions),
  ("top_baseline_atc_sessions", .ofCount e.baseline.atcSessions),
  ("top_current_cvr", .ofOption e.current.cvr),
  ("top_baseline_cvr", .ofOption e.baseline.cvr),
  ("top_current_atc_rate", .ofOption e.current.atcRate),
  ("top_baseline_atc_rate", .ofOption e.baseline.atcRate),
  ("top_session_share", .number e.sessionShare)]

/-- The metrics that describe the top entry. -/
def Evidence.topMetrics (e : Evidence) : Metrics := .ofList e.topFields

namespace BreakdownSettings

/-- The name that the workflow gives the output, unless it is blank. -/
def namedOutput? (s : BreakdownSettings) : Option String :=
  s.outputKey.filter fun key => !isBlankText key

/-- The evidence that a drill-down publishes. -/
def published (s : BreakdownSettings) (collected : List Evidence) : List Evidence :=
  rank s.rankBy s.rankOrder (dedupe collected)

/-- Metrics of the top entry, then the ranked list under the name of the output. -/
def publishedMetrics (s : BreakdownSettings) (ranked : List Evidence) : Metrics :=
  let top := match ranked.head? with
    | some e => e.topMetrics
    | none => ∅
  match s.namedOutput? with
  | some key => top.insert key (.text (formatRankedList s.rankBy s.baseMetric ranked))
  | none => top

/-- The delta that publishes evidence, under the name of the output or the first
dimension. -/
def publish (s : BreakdownSettings) (first : String) (ranked : List Evidence) : Delta where
  metrics := some (s.publishedMetrics ranked)
  breakdowns := some (.ofList [(s.namedOutput?.getD first, ranked)])

end BreakdownSettings

/-- Needs a dimension for each depth, a comparison before it and complete meta. -/
def runBreakdown (source : Source) (step : Step) (s : BreakdownSettings) (c : Context) :
    Inquiry Verdict :=
  match s.dimensionList with
  | [] => return .fail .invalidDimension
  | first :: rest =>
    if (first :: rest).any isBlankText then return .fail .invalidDimension
    else if (c.metricDouble? "cvr_delta_pct").isNone then return .fail .breakdownBeforeCompare
    else match c.runMeta with
      | none => return .fail .breakdownWithoutMeta
      | some m =>
        match BreakdownQuery.ofMeta m first c.filters with
        | .error e => return .fail (.breakdownIntent e)
        | .ok root => do
          let collected ← walk source s root
          return .pass (some (s.publish first (s.published collected))) step.next

end RootCause
