import RootCause.Json.Pretty
import RootCause.Run
import RootCause.Score.Report
import RootCause.Text.Table

/-!
What the commands show: the steps of a workflow, and the outcome of a run.
-/

namespace RootCause

namespace Step

/-- The ids that a step hands control to, those of sub-steps in brackets; a dash for none. -/
def routes (s : Step) : String :=
  let targets := match s.settings with
    | .branch b =>
      b.rules.filterMap (·.target) ++
        ((b.fallback.bind (·.target)).map (· ++ " (default)")).toList
    | .composite c => ["[" ++ ", ".intercalate c.steps ++ "]"]
    | _ => []
  let targets := targets ++ s.next.toList
  if targets.isEmpty then "-" else ", ".intercalate targets

/-- The name of the action on a failure, when there is a policy. -/
def failAction? (s : Step) : Option String := s.onFail.map fun p => Named.name p.action

def summaryJson (s : Step) : Json := .object [
  ("id", .string s.id),
  ("next", .ofOption .string s.next),
  ("on_fail", .ofOption .string s.failAction?),
  ("type", .string s.typeName)]

end Step

namespace Workflow

def summaryJson (w : Workflow) : Json := .object [
  ("id", .string w.id),
  ("steps", .array (w.steps.map Step.summaryJson)),
  ("valid", .bool true),
  ("version", .string w.version)]

def stepTable (w : Workflow) : TextTable where
  header := ["Step", "Type", "Routes to", "On fail"]
  rows := w.steps.map fun s => [s.id, s.typeName, s.routes, s.failAction?.getD "raise"]

/-- The lines on an acceptable workflow. -/
def report (w : Workflow) : List String :=
  ["", s!"  * Workflow '{w.id}' (version {w.version}) is valid"] ++
    (w.description.map fun d => "  " ++ d).toList ++ [""] ++ w.stepTable.lines ++ [""]

end Workflow

/-- The most entries of one breakdown in a report. -/
def reportedEvidence : Nat := 5

def evidenceTable (entries : List Evidence) : TextTable where
  header := ["Rank", "Dimension", "Segment", "Depth", "Baseline CVR", "Current CVR",
    "CVR change", "Sessions change", "Share"]
  rows := (entries.take reportedEvidence).zipIdx.map fun (e, i) =>
    [toString (i + 1), e.dimension, e.label, toString e.depth, formatRatePct e.baseline.cvr,
      formatRatePct e.current.cvr, formatPct e.deltas.cvr, formatPct e.deltas.sessions,
      formatRatePct (some e.sessionShare)]

namespace Context

/-- The movement of the totals, once they have been compared. -/
def totalsReport (c : Context) : List String :=
  if (c.metric? "cvr_delta_pct").isNone then []
  else
    let rate (name : String) := formatRatePct (c.metricDouble? name)
    let change (name : String) := formatPct (c.metricDouble? name)
    ["", "  CVR " ++ rate "baseline_cvr" ++ " -> " ++ rate "current_cvr" ++
      " (" ++ change "cvr_delta_pct" ++ ")   Sessions " ++ change "sessions_delta_pct" ++
      "   Orders " ++ change "orders_delta_pct"]

def breakdownsReport (c : Context) : List String :=
  c.breakdowns.entries.flatMap fun (key, entries) =>
    ["", s!"  Evidence '{key}'"] ++ (evidenceTable entries).lines

/-- The insight that a run has published. -/
def insight? (c : Context) : Option Insight :=
  (c.scratch.get? Insight.scratchKey).bind Insight.ofJson?

end Context

def Insight.report (i : Insight) : List String :=
  ["", "  " ++ i.summary] ++ i.details.map (fun line => "    - " ++ line) ++
    ["  confidence " ++ i.confidence.fixed2]

namespace RunOutcome

def headline (o : RunOutcome) (runId : String) : String :=
  match o.status with
  | .completed => s!"  * Run {runId} completed"
  | .terminated => s!"  ! Run {runId} terminated: " ++ o.reason.getD "no reason given"

def stepTable (o : RunOutcome) : TextTable where
  header := ["#", "Step", "Type", "Status", "Next / Reason"]
  rows := o.steps.zipIdx.map fun (r, i) =>
    [toString (i + 1), r.stepId, r.stepType, Named.name r.status,
      (r.reason <|> r.next).getD "-"]

/-- The lines on an outcome. -/
def report (o : RunOutcome) (runId : String) : List String :=
  ["", o.headline runId, ""] ++ o.stepTable.lines ++ o.context.totalsReport ++
    o.context.breakdownsReport ++ (o.context.insight?.map Insight.report).getD [] ++ [""]

def json (o : RunOutcome) (runId : String) : Json :=
  .object (("run_id", .string runId) :: o.members)

end RunOutcome

end RootCause
