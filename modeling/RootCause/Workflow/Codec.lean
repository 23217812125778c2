import RootCause.Workflow.Basic

/-!
The JSON form of workflows.

Settings stand beside the id of their step in one object and are read by the step's type, so
a step has to be an object.
-/

namespace RootCause

namespace Condition

def ofJson? (j : Json) : Option Condition := do
  let r ← j.record? (.plain ["metric", "op", "value"] 3)
  return {
    metric := ← r.required "metric" Json.toText?
    op := ← r.required "op" (Json.toNamed? true)
    value := ← r.required "value" Json.toValue? }

def toJson (c : Condition) : Json := .object [
  ("metric", .string c.metric), ("op", .ofNamed c.op), ("value", c.value)]

end Condition

namespace BreakdownMatch

def ofJson? (j : Json) : Option BreakdownMatch := do
  let r ← j.record? (.plain ["dimension", "conditions", "limit"] 1)
  return {
    dimension := ← r.required "dimension" Json.toText?
    conditions := ← r.orElse "conditions" (Json.toList? Condition.ofJson?) []
    limit := ← r.optional "limit" Json.toCount? }

def toJson (m : BreakdownMatch) : Json := .object (
  [("conditions", .array (m.conditions.map Condition.toJson)),
    ("dimension", .string m.dimension)] ++
  Json.memberIfSome "limit" .ofCount m.limit)

end BreakdownMatch

namespace BranchRule

def ofJson? (j : Json) : Option BranchRule := do
  let r ← j.record? (.plain ["all", "any", "any_in_breakdowns", "then"] 0)
  return {
    all := ← r.optional "all" (Json.toList? Condition.ofJson?)
    any := ← r.optional "any" (Json.toList? Condition.ofJson?)
    anyInBreakdowns := ← r.optional "any_in_breakdowns" BreakdownMatch.ofJson?
    target := ← r.optional "then" Json.toText? }

def toJson (b : BranchRule) : Json :=
  let conditions (cs : List Condition) : Json := .array (cs.map Condition.toJson)
  .object (
    Json.memberIfSome "all" conditions b.all ++
    Json.memberIfSome "any" conditions b.any ++
    Json.memberIfSome "any_in_breakdowns" BreakdownMatch.toJson b.anyInBreakdowns ++
    Json.memberIfSome "then" .string b.target)

end BranchRule

namespace BranchRoute

def ofJson? (j : Json) : Option BranchRoute := do
  let r ← j.record? (.plain ["then"] 0)
  return { target := ← r.optional "then" Json.toText? }

def toJson (b : BranchRoute) : Json := .object (Json.memberIfSome "then" .string b.target)

end BranchRoute

namespace StopConditions

def ofJson? (j : Json) : Option StopConditions := do
  let r ← j.record? (.plain
    ["max_depth", "min_sessions", "min_current_sessions", "min_baseline_sessions", "top_k"] 0)
  return {
    maxDepth := ← r.orElse "max_depth" Json.toCount? 1
    minSessions := ← r.orElse "min_sessions" Json.toCount? 0
    minCurrentSessions := ← r.optional "min_current_sessions" Json.toCount?
    minBaselineSessions := ← r.optional "min_baseline_sessions" Json.toCount?
    topK := ← r.orElse "top_k" Json.toCount? 1 }

def toJson (s : StopConditions) : Json := .object (
  [("max_depth", .ofCount s.maxDepth)] ++
  Json.memberIfSome "min_baseline_sessions" .ofCount s.minBaselineSessions ++
  Json.memberIfSome "min_current_sessions" .ofCount s.minCurrentSessions ++
  [("min_sessions", .ofCount s.minSessions), ("top_k", .ofCount s.topK)])

end StopConditions

namespace BreakdownSettings

def shape : Shape := .plain
  ["dimension", "dimensions", "base_metric", "stop_conditions", "rank_by", "rank_order",
    "filter_mode", "min_sessions_mode", "output_key"] 0

def ofJson? (j : Json) : Option BreakdownSettings := do
  let r ← j.record? shape
  return {
    dimension := ← r.optional "dimension" Json.toText?
    dimensions := ← r.orElse "dimensions" (Json.toList? Json.toText?) []
    baseMetric := ← r.orElse "base_metric" (Json.toNamed? true) .cvr
    stopConditions := ← r.orElse "stop_conditions" StopConditions.ofJson? {}
    rankBy := ← r.orElse "rank_by" (Json.toNamed? true) .delta
    rankOrder := ← r.orElse "rank_order" (Json.toNamed? true) .desc
    filterMode := ← r.orElse "filter_mode" (Json.toNamed? true) .drop
    minSessionsMode := ← r.orElse "min_sessions_mode" (Json.toNamed? true) .bothLow
    outputKey := ← r.optional "output_key" Json.toText? }

/-- The list of dimensions is left out when it is empty. -/
def members (s : BreakdownSettings) : List (String × Json) :=
  [("base_metric", .ofNamed s.baseMetric)] ++
  Json.memberIfSome "dimension" .string s.dimension ++
  (if s.dimensions.isEmpty then [] else [("dimensions", .ofStrings s.dimensions)]) ++
  [("filter_mode", .ofNamed s.filterMode),
    ("min_sessions_mode", .ofNamed s.minSessionsMode)] ++
  Json.memberIfSome "output_key" .string s.outputKey ++
  [("rank_by", .ofNamed s.rankBy), ("rank_order", .ofNamed s.rankOrder),
    ("stop_conditions", s.stopConditions.toJson)]

end BreakdownSettings

namespace BranchSettings

def ofJson? (j : Json) : Option BranchSettings := do
  let r ← j.record? (.plain ["rules", "default"] 0)
  return {
    rules := ← r.orElse "rules" (Json.toList? BranchRule.ofJson?) []
    fallback := ← r.optional "default" BranchRoute.ofJson? }

def members (s : BranchSettings) : List (String × Json) :=
  Json.memberIfSome "default" BranchRoute.toJson s.fallback ++
  [("rules", .array (s.rules.map BranchRule.toJson))]

end BranchSettings

namespace InsightTemplate

def ofJson? (j : Json) : Option InsightTemplate := do
  let r ← j.record? (.plain ["summary", "details"] 0)
  return {
    summary := ← r.orElse "summary" Json.toText? ""
    details := ← r.orElse "details" (Json.toList? Json.toText?) [] }

def toJson (t : InsightTemplate) : Json :=
  .object [("details", .ofStrings t.details), ("summary", .string t.summary)]

end InsightTemplate

namespace StepSettings

/-- The settings of a step type, from the members beside the step's id. -/
def ofJson? (j : Json) : StepKind → Option StepSettings
  | .validation => do
    let r ← j.record? (.plain ["checks"] 0)
    return .validation ⟨← r.orElse "checks" (Json.toList? Json.toText?) []⟩
  | .metricCompare => do
    let r ← j.record? (.plain ["metrics"] 0)
    return .metricCompare ⟨← r.orElse "metrics" (Json.toList? Json.toText?) []⟩
  | .branch => (BranchSettings.ofJson? j).map .branch
  | .breakdown => (BreakdownSettings.ofJson? j).map .breakdown
  | .composite => do
    let r ← j.record? (.plain ["steps"] 0)
    return .composite ⟨← r.orElse "steps" (Json.toList? Json.toText?) []⟩
  | .insight => do
    let r ← j.record? (.plain ["template"] 0)
    return .insight ⟨← r.orElse "template" InsightTemplate.ofJson? ⟨"", []⟩⟩

def members : StepSettings → List (String × Json)
  | .validation s => [("checks", .ofStrings s.checks)]
  | .metricCompare s => [("metrics", .ofStrings s.metrics)]
  | .branch s => s.members
  | .breakdown s => s.members
  | .composite s => [("steps", .ofStrings s.steps)]
  | .insight s => [("template", s.template.toJson)]

end StepSettings

/-- A step type is given by its name or by its place among the types, from zero. -/
def StepKind.ofJson? : Json → Option StepKind
  | .string name => Named.ofName? name
  | .number (.integer n) =>
    if 0 ≤ n then (Named.all (α := StepKind))[n.toNat]? else none
  | _ => none

namespace FailPolicy

def ofJson? (j : Json) : Option FailPolicy := do
  let r ← j.record? (.plain ["action", "reason"] 1)
  return {
    action := ← r.required "action" (Json.toNamed? false)
    reason := ← r.optional "reason" Json.toText? }

def toJson (p : FailPolicy) : Json := .object (
  [("action", .ofNamed p.action)] ++ Json.memberIfSome "reason" .string p.reason)

end FailPolicy

namespace Step

def shape : Shape := .plain ["id", "next", "on_fail", "type"] 4

def ofJson? : Json → Option Step
  | .object members => do
    let j : Json := .object members
    let r ← j.record? shape
    return {
      id := ← r.required "id" Json.toText?
      settings := ← StepSettings.ofJson? j (← r.required "type" StepKind.ofJson?)
      next := ← r.optional "next" Json.toText?
      onFail := ← r.optional "on_fail" FailPolicy.ofJson? }
  | _ => none

def toJson (s : Step) : Json := .object (
  [("id", .string s.id), ("type", .string s.typeName)] ++
  s.settings.members ++
  Json.memberIfSome "next" .string s.next ++
  Json.memberIfSome "on_fail" FailPolicy.toJson s.onFail)

end Step

namespace Workflow

/-- Two fields have an older name each. -/
def shape : Shape where
  fields := [("id", ["workflow_id"]), ("version", []), ("description", []),
    ("steps", ["nodes"]), ("metadata", [])]
  required := 4

def ofJson? (j : Json) : Option Workflow := do
  let r ← j.record? shape
  return {
    id := ← r.required "id" Json.toText?
    version := ← r.required "version" Json.toText?
    description := ← r.optional "description" Json.toText?
    steps := ← r.required "steps" (Json.toList? Step.ofJson?)
    metadata := ← r.orElse "metadata" (Json.toDict? Json.toValue?) ∅ }

def toJson (w : Workflow) : Json := .object (
  Json.memberIfSome "description" .string w.description ++
  [("id", .string w.id)] ++
  (if w.metadata.isEmpty then [] else [("metadata", .ofDict (fun j => j) w.metadata)]) ++
  [("steps", .array (w.steps.map Step.toJson)), ("version", .string w.version)])

end Workflow

end RootCause
