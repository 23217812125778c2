import RootCause.Context.Meta
import RootCause.Context.Metric
import RootCause.Evidence
import RootCause.Time.Instant

/-!
The analysis context: what is known during a run, and its JSON form.
-/

namespace RootCause

/-- A value that a dimension has to have. -/
structure Filter where
  dimension : String
  value : String
deriving DecidableEq

/-- One dispatched step. -/
structure TraceEntry where
  stepId : String
  stepType : String
  timestamp : Instant
deriving DecidableEq

/-- Evidence lists by dimension or by a name of the workflow's choice. -/
abbrev Breakdowns := Dict (List Evidence)

/-- The state that the steps of one run share. -/
structure Context where
  runMeta : Option RunMeta
  filters : List Filter
  metrics : Metrics
  rootCausePath : List Json
  breakdowns : Breakdowns
  scratch : Dict Json
  executionTrace : List TraceEntry

namespace Filter

def ofJson? (j : Json) : Option Filter := do
  let r ← j.record? (.plain ["dimension", "value"] 2)
  return {
    dimension := ← r.required "dimension" Json.toText?
    value := ← r.required "value" Json.toText? }

def toJson (f : Filter) : Json :=
  .object [("dimension", .string f.dimension), ("value", .string f.value)]

end Filter

namespace TraceEntry

def instantOfJson? : Json → Option Instant
  | .string s => Instant.ofText? s
  | _ => none

def ofJson? (j : Json) : Option TraceEntry := do
  let r ← j.record? (.plain ["stepId", "type", "timestamp"] 3)
  return {
    stepId := ← r.required "stepId" Json.toText?
    stepType := ← r.required "type" Json.toText?
    timestamp := ← r.required "timestamp" instantOfJson? }

def toJson (t : TraceEntry) : Json := .object [
  ("stepId", .string t.stepId),
  ("timestamp", .string t.timestamp.text),
  ("type", .string t.stepType)]

end TraceEntry

namespace Breakdowns

def ofJson? : Json → Option Breakdowns := Json.toDict? (Json.toList? Evidence.ofJson?)

def toJson (b : Breakdowns) : Json := .ofDict (fun es => .array (es.map Evidence.toJson)) b

end Breakdowns

namespace Context

/-- A context with nothing in it but its meta. -/
def ofMeta (m : RunMeta) : Context := ⟨some m, [], ∅, [], ∅, ∅, []⟩

def metric? (c : Context) (name : String) : Option MetricValue := c.metrics.get? name

/-- A metric that is a number. -/
def metricDouble? (c : Context) (name : String) : Option Binary64 :=
  (c.metric? name).bind MetricValue.toDouble?

def shape : Shape := .plain
  ["meta", "filters", "metrics", "rootCausePath", "breakdowns", "scratch", "executionTrace"] 0

def ofJson? (j : Json) : Option Context := do
  let r ← j.record? shape
  return {
    runMeta := ← r.optional "meta" RunMeta.ofJson?
    filters := ← r.orElse "filters" (Json.toList? Filter.ofJson?) []
    metrics := ← r.orElse "metrics" (Json.toDict? MetricValue.ofJson?) ∅
    rootCausePath := ← r.orElse "rootCausePath" (Json.toList? Json.toValue?) []
    breakdowns := ← r.orElse "breakdowns" Breakdowns.ofJson? ∅
    scratch := ← r.orElse "scratch" (Json.toDict? Json.toValue?) ∅
    executionTrace := ← r.orElse "executionTrace" (Json.toList? TraceEntry.ofJson?) [] }

def toJson (c : Context) : Json := .object (
  [("breakdowns", c.breakdowns.toJson),
    ("executionTrace", .array (c.executionTrace.map TraceEntry.toJson)),
    ("filters", .array (c.filters.map Filter.toJson))] ++
  Json.memberIfSome "meta" RunMeta.toJson c.runMeta ++
  [("metrics", .ofDict MetricValue.toJson c.metrics),
    ("rootCausePath", .array c.rootCausePath),
    ("scratch", .ofDict id c.scratch)])

end Context

end RootCause
