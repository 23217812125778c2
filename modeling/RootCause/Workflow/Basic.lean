import RootCause.Score.Rank
import RootCause.Source.Query

/-!
Workflows: steps with settings of six kinds, linked by the ids they hand control to.
-/

namespace RootCause

/-- How two values are compared. -/
inductive CompareOp where
  | gt
  | gte
  | lt
  | lte
  | eq
  | ne
deriving DecidableEq

instance : Named CompareOp where
  all := [.gt, .gte, .lt, .lte, .eq, .ne]
  name
    | .gt => ">"
    | .gte => ">="
    | .lt => "<"
    | .lte => "<="
    | .eq => "=="
    | .ne => "!="

/-- A named value compared with a fixed one. -/
structure Condition where
  metric : String
  op : CompareOp
  value : Json

/-- A search for an entry of a breakdown that meets every condition, among the first `limit`
entries when there is a limit. -/
structure BreakdownMatch where
  dimension : String
  conditions : List Condition
  limit : Option UInt64

/-- Conditions on metrics, all of them and any of them, a search in a breakdown, and the step
to go to. -/
structure BranchRule where
  all : Option (List Condition)
  any : Option (List Condition)
  anyInBreakdowns : Option BreakdownMatch
  target : Option String

structure BranchRoute where
  target : Option String
deriving DecidableEq

structure BranchSettings where
  rules : List BranchRule
  fallback : Option BranchRoute

structure ValidationSettings where
  checks : List String
deriving DecidableEq

structure CompareSettings where
  metrics : List String
deriving DecidableEq

/-- Which candidates a breakdown keeps, by the sign of their change. -/
inductive FilterMode where
  | drop
  | increase
  | all
deriving DecidableEq

instance : Named FilterMode where
  all := [.drop, .increase, .all]
  name
    | .drop => "drop"
    | .increase => "increase"
    | .all => "all"

/-- When a row has too few sessions to count. -/
inductive MinSessionsMode where
  | bothLow
  | eitherLow
  | baselineOnly
deriving DecidableEq

instance : Named MinSessionsMode where
  all := [.bothLow, .eitherLow, .baselineOnly]
  name
    | .bothLow => "both_low"
    | .eitherLow => "either_low"
    | .baselineOnly => "baseline_only"

/-- Where a drill-down stops. -/
structure StopConditions where
  maxDepth : UInt64 := 1
  minSessions : UInt64 := 0
  minCurrentSessions : Option UInt64 := none
  minBaselineSessions : Option UInt64 := none
  topK : UInt64 := 1
deriving DecidableEq

structure BreakdownSettings where
  dimension : Option String
  dimensions : List String
  baseMetric : BaseMetric
  stopConditions : StopConditions
  rankBy : RankBy
  rankOrder : RankOrder
  filterMode : FilterMode
  minSessionsMode : MinSessionsMode
  outputKey : Option String
deriving DecidableEq

structure CompositeSettings where
  steps : List String
deriving DecidableEq

structure InsightTemplate where
  summary : String
  details : List String
deriving DecidableEq

structure InsightSettings where
  template : InsightTemplate
deriving DecidableEq

inductive StepKind where
  | validation
  | metricCompare
  | branch
  | breakdown
  | composite
  | insight
deriving DecidableEq

instance : Named StepKind where
  all := [.validation, .metricCompare, .branch, .breakdown, .composite, .insight]
  name
    | .validation => "validation"
    | .metricCompare => "metric_compare"
    | .branch => "branch"
    | .breakdown => "recursive_dimension_breakdown"
    | .composite => "composite"
    | .insight => "insight"

/-- What a step does. -/
inductive StepSettings where
  | validation (s : ValidationSettings)
  | metricCompare (s : CompareSettings)
  | branch (s : BranchSettings)
  | breakdown (s : BreakdownSettings)
  | composite (s : CompositeSettings)
  | insight (s : InsightSettings)

def StepSettings.kind : StepSettings → StepKind
  | .validation _ => .validation
  | .metricCompare _ => .metricCompare
  | .branch _ => .branch
  | .breakdown _ => .breakdown
  | .composite _ => .composite
  | .insight _ => .insight

/-- Whether a failure ends the run or is an error of it. -/
inductive FailAction where
  | terminate
  | escalate
deriving DecidableEq

instance : Named FailAction where
  all := [.terminate, .escalate]
  name
    | .terminate => "terminate"
    | .escalate => "raise"

structure FailPolicy where
  action : FailAction
  reason : Option String
deriving DecidableEq

structure Step where
  id : String
  settings : StepSettings
  next : Option String
  onFail : Option FailPolicy

/-- A workflow starts at its first step. -/
structure Workflow where
  id : String
  version : String
  description : Option String
  steps : List Step
  metadata : Dict Json

namespace StopConditions

def currentThreshold (s : StopConditions) : UInt64 := s.minCurrentSessions.getD s.minSessions

def baselineThreshold (s : StopConditions) : UInt64 := s.minBaselineSessions.getD s.minSessions

end StopConditions

/-- The dimension of each depth: the listed ones, or the single one when none is listed. -/
def BreakdownSettings.dimensionList (s : BreakdownSettings) : List String :=
  if s.dimensions.isEmpty then s.dimension.toList else s.dimensions

namespace Step

def kind (s : Step) : StepKind := s.settings.kind

def typeName (s : Step) : String := Named.name s.kind

/-- Whether a failure of this step ends the run without an error. -/
def terminatesOnFail (s : Step) : Bool :=
  match s.onFail with
  | some p => p.action == .terminate
  | none => false

end Step

def Workflow.entry? (w : Workflow) : Option String := w.steps.head?.map (·.id)

/-- The dimensions that traffic can be sliced by. -/
def allowedDimensions : List String :=
  [productDimension, "utm_source", "utm_medium", "utm_campaign", "utm_content", "utm_term",
    "landing_page_path", "landing_page_type", "referrer_name"]

end RootCause
