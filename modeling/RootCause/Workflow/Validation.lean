import RootCause.Workflow.Codec

/-!
What makes a workflow or a run context acceptable, and workflows read from documents.

A check gives every problem it finds, in the order of the steps.
-/

namespace RootCause

/-- A flaw of a workflow definition. -/
inductive WorkflowProblem where
  | emptyId
  | emptyVersion
  | noSteps
  | emptyStepId
  | duplicateStepId (id : String)
  | noMetrics (id : String)
  | noRoute (id : String)
  | noDimension (id : String)
  | unsupportedDimension (id dimension : String)
  | noSubSteps (id : String)
  | unknownStep (id target : String)
deriving DecidableEq

def WorkflowProblem.message : WorkflowProblem → String
  | .emptyId => "workflow id must not be empty"
  | .emptyVersion => "workflow version must not be empty"
  | .noSteps => "workflow must have at least one step"
  | .emptyStepId => "step id must not be empty"
  | .duplicateStepId id => s!"duplicate step id '{id}'"
  | .noMetrics id => s!"metric_compare step '{id}' requests no metrics"
  | .noRoute id => s!"branch step '{id}' has neither rules nor a default route"
  | .noDimension id => s!"breakdown step '{id}' has no dimension"
  | .unsupportedDimension id dimension =>
    s!"breakdown step '{id}' uses unsupported dimension '{dimension}'"
  | .noSubSteps id => s!"composite step '{id}' lists no sub-steps"
  | .unknownStep id target => s!"step '{id}' references unknown step '{target}'"

/-- A flaw of a run context. -/
inductive ContextProblem where
  | noMeta
  | emptyTenant
  | emptyMetric
  | windowOrder
  | incompleteWindow
  | incompleteBaselineWindow
deriving DecidableEq

def ContextProblem.message : ContextProblem → String
  | .noMeta => "run context has no meta"
  | .emptyTenant => "meta.tenantId must not be empty"
  | .emptyMetric => "meta.metric must not be empty"
  | .windowOrder => "meta.window.start must be before meta.window.end"
  | .incompleteWindow => "meta.window needs both start and end"
  | .incompleteBaselineWindow => "meta.baselineWindow needs both start and end"

/-- A problem when a test fails. -/
def problemIf {α : Type} (test : Bool) (problem : α) : List α := if test then [problem] else []

namespace Step

/-- Every step id that this step can hand control to. -/
def references (s : Step) : List String :=
  s.next.toList ++ match s.settings with
    | .branch b =>
      b.rules.filterMap (·.target) ++
        (match b.fallback with
          | some route => route.target.toList
          | none => [])
    | .composite c => c.steps
    | _ => []

/-- What is wrong with the settings of a step. -/
def settingsProblems (s : Step) : List WorkflowProblem :=
  match s.settings with
  | .metricCompare c => problemIf c.metrics.isEmpty (.noMetrics s.id)
  | .branch b => problemIf (b.rules.isEmpty && b.fallback.isNone) (.noRoute s.id)
  | .breakdown b =>
    problemIf (b.dimensionList.all isBlankText) (.noDimension s.id) ++
      b.dimensionList.flatMap fun d =>
        problemIf (!isBlankText d && !allowedDimensions.contains d)
          (.unsupportedDimension s.id d)
  | .composite c => problemIf c.steps.isEmpty (.noSubSteps s.id)
  | _ => []

end Step

namespace Workflow

/-- Blank ids, and ids that an earlier step has. -/
def idProblems : (seen : List String) → List Step → List WorkflowProblem
  | _, [] => []
  | seen, s :: rest =>
    problemIf (isBlankText s.id) .emptyStepId ++
      problemIf (seen.contains s.id) (.duplicateStepId s.id) ++
      idProblems (s.id :: seen) rest

def stepIds (w : Workflow) : List String := w.steps.map (·.id)

/-- Every flaw of a workflow. -/
def problems (w : Workflow) : List WorkflowProblem :=
  problemIf (isBlankText w.id) .emptyId ++
    problemIf (isBlankText w.version) .emptyVersion ++
    problemIf w.steps.isEmpty .noSteps ++
    idProblems [] w.steps ++
    w.steps.flatMap fun s =>
      s.settingsProblems ++ s.references.flatMap fun target =>
        problemIf (!w.stepIds.contains target) (.unknownStep s.id target)

end Workflow

/-- Every flaw of a context for a run. -/
def Context.problems (c : Context) : List ContextProblem :=
  match c.runMeta with
  | none => [.noMeta]
  | some m =>
    problemIf (isBlankText m.tenantId) .emptyTenant ++
      problemIf (isBlankText m.metric) .emptyMetric ++
      (match m.window.bind TimeWindow.bounds with
        | some (start, stop) => problemIf (!start.before stop) .windowOrder
        | none => [.incompleteWindow]) ++
      (match m.baselineWindow with
        | some w => problemIf (!w.isComplete) .incompleteBaselineWindow
        | none => [.incompleteBaselineWindow])

/-- A defect of the graph that the steps of a workflow form. -/
inductive GraphError where
  | emptyWorkflow
  | duplicateStepId (id : String)
  | unknownStepType (id typeName : String)
  | stepNotFound (id : String)
  | cycleDetected (id : String)
  | stepLimitExceeded (limit : Nat)
deriving DecidableEq

def GraphError.message : GraphError → String
  | .emptyWorkflow => "workflow has no steps"
  | .duplicateStepId id => s!"duplicate step id '{id}'"
  | .unknownStepType id typeName => s!"step '{id}' has unknown type '{typeName}'"
  | .stepNotFound id => s!"step '{id}' is referenced but not defined"
  | .cycleDetected id => s!"cycle detected: step '{id}' was already dispatched in this run"
  | .stepLimitExceeded limit => s!"step limit exceeded: more than {limit} steps dispatched"

/-- Why a document is no acceptable workflow, or a context not fit for a run. -/
inductive DefinitionError where
  | parse
  | invalidWorkflow (problems : List WorkflowProblem)
  | invalidContext (problems : List ContextProblem)
  | graph (e : GraphError)
deriving DecidableEq

def DefinitionError.message : DefinitionError → String
  | .parse => "parse error"
  | .invalidWorkflow ps => "validation error: " ++ "; ".intercalate (ps.map (·.message))
  | .invalidContext ps => "validation error: " ++ "; ".intercalate (ps.map (·.message))
  | .graph e => e.message

/-- Accepts a workflow without problems. -/
def Workflow.validate (w : Workflow) : Except DefinitionError Unit :=
  if w.problems.isEmpty then .ok () else .error (.invalidWorkflow w.problems)

/-- Accepts a context without problems. -/
def Context.validate (c : Context) : Except DefinitionError Unit :=
  if c.problems.isEmpty then .ok () else .error (.invalidContext c.problems)

namespace Workflow

/-- The first step of a document whose type is a text but no step type. -/
def unknownType? (steps : List Json) : Option GraphError :=
  steps.findSome? fun step =>
    match (step.get? "type").bind Json.asString? with
    | none => none
    | some typeName =>
      if (Named.ofName? (α := StepKind) typeName).isSome then none
      else
        let id := ((step.get? "id").bind Json.asString?).getD "<unnamed>"
        some (.unknownStepType id typeName)

/-- A workflow from a document in normal form: step types first, then the form, then the
problems. -/
def ofDocument? (document : Json) : Except DefinitionError Workflow :=
  let steps := ((document.get? "steps" <|> document.get? "nodes").bind Json.asArray?).getD []
  match unknownType? steps with
  | some e => .error (.graph e)
  | none =>
    match ofJson? document with
    | none => .error .parse
    | some w =>
      match w.validate with
      | .error e => .error e
      | .ok () => .ok w

end Workflow

end RootCause
