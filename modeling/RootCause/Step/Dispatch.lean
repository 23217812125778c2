import RootCause.Breakdown.Publish
import RootCause.Insight.Publish
import RootCause.Step.Branch
import RootCause.Step.Comparison
import RootCause.Step.Validation
import RootCause.Workflow.Registry

/-!
Running a step of any kind.

A composite step runs its sub-steps one after another. The delta of each is merged at once,
so that the next one sees it, and gathered into the delta of the composite.
-/

namespace RootCause

/-- Why a step gives no verdict. -/
inductive StepError where
  | source (e : SourceError)
  | merge (e : MergeError)
deriving DecidableEq

def StepError.message : StepError → String
  | .source e => e.message
  | .merge e => e.message

/-- Runs a step that is no composite. A composite fails. -/
def runLeaf (source : Source) (step : Step) (c : Context) : Inquiry Verdict :=
  match step.settings with
  | .validation _ => return runValidation step c
  | .metricCompare s => runComparison source step s c
  | .branch s => return runBranch s c
  | .breakdown s => runBreakdown source step s c
  | .insight s => return runInsight step s c
  | .composite _ => return .fail (.nestedComposite step.id)

theorem runLeaf_insight {step : Step} {settings : InsightSettings}
    (kind : step.settings = .insight settings) (source : Source) (c : Context) (log : QueryLog) :
    runLeaf source step c log = (.ok (runInsight step settings c), log) := by
  unfold runLeaf
  rw [kind]
  rfl

/-- What a dispatch leaves behind: a verdict or an error, the context and the queries. -/
structure Dispatch where
  outcome : Except StepError Verdict
  context : Context
  log : QueryLog

/-- The reason that a terminating policy puts in place of the cause. -/
def Step.terminationReason? (s : Step) : Option String :=
  if s.terminatesOnFail then s.onFail.bind (·.reason) else none

/-- Runs sub-steps in order up to the first that fails. `combined` gathers their deltas. -/
def runSubSteps (source : Source) (registry : Registry) (next : Option String) :
    List String → (combined : Delta) → Context → QueryLog → Dispatch
  | [], combined, c, log => ⟨.ok (.pass (some combined) next), c, log⟩
  | id :: rest, combined, c, log =>
    match registry.get? id with
    | none => ⟨.ok (.fail (.subStepNotFound id)), c, log⟩
    | some sub =>
      match runLeaf source sub c log with
      | (.error e, log) => ⟨.error (.source e), c, log⟩
      | (.ok (.fail cause), log) =>
        ⟨.ok (.fail (.subStepFailed cause sub.terminationReason?)), c, log⟩
      | (.ok (.pass none _), log) => runSubSteps source registry next rest combined c log
      | (.ok (.pass (some d) _), log) =>
        match d.mergeInto c with
        | (.error e, c) => ⟨.error (.merge e), c, log⟩
        | (.ok (), c) =>
          match d.absorbInto combined with
          | (.error e, _) => ⟨.error (.merge e), c, log⟩
          | (.ok (), combined) => runSubSteps source registry next rest combined c log

/-- Gathering starts with an empty scratch, so a composite whose sub-steps write none clears
the scratch of the run. -/
def runComposite (source : Source) (registry : Registry) (step : Step) (s : CompositeSettings)
    (c : Context) (log : QueryLog) : Dispatch :=
  if s.steps.isEmpty then ⟨.ok (.fail .emptyComposite), c, log⟩
  else runSubSteps source registry step.next s.steps (.ofScratch ∅) c log

/-- Runs a step. Only a composite changes the context by itself. -/
def dispatch (source : Source) (registry : Registry) (step : Step) (c : Context)
    (log : QueryLog) : Dispatch :=
  match step.settings with
  | .composite s => runComposite source registry step s c log
  | _ =>
    match runLeaf source step c log with
    | (.ok v, log) => ⟨.ok v, c, log⟩
    | (.error e, log) => ⟨.error (.source e), c, log⟩

end RootCause
