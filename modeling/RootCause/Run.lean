import RootCause.Step.Dispatch

/-!
Runs of a workflow: from its first step, along the ids that steps hand control to, until a
step names no next one or a failure ends the run.
-/

namespace RootCause

/-- The most steps that a run dispatches. -/
def maxDispatchedSteps : Nat := 100

inductive RunStatus where
  | completed
  | terminated
deriving DecidableEq

instance : Named RunStatus where
  all := [.completed, .terminated]
  name
    | .completed => "completed"
    | .terminated => "terminated"

/-- What a dispatched step came to. -/
structure StepRecord where
  stepId : String
  stepType : String
  status : StepStatus
  next : Option String
  reason : Option String
deriving DecidableEq

structure RunOutcome where
  status : RunStatus
  reason : Option String
  context : Context
  steps : List StepRecord

/-- Why a run has no outcome. -/
inductive RunError where
  | missingContext
  | graph (e : GraphError)
  | immutableField (e : MergeError)
  | stepFailed (id : String) (cause : StepFailure)
  | step (id : String) (e : StepError)
deriving DecidableEq

def RunError.message : RunError → String
  | .missingContext => "missing initial context: meta is required"
  | .graph e => e.message
  | .immutableField e => e.message
  | .stepFailed id cause => s!"step '{id}' failed: {cause.message}"
  | .step id e => s!"step '{id}' errored: {e.message}"

namespace StepRecord

def ofVerdict (step : Step) : Verdict → StepRecord
  | .pass _ next => ⟨step.id, step.typeName, .pass, next, none⟩
  | .fail cause => ⟨step.id, step.typeName, .fail, none, some cause.message⟩

def toJson (r : StepRecord) : Json := .object (
  Json.memberIfSome "next" .string r.next ++
  Json.memberIfSome "reason" .string r.reason ++
  [("status", .ofNamed r.status), ("step_id", .string r.stepId),
    ("step_type", .string r.stepType)])

end StepRecord

namespace RunOutcome

def members (o : RunOutcome) : List (String × Json) :=
  [("context", o.context.toJson)] ++
  Json.memberIfSome "reason" .string o.reason ++
  [("status", .ofNamed o.status), ("steps", .array (o.steps.map StepRecord.toJson))]

end RunOutcome

/-- A trace entry at the end of the context's trace. -/
def Context.traced (c : Context) (step : Step) (moment : Instant) : Context :=
  { c with executionTrace := c.executionTrace ++ [⟨step.id, step.typeName, moment⟩] }

/-- What a run needs beside its state. `clock` tells the time of each dispatch. -/
structure Run where
  source : Source
  registry : Registry
  clock : Nat → Instant

namespace Run

/-- Dispatches from a step on. `left` counts the dispatches that are still allowed. -/
def follow (r : Run) : (left : Nat) → Option String → List StepRecord → Context → QueryLog →
    Except RunError RunOutcome × QueryLog
  | _, none, records, c, log => (.ok ⟨.completed, none, c, records⟩, log)
  | 0, some _, _, _, log => (.error (.graph (.stepLimitExceeded maxDispatchedSteps)), log)
  | left + 1, some id, records, c, log =>
    if records.any (·.stepId == id) then (.error (.graph (.cycleDetected id)), log)
    else match r.registry.get? id with
      | none => (.error (.graph (.stepNotFound id)), log)
      | some step =>
        let d := dispatch r.source r.registry step (c.traced step (r.clock records.length)) log
        match d.outcome with
        | .error e => (.error (.step step.id e), d.log)
        | .ok v =>
          let records := records ++ [.ofVerdict step v]
          match v with
          | .fail cause =>
            if step.terminatesOnFail then
              let reason := step.terminationReason?.getD cause.message
              (.ok ⟨.terminated, some reason, d.context, records⟩, d.log)
            else (.error (.stepFailed step.id cause), d.log)
          | .pass delta next =>
            match d.context.merge? delta with
            | .error e => (.error (.immutableField e), d.log)
            | .ok c => r.follow left next records c d.log

/-- A whole run from an entry step. The context needs meta. -/
def start (r : Run) (entry : Option String) (c : Context) (log : QueryLog) :
    Except RunError RunOutcome × QueryLog :=
  if c.runMeta.isNone then (.error .missingContext, log)
  else r.follow maxDispatchedSteps entry [] c log

end Run

/-- A run of a workflow, and the queries sent in all runs so far. -/
def Workflow.run (w : Workflow) (source : Source) (clock : Nat → Instant) (c : Context)
    (log : QueryLog) : Except RunError RunOutcome × QueryLog :=
  match Registry.ofWorkflow w with
  | .error e => (.error (.graph e), log)
  | .ok registry => (Run.mk source registry clock).start w.entry? c log

end RootCause
