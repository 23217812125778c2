import RootCause.Context.Delta
import RootCause.Source.Query

/-!
What a step comes to: a pass with a delta and a next step, or a failure with its cause.
-/

namespace RootCause

inductive StepStatus where
  | pass
  | fail
  | terminated
deriving DecidableEq

instance : Named StepStatus where
  all := [.pass, .fail, .terminated]
  name
    | .pass => "pass"
    | .fail => "fail"
    | .terminated => "terminated"

/-- A result as it is written and read. -/
structure StepResult where
  status : StepStatus
  delta : Option Delta
  next : Option String
  reason : Option String

namespace StepResult

/-- Anything but a pass. -/
def isFailure (r : StepResult) : Bool := r.status != .pass

def ofJson? (j : Json) : Option StepResult := do
  let r ← j.record? (.plain ["status", "delta", "next", "reason"] 1)
  return {
    status := ← r.required "status" (Json.toNamed? false)
    delta := ← r.optional "delta" Delta.ofJson?
    next := ← r.optional "next" Json.toText?
    reason := ← r.optional "reason" Json.toText? }

def toJson (r : StepResult) : Json := .object (
  Json.memberIfSome "delta" Delta.toJson r.delta ++
  Json.memberIfSome "next" .string r.next ++
  Json.memberIfSome "reason" .string r.reason ++
  [("status", .ofNamed r.status)])

end StepResult

/-- Why a step fails. -/
inductive StepFailure where
  | missingMeta
  | missingTenant
  | missingMetric
  | missingWindow
  | compareWithoutMeta
  | compareIntent (e : IntentError)
  | compareWithoutData
  | compareWithoutSessions
  | noRoute
  | invalidDimension
  | breakdownBeforeCompare
  | breakdownWithoutMeta
  | breakdownIntent (e : IntentError)
  | nestedComposite (id : String)
  | emptyComposite
  | subStepNotFound (id : String)
  | subStepFailed (cause : StepFailure) (policyReason : Option String)
deriving DecidableEq

/-- The reason given for a failure. The policy of a failing sub-step may replace it. -/
def StepFailure.message : StepFailure → String
  | .missingMeta => "missing meta in context"
  | .missingTenant => "invalid or missing tenantId in context.meta"
  | .missingMetric => "invalid or missing metric in context.meta"
  | .missingWindow => "invalid or missing window in context.meta"
  | .compareWithoutMeta => "metric comparison: missing meta in context"
  | .compareIntent e => "metric comparison: " ++ e.message
  | .compareWithoutData => "metric comparison: missing current or baseline data"
  | .compareWithoutSessions => "metric comparison: sessions count is zero, cannot compute CVR"
  | .noRoute => "no rule matched and no default path defined"
  | .invalidDimension => "breakdown: dimension is missing or invalid"
  | .breakdownBeforeCompare =>
    "breakdown: global metrics missing, run a metric comparison first"
  | .breakdownWithoutMeta => "breakdown: missing meta in context"
  | .breakdownIntent e => "breakdown: " ++ e.message
  | .nestedComposite id => s!"composite step '{id}' cannot run inside another composite"
  | .emptyComposite => "composite: steps must be a non-empty list"
  | .subStepNotFound id => s!"composite: step not found: {id}"
  | .subStepFailed cause policyReason => policyReason.getD cause.message

/-- What running a step comes to. -/
inductive Verdict where
  | pass (delta : Option Delta) (next : Option String)
  | fail (cause : StepFailure)

/-- The written form of a verdict. A failure has a reason and nothing else. -/
def Verdict.toResult : Verdict → StepResult
  | .pass delta next => ⟨.pass, delta, next, none⟩
  | .fail cause => ⟨.fail, none, none, some cause.message⟩

end RootCause
