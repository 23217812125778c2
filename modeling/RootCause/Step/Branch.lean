import RootCause.Decimal.Reader
import RootCause.Step.Result
import RootCause.Text.Blank
import RootCause.Workflow.Basic

/-!
The branch step: the first rule that matches names the next step.
-/

namespace RootCause

/-- The scratch key of the entry that a branch has found. -/
def matchedBreakdownKey : String := "matched_breakdown"

/-- A number, or a text that denotes one when white space around it is dropped. -/
def Json.asComparable? : Json → Option Binary64
  | .number n => some n.toDouble
  | .string s => Binary64.read? (trim s.toList)
  | _ => none

def CompareOp.compareNumbers (op : CompareOp) (x y : Binary64) : Bool :=
  match op with
  | .gt => y.lt x
  | .gte => y.le x
  | .lt => x.lt y
  | .lte => x.le y
  | .eq => x.eqv y
  | .ne => !x.eqv y

/-- Numbers are compared as numbers. Other values are only equal or different. -/
def CompareOp.compare (op : CompareOp) (a b : Json) : Bool :=
  match a.asComparable?, b.asComparable? with
  | some x, some y => op.compareNumbers x y
  | _, _ =>
    match op with
    | .eq => a.same b
    | .ne => !a.same b
    | _ => false

/-- A condition on a metric fails when the metric is absent. -/
def Condition.holdsOfMetrics (cond : Condition) (c : Context) : Bool :=
  match c.metric? cond.metric with
  | none => false
  | some value => cond.op.compare value.toJson cond.value

/-- A field of an entry: among the changes, then the current and the baseline figures, then
the entry's own fields. -/
def resolveField? (fields : Json) (name : String) : Option Json :=
  (["deltas", "current", "baseline"].findSome? fun part =>
    (fields.get? part).bind (Json.get? name)) <|> fields.get? name

/-- A condition on an entry fails when the entry has no such field. -/
def Condition.holdsOfEntry (cond : Condition) (fields : Json) : Bool :=
  match resolveField? fields cond.metric with
  | none => false
  | some value => cond.op.compare value cond.value

/-- The first entry, within the limit, that meets every condition, as JSON. -/
def BreakdownMatch.find? (m : BreakdownMatch) (c : Context) : Option Json :=
  let entries := (c.breakdowns.get? m.dimension).getD []
  let scanned := match m.limit with
    | none => entries
    | some limit => entries.take limit.toNat
  (scanned.map Evidence.toJson).find? fun fields => m.conditions.all (·.holdsOfEntry fields)

/-- All of one list hold and, when the other is not empty, any of it. -/
def BranchRule.metricsMatch (rule : BranchRule) (c : Context) : Bool :=
  let all := rule.all.getD []
  let any := rule.any.getD []
  all.all (·.holdsOfMetrics c) && (any.isEmpty || any.any (·.holdsOfMetrics c))

/-- The delta of a rule that matches; none for a rule that does not. -/
def BranchRule.outcome? (rule : BranchRule) (c : Context) : Option (Option Delta) :=
  if rule.metricsMatch c then
    match rule.anyInBreakdowns with
    | none => some none
    | some m =>
      (m.find? c).map fun found =>
        some (.ofScratch (.ofList [(matchedBreakdownKey, found)]))
  else none

/-- The first matching rule wins, then the default route. -/
def runBranch (settings : BranchSettings) (c : Context) : Verdict :=
  match settings.rules.findSome? fun rule => (rule.outcome? c).map (rule, ·) with
  | some (rule, delta) => .pass delta rule.target
  | none =>
    match settings.fallback.bind (·.target) with
    | some target => .pass none (some target)
    | none => .fail .noRoute

end RootCause
