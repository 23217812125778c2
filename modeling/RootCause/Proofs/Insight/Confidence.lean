import RootCause.Proofs.Binary64.Interval
import RootCause.Proofs.Context.Merge
import RootCause.Proofs.Insight.Overriding

/-!
The confidence of an insight. Whatever the share and the sessions of the finding are, it is a number
from `0.3` to `0.9`, and it is published as one.
-/

namespace RootCause

open Binary64

theorem isNaN_round2 {x : Binary64} (number : x.isNaN = false) : (round2 x).isNaN = false := by
  have finite : hundred.isFinite := by decide +kernel
  have nonzero : hundred.isZero = false := by decide +kernel
  exact isNaN_div (isNaN_roundAway (isNaN_mul number finite nonzero)) finite nonzero

namespace Evidence

theorem usableShare_inUnit (e : Evidence) : e.usableShare.InUnit := by
  unfold usableShare
  split
  · next finite => exact .clamp (isNaN_of_isFinite finite)
  · exact .zero false

theorem trafficWeight_inUnit (e : Evidence) : e.trafficWeight.InUnit :=
  .clamp (isNaN_div (isNaN_ofNat _) (by decide +kernel) (by decide +kernel))

end Evidence

theorem confidence_between (top : Option Evidence) :
    minConfidence.le (confidence top) ∧ (confidence top).le maxConfidence := by
  have ordered : minConfidence.le maxConfidence := by decide +kernel
  cases top with
  | none => exact ⟨by decide +kernel, ordered⟩
  | some e =>
      have range : (maxConfidence - minConfidence).magnitude ≤ (ofNat 1).magnitude := by
        decide +kernel
      have part := magnitude_mul_le (magnitude_mul_le range e.usableShare_inUnit.magnitude_le)
        e.trafficWeight_inUnit.magnitude_le
      have least : minConfidence.isFinite := by decide +kernel
      have sum := isNaN_add least (isFinite_of_magnitude_le part)
      exact clamp_between (isNaN_round2 sum) ordered

theorem confidence_isFinite (top : Option Evidence) : (confidence top).isFinite :=
  isFinite_of_between (by decide +kernel) (by decide +kernel) (confidence_between top)

/-- Without evidence and without a match there is nothing to tell of. -/
theorem Context.topFinding?_eq_none {c : Context} (bare : c.breakdowns.values.flatten = [])
    (unmatched : c.matchedBreakdown? = none) : c.topFinding? = none := by
  unfold topFinding? scoredEvidence rank
  rw [unmatched, bare, List.mergeSort_nil]
  rfl

theorem Insight.get?_confidence_toJson (i : Insight) (finite : i.confidence.isFinite) :
    i.toJson.get? "confidence" = some (.number (.double i.confidence)) := by
  change some (Json.ofDouble i.confidence) = _
  rw [Json.ofDouble, if_pos finite]

/-- A step that passes, after which scratch holds an insight with a number as its confidence. -/
def Step.PublishesConfidence (step : Step) (source : Source) (c : Context) (log : QueryLog)
    (x : Binary64) : Prop :=
  ∃ d c' insight, runLeaf source step c log = (.ok (.pass (some d) step.next), log) ∧
    c.merge d = .ok c' ∧ c'.scratch.get? Insight.scratchKey = some insight ∧
    insight.get? "confidence" = some (.number (.double x))

/-- Whatever a context holds, an insight publishes a confidence that is a number from `0.3` to
`0.9`. Without evidence and without a match it is `0.3`. -/
theorem Step.confidence_of_insight (source : Source) {step : Step} {settings : InsightSettings}
    (kind : step.settings = .insight settings) (c : Context) (log : QueryLog) :
    ∃ x, step.PublishesConfidence source c log x ∧ x.isFinite ∧
      minConfidence.le x ∧ x.le maxConfidence ∧
      (c.breakdowns.values.flatten = [] → c.matchedBreakdown? = none → x = minConfidence) := by
  have told := runLeaf_insight kind source c log
  have finite := confidence_isFinite c.topFinding?
  have between := confidence_between c.topFinding?
  refine ⟨confidence c.topFinding?, ?_, finite, between.1, between.2, ?_⟩
  · exact ⟨_, _, (Insight.ofContext settings.template c).toJson, told,
      Context.merge_ofScratch c _, rfl, Insight.get?_confidence_toJson _ finite⟩
  · intro bare unmatched
    rw [Context.topFinding?_eq_none bare unmatched]
    rfl

/-- A segment that has no usable share, and a match that cannot be read. -/
def Context.unmeasured : Context :=
  { Context.noted with
    breakdowns := .ofList [("utm_source",
      [{ Evidence.ofSessions "utm_source" "google" (-37) with sessionShare := .nan true }])]
    scratch := .ofList [(matchedBreakdownKey, .string "gone")] }

theorem Step.confidence_of_tellNoted :
    (∃ x, tellNoted.PublishesConfidence .silent .unmeasured [] x ∧
      minConfidence.le x ∧ x.le maxConfidence) ∧
    tellNoted.PublishesConfidence .silent { Context.unmeasured with breakdowns := ∅ } []
      minConfidence := by
  have kind : tellNoted.settings =
      .insight ⟨⟨String.ofList Template.noted.text, []⟩⟩ := rfl
  obtain ⟨x, published, -, above, below, -⟩ :=
    confidence_of_insight .silent kind .unmeasured []
  obtain ⟨y, published', -, -, -, least⟩ :=
    confidence_of_insight .silent kind { Context.unmeasured with breakdowns := ∅ } []
  refine ⟨⟨x, published, above, below⟩, ?_⟩
  rwa [least rfl rfl] at published'

end RootCause
