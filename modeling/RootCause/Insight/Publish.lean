import RootCause.Insight.Template
import RootCause.Insight.Tokens

/-!
The insight step: the finding in words, published in scratch.
-/

namespace RootCause

/-- A rendered finding and the confidence in it. -/
structure Insight where
  summary : String
  details : List String
  confidence : Binary64
deriving DecidableEq

namespace Insight

def ofJson? (j : Json) : Option Insight := do
  let r ← j.record? (.plain ["summary", "details", "confidence"] 3)
  return {
    summary := ← r.required "summary" Json.toText?
    details := ← r.orElse "details" (Json.toList? Json.toText?) []
    confidence := ← r.required "confidence" Json.toDouble? }

def toJson (i : Insight) : Json := .object [
  ("confidence", .ofDouble i.confidence),
  ("details", .ofStrings i.details),
  ("summary", .string i.summary)]

/-- The scratch key of the published insight. -/
def scratchKey : String := "final_insight"

/-- The insight that a template gives in a context. -/
def ofContext (template : InsightTemplate) (c : Context) : Insight :=
  let ranked := selectRanked c.scoredEvidence
  let top := c.topFinding?
  let confidence := RootCause.confidence top
  let tokens := insightTokens c top ranked confidence
  { summary := renderTemplate template.summary tokens
    details := template.details.map fun line => renderTemplate line tokens
    confidence }

end Insight

/-- Always passes; scratch then holds the insight and nothing else. -/
def runInsight (step : Step) (settings : InsightSettings) (c : Context) : Verdict :=
  let insight := Insight.ofContext settings.template c
  .pass (some (.ofScratch (.ofList [(Insight.scratchKey, insight.toJson)]))) step.next

end RootCause
