import RootCause.Context.Basic
import RootCause.Score.Rank
import RootCause.Step.Branch

/-!
What an insight is about: the segments it names, the top one, and the confidence in it.
-/

namespace RootCause

/-- Segments that an insight names. -/
def rankedSlots : Nat := 4

def minConfidence : Binary64 := .ofRatio 3 10

def maxConfidence : Binary64 := .ofRatio 9 10

/-- All evidence of a context, the largest change first. Lists are taken in key order, and
entries of one score stay in their order. -/
def Context.scoredEvidence (c : Context) : List Evidence :=
  rank .delta .desc c.breakdowns.values.flatten

/-- Adds entries of segments not yet picked until the slots are filled. -/
def pickDistinct : (picked : List Evidence) → List Evidence → List Evidence
  | picked, [] => picked
  | picked, e :: rest =>
    if rankedSlots ≤ picked.length then picked
    else if picked.any (·.sameSegment e) then pickDistinct picked rest
    else pickDistinct (picked ++ [e]) rest

/-- Distinct segments in the order given, but the first product leads. -/
def selectRanked (scored : List Evidence) : List Evidence :=
  pickDistinct (scored.find? (·.dimension == productDimension)).toList scored

/-- The entry that a branch has found. -/
def Context.matchedBreakdown? (c : Context) : Option Evidence :=
  (c.scratch.get? matchedBreakdownKey).bind Evidence.ofJson?

/-- What a branch has found, else the first segment selected. -/
def Context.topFinding? (c : Context) : Option Evidence :=
  c.matchedBreakdown? <|> (selectRanked c.scoredEvidence).head?

/-- The session share, held within zero and one; zero when it is not finite. -/
def Evidence.usableShare (e : Evidence) : Binary64 :=
  if e.sessionShare.isFinite then e.sessionShare.clamp (.zero false) (.ofNat 1)
  else .zero false

/-- Current sessions over a thousand, at most one. -/
def Evidence.trafficWeight (e : Evidence) : Binary64 :=
  (countDouble e.current.sessions / .ofNat 1000).clamp (.zero false) (.ofNat 1)

/-- `0.3 + 0.6 * share * traffic` in hundredths, from `0.3` to `0.9`; `0.3` without a
finding. -/
def confidence : Option Evidence → Binary64
  | none => minConfidence
  | some e =>
    (round2 (minConfidence +
      (maxConfidence - minConfidence) * e.usableShare * e.trafficWeight)).clamp
        minConfidence maxConfidence

end RootCause
