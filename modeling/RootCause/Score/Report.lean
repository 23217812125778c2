import RootCause.Decimal.Layout
import RootCause.Score.Rank

/-!
Texts of percentages and of ranked lists.
-/

namespace RootCause

/-- The text for a figure that is not known. -/
def unknownText : String := "unknown"

/-- A percentage with two places. -/
def formatPct : Option Binary64 → String
  | none => unknownText
  | some x => if x.isNaN then unknownText else x.fixed2 ++ "%"

/-- A rate as a percentage. -/
def formatRatePct (rate : Option Binary64) : String := formatPct (rate.map (· * hundred))

namespace Evidence

/-- `sessions 1000 -> 800 (-20.00%)`. -/
def sessionsMovement (e : Evidence) : String :=
  s!"sessions {e.baseline.sessions} -> {e.current.sessions} ({formatPct e.deltas.sessions})"

def ordersMovement (e : Evidence) : String :=
  s!"orders {e.baseline.orders} -> {e.current.orders} ({formatPct e.deltas.orders})"

def baselineRate (base : BaseMetric) (e : Evidence) : String :=
  match base with
  | .atcRate => "baseline ATC rate " ++ formatRatePct e.baseline.atcRate
  | _ => "baseline CVR " ++ formatRatePct e.baseline.cvr

/-- The movements a ranking is about: of orders, of sessions or of both. -/
def movements (rankBy : RankBy) (base : BaseMetric) (e : Evidence) : List String :=
  if rankBy = .baselineOrders ∨ base = .orders then [e.ordersMovement]
  else if rankBy = .baselineSessions ∨ base = .sessions then [e.sessionsMovement]
  else [e.sessionsMovement, e.ordersMovement]

def rankedLine (rankBy : RankBy) (base : BaseMetric) (place : Nat) (e : Evidence) : String :=
  " | ".intercalate
    (s!"{place}. {e.label}" :: e.baselineRate base :: e.movements rankBy base)

end Evidence

/-- One line for each entry, numbered from one; `none` for no entries. -/
def formatRankedList (rankBy : RankBy) (base : BaseMetric) (entries : List Evidence) : String :=
  if entries.isEmpty then "none"
  else "\n".intercalate
    (entries.zipIdx.map fun (e, i) => e.rankedLine rankBy base (i + 1))

end RootCause
