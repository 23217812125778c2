import RootCause.Evidence
import RootCause.Score.Rate

/-!
Scores of segments, and lists ranked by them.
-/

namespace RootCause

/-- What a ranking goes by. -/
inductive RankBy where
  | delta
  | baselineCvr
  | baselineSessions
  | baselineOrders
deriving DecidableEq

instance : Named RankBy where
  all := [.delta, .baselineCvr, .baselineSessions, .baselineOrders]
  name
    | .delta => "delta"
    | .baselineCvr => "baseline_cvr"
    | .baselineSessions => "baseline_sessions"
    | .baselineOrders => "baseline_orders"

inductive RankOrder where
  | desc
  | asc
deriving DecidableEq

instance : Named RankOrder where
  all := [.desc, .asc]
  name
    | .desc => "desc"
    | .asc => "asc"

/-- The size of a value times a weight; minus infinity without a value. -/
def weighted (value : Option Binary64) (weight : Binary64) : Binary64 :=
  match value with
  | none => .infinity true
  | some x => x.abs * weight

namespace Evidence

/-- The score by the change of the entry's own base metric. -/
def deltaScore (e : Evidence) : Binary64 :=
  match e.baseMetric with
  | .orders => weighted e.deltas.orders e.baselineOrderShare
  | .sessions => weighted e.deltas.sessions (Binary64.ofNat 1)
  | .atcRate => weighted e.deltas.atcRate e.baselineSessionShare
  | .cvr => weighted e.deltas.cvr e.baselineSessionShare

def score (rankBy : RankBy) (e : Evidence) : Binary64 :=
  match rankBy with
  | .baselineCvr => weighted e.baseline.cvr e.baselineSessionShare
  | .baselineSessions => e.baselineSessionShare
  | .baselineOrders => e.baselineOrderShare
  | .delta => e.deltaScore

/-- Whether one entry may stand before another. -/
def ranksBefore (rankBy : RankBy) (order : RankOrder) (e f : Evidence) : Bool :=
  match order with
  | .desc => (f.score rankBy).totalLe (e.score rankBy)
  | .asc => (e.score rankBy).totalLe (f.score rankBy)

end Evidence

/-- The entries by score in the total order of doubles; entries of one score stay in their
order. -/
def rank (rankBy : RankBy) (order : RankOrder) (entries : List Evidence) : List Evidence :=
  entries.mergeSort (Evidence.ranksBefore rankBy order)

end RootCause
