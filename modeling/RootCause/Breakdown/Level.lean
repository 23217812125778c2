import RootCause.Source.Basic
import RootCause.Workflow.Basic

/-!
One level of a drill-down: the rows of a query as scored candidates, the best of them kept.
-/

namespace RootCause

/-- The sum, held at the largest count. -/
def addCounts (a b : UInt64) : UInt64 :=
  if a.toNat + b.toNat < UInt64.size then a + b else UInt64.ofNat (UInt64.size - 1)

/-- Totals of the rows of a level, which shares refer to. -/
structure LevelTotals where
  currentSessions : UInt64 := 0
  baselineSessions : UInt64 := 0
  currentOrders : UInt64 := 0
  baselineOrders : UInt64 := 0

namespace LevelTotals

def add (t : LevelTotals) (row : DimensionRow) : LevelTotals where
  currentSessions := addCounts t.currentSessions row.currentSessions
  baselineSessions := addCounts t.baselineSessions row.baselineSessions
  currentOrders := addCounts t.currentOrders row.currentOrders
  baselineOrders := addCounts t.baselineOrders row.baselineOrders

def ofRows (rows : List DimensionRow) : LevelTotals := rows.foldl add {}

/-- A level without sessions in both windows has nothing to show. -/
def noSessions (t : LevelTotals) : Bool := t.currentSessions == 0 && t.baselineSessions == 0

end LevelTotals

/-- Counts with the rates they give. -/
def SegmentFigures.ofCounts (orders sessions atcSessions : UInt64) : SegmentFigures where
  orders := orders
  sessions := sessions
  atcSessions := atcSessions
  cvr := rate orders sessions
  atcRate := rate atcSessions sessions

/-- The changes between two windows. -/
def SegmentDeltas.between (current baseline : SegmentFigures) : SegmentDeltas where
  cvr := rateChange current.cvr baseline.cvr
  atcRate := rateChange current.atcRate baseline.atcRate
  atcSessions := countChange current.atcSessions baseline.atcSessions
  orders := countChange current.orders baseline.orders
  sessions := countChange current.sessions baseline.sessions

/-- The rate that a base metric goes by. -/
def SegmentFigures.baseRate (base : BaseMetric) (f : SegmentFigures) : Option Binary64 :=
  match base with
  | .atcRate => f.atcRate
  | _ => f.cvr

/-- The change that a base metric goes by. -/
def SegmentDeltas.baseChange (base : BaseMetric) (d : SegmentDeltas) : Option Binary64 :=
  match base with
  | .atcRate => d.atcRate
  | _ => d.cvr

/-- Whether a mode keeps a change. -/
def FilterMode.keeps (mode : FilterMode) (change : Option Binary64) : Bool :=
  match mode with
  | .drop => change.any (·.lt (.zero false))
  | .increase => change.any (Binary64.lt (.zero false))
  | .all => true

namespace DimensionRow

def currentFigures (row : DimensionRow) : SegmentFigures :=
  .ofCounts row.currentOrders row.currentSessions row.currentAtcSessions

def baselineFigures (row : DimensionRow) : SegmentFigures :=
  .ofCounts row.baselineOrders row.baselineSessions row.baselineAtcSessions

/-- Whether a row has enough sessions to count. -/
def passesSessionGate (s : BreakdownSettings) (row : DimensionRow) : Bool :=
  let currentLow := decide (row.currentSessions < s.stopConditions.currentThreshold)
  let baselineLow := decide (row.baselineSessions < s.stopConditions.baselineThreshold)
  match s.minSessionsMode with
  | .bothLow => !(currentLow && baselineLow)
  | .eitherLow => !(currentLow || baselineLow)
  | .baselineOnly => !baselineLow

/-- Whether the rates that a base metric goes by can be compared. -/
def hasBaseRates (base : BaseMetric) (row : DimensionRow) : Bool :=
  (row.currentFigures.baseRate base).isSome &&
    (row.baselineFigures.baseRate base).any fun r => !r.eqv (.zero false)

/-- A product shows its title unless that is blank, any other value shows itself. -/
def displayValue (dimension : String) (row : DimensionRow) : String :=
  match row.productTitle with
  | some title =>
    if dimension = productDimension ∧ !isBlankText title then title else row.value
  | none => row.value

/-- The entry of a row at a level. -/
def evidence (base : BaseMetric) (dimension : String) (depth : UInt64) (totals : LevelTotals)
    (row : DimensionRow) : Evidence :=
  let baselineSessionShare := share row.baselineSessions totals.baselineSessions
  let currentSessionShare := share row.currentSessions totals.currentSessions
  let baselineOrderShare := share row.baselineOrders totals.baselineOrders
  let currentOrderShare := share row.currentOrders totals.currentOrders
  { dimension
    value := row.value
    displayValue := row.displayValue dimension
    depth
    current := row.currentFigures
    baseline := row.baselineFigures
    deltas := .between row.currentFigures row.baselineFigures
    sessionShare := baselineSessionShare.max currentSessionShare
    orderShare := baselineOrderShare.max currentOrderShare
    baselineSessionShare
    baselineOrderShare
    baseMetric := base }

end DimensionRow

/-- Whether a row is worth an entry: it is not on the drill path already, has enough
sessions and comparable rates, and changed the way the filter mode wants. -/
def isCandidate (s : BreakdownSettings) (dimension : String) (filters : List Filter)
    (row : DimensionRow) : Bool :=
  !filters.contains ⟨dimension, row.value⟩ &&
    row.passesSessionGate s &&
    row.hasBaseRates s.baseMetric &&
    s.filterMode.keeps
      ((SegmentDeltas.between row.currentFigures row.baselineFigures).baseChange s.baseMetric)

/-- The entries of a level that can be kept, in row order. -/
def candidates (s : BreakdownSettings) (dimension : String) (depth : UInt64)
    (filters : List Filter) (rows : List DimensionRow) : List Evidence :=
  (rows.filter (isCandidate s dimension filters)).map
    (DimensionRow.evidence s.baseMetric dimension depth (.ofRows rows))

/-- The best candidates of a level, none without sessions. -/
def keptEntries (s : BreakdownSettings) (dimension : String) (depth : UInt64)
    (filters : List Filter) (rows : List DimensionRow) : List Evidence :=
  if (LevelTotals.ofRows rows).noSessions then []
  else (rank s.rankBy s.rankOrder (candidates s dimension depth filters rows)).take
    s.stopConditions.topK.toNat

theorem depth_of_mem_keptEntries {s : BreakdownSettings} {dimension : String} {depth : UInt64}
    {filters : List Filter} {rows : List DimensionRow} {e : Evidence}
    (h : e ∈ keptEntries s dimension depth filters rows) : e.depth = depth := by
  unfold keptEntries at h
  split at h
  · simp at h
  · have h := (List.mergeSort_perm _ _).mem_iff.1 (List.mem_of_mem_take h)
    obtain ⟨row, _, rfl⟩ := List.mem_map.1 h
    rfl

theorem length_keptEntries_le (s : BreakdownSettings) (dimension : String) (depth : UInt64)
    (filters : List Filter) (rows : List DimensionRow) :
    (keptEntries s dimension depth filters rows).length ≤ s.stopConditions.topK.toNat := by
  unfold keptEntries
  split
  · simp
  · exact List.length_take_le _ _

end RootCause
