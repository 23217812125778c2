import RootCause.Source.Statement

/-!
Answers of statements over the tables. Rows under a restriction are grouped and summed up by the
sub-selects, and each key that one of them has is looked up in all of them.
-/

namespace RootCause

section Grouping

variable {α β : Type} (key : α → Option String)

/-- Puts a row at the end of the group of its key. A row without a key gets into none. -/
def addToGroup (groups : Dict (List α)) (row : α) : Dict (List α) :=
  match key row with
  | none => groups
  | some k => groups.insert k ((groups.get? k).getD [] ++ [row])

def groupBy (rows : List α) : Dict (List α) := rows.foldl (addToGroup key) .empty

/-- Each key of the rows with what its group comes to; none when a group comes to nothing. -/
def selectBy (aggregate : List α → Option β) (rows : List α) : Option (List (String × β)) :=
  (groupBy key rows).entries.mapM fun (k, group) => (aggregate group).map fun b => (k, b)

end Grouping

/-- What sessions come to. -/
structure SessionSums where
  sessions : Int
  atcSessions : Int

def SessionSums.ofAmounts (sessions atcSessions : List Amount) : Option SessionSums := do
  return ⟨← Amount.sum sessions, ← Amount.sum atcSessions⟩

namespace Tables

/-- The error of an answer whose sums do not fit. -/
def sumError : SourceError := .query "integer overflow"

/-- The error of a query with too many filters. -/
def depthError : SourceError := .query "condition is nested too deeply"

section Rows

def hourlyUnder (t : Tables) (r : Restriction) : List HourlyRow :=
  t.hourly.filter fun row => row.tenantId == r.tenant && r.range.containsText row.startText

def ordersUnder (t : Tables) (r : Restriction) : List OrderRow :=
  t.orders.filter fun row =>
    row.tenantId == r.tenant && r.range.containsText row.createdAt && r.meets row.dimensions

/-- Segment rows with a value in the column, by date. -/
def segmentsUnder (t : Tables) (column : String) (r : Restriction) : List SegmentRow :=
  (t.segments.filter fun row =>
    row.tenantId == r.tenant && WindowRange.daysContain r.range.start r.range.stop row.date &&
      (row.dimensions.get? column).isSome && r.meets row.dimensions).mergeSort
    fun a b => decide (a.date ≤ b.date)

/-- Order lines with a value in the column. -/
def orderLinesUnder (t : Tables) (column : String) (r : Restriction) : List OrderRow :=
  (t.ordersUnder r).filter fun row => (row.dimensions.get? column).isSome

end Rows

section Aggregates

def hourSums (rows : List HourlyRow) : Option SessionSums :=
  SessionSums.ofAmounts (rows.map (·.sessions)) (rows.map (·.atcSessions))

def segmentSums (rows : List SegmentRow) : Option SessionSums :=
  SessionSums.ofAmounts (rows.map (·.sessions)) (rows.map (·.atcSessions))

/-- Distinct names of orders. -/
def orderCount (orders : List OrderRow) : Nat := (orders.map (·.orderName)).eraseDups.length

/-- The largest text, none for no text. -/
def largest? (texts : List String) : Option String :=
  texts.foldl (fun best s =>
    match best with
    | none => some s
    | some b => some (if b < s then s else b)) none

def largestTitle? (rows : List SegmentRow) : Option String :=
  largest? (rows.filterMap (·.productTitle))

end Aggregates

/-- Totals under the restrictions. There is always a row, of zeros at the least. -/
def totalsUnder (t : Tables) (r : Restrictions) : Option TotalsRow := do
  let current ← hourSums (t.hourlyUnder r.currentSessions)
  let baseline ← hourSums (t.hourlyUnder r.baselineSessions)
  return {
    currentSessions := countOfSum current.sessions
    baselineSessions := countOfSum baseline.sessions
    currentAtcSessions := countOfSum current.atcSessions
    baselineAtcSessions := countOfSum baseline.atcSessions
    currentOrders := UInt64.ofNat (orderCount (t.ordersUnder r.currentOrders))
    baselineOrders := UInt64.ofNat (orderCount (t.ordersUnder r.baselineOrders)) }

/-- Figures of one value before they are counts. -/
structure ValueSums where
  value : String
  currentSessions : Int
  baselineSessions : Int
  currentAtcSessions : Int
  baselineAtcSessions : Int
  currentOrders : Nat
  baselineOrders : Nat

/-- More current sessions first, then by value. -/
def ValueSums.before (a b : ValueSums) : Bool :=
  decide (b.currentSessions < a.currentSessions) ||
    decide (a.currentSessions = b.currentSessions ∧ a.value ≤ b.value)

def ValueSums.row (title : Option String) (s : ValueSums) : DimensionRow where
  value := s.value
  productTitle := title
  currentSessions := countOfSum s.currentSessions
  baselineSessions := countOfSum s.baselineSessions
  currentAtcSessions := countOfSum s.currentAtcSessions
  baselineAtcSessions := countOfSum s.baselineAtcSessions
  currentOrders := UInt64.ofNat s.currentOrders
  baselineOrders := UInt64.ofNat s.baselineOrders

/-- What the sub-selects of a breakdown come to, key by key. -/
structure Selected where
  currentSessions : List (String × SessionSums)
  baselineSessions : List (String × SessionSums)
  currentOrders : List (String × Nat)
  baselineOrders : List (String × Nat)
  titles : List (String × Option String)

namespace Selected

/-- The union of the keys. A key that only has a title is none of them. -/
def keys (s : Selected) : List String :=
  (s.currentSessions.map (·.1) ++ s.baselineSessions.map (·.1) ++ s.currentOrders.map (·.1) ++
    s.baselineOrders.map (·.1)).eraseDups

/-- The figures of a key. A sub-select without the key counts zero. -/
def sums (s : Selected) (key : String) : ValueSums :=
  let current := (s.currentSessions.lookup key).getD ⟨0, 0⟩
  let baseline := (s.baselineSessions.lookup key).getD ⟨0, 0⟩
  { value := key
    currentSessions := current.sessions
    baselineSessions := baseline.sessions
    currentAtcSessions := current.atcSessions
    baselineAtcSessions := baseline.atcSessions
    currentOrders := (s.currentOrders.lookup key).getD 0
    baselineOrders := (s.baselineOrders.lookup key).getD 0 }

def title? (s : Selected) (key : String) : Option String := (s.titles.lookup key).getD none

def rows (s : Selected) : List DimensionRow :=
  ((s.keys.map s.sums).mergeSort ValueSums.before).map fun sums => sums.row (s.title? sums.value)

end Selected

section Select

variable (t : Tables) (column : String)

def sessionsBy (r : Restriction) : Option (List (String × SessionSums)) :=
  selectBy (·.dimensions.get? column) segmentSums (t.segmentsUnder column r)

def ordersBy (r : Restriction) : Option (List (String × Nat)) :=
  selectBy (·.dimensions.get? column) (fun lines => some (orderCount lines))
    (t.orderLinesUnder column r)

/-- Titles are those of products. -/
def titlesBy : Option Restriction → Option (List (String × Option String))
  | none => some []
  | some r =>
    selectBy (·.dimensions.get? productDimension) (fun rows => some (largestTitle? rows))
      (t.segmentsUnder productDimension r)

/-- Runs the sub-selects; none when a sum does not fit. -/
def select (r : Restrictions) (titles : Option Restriction) : Option Selected := do
  return {
    currentSessions := ← t.sessionsBy column r.currentSessions
    baselineSessions := ← t.sessionsBy column r.baselineSessions
    currentOrders := ← t.ordersBy column r.currentOrders
    baselineOrders := ← t.ordersBy column r.baselineOrders
    titles := ← t.titlesBy titles }

end Select

def totalsAnswer (t : Tables) (q : MetricQuery) : Option TotalsRow :=
  ((Restrictions.bind []).fill? q.parameters).bind t.totalsUnder

def breakdownAnswer (t : Tables) (q : BreakdownQuery) : Option (List DimensionRow) :=
  ((q.statement.bind.fill? q.parameters).bind fun (sums, titles) =>
    t.select q.statement.column sums titles).map Selected.rows

/-- Answers come from the tables alone. Only the allowed dimensions are answered, and not under
more filters than can be read. -/
def source (t : Tables) : Source where
  totals _ q :=
    match t.totalsAnswer q with
    | some row => .ok (some row)
    | none => .error sumError
  breakdown _ q :=
    if allowedDimensions.contains q.dimension then
      if deepestCondition < conditionDepth q.filters then .error depthError
      else match t.breakdownAnswer q with
        | some rows => .ok rows
        | none => .error sumError
    else .error (.unsupportedDimension q.dimension)

end Tables

end RootCause
