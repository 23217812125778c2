import RootCause.Source.Tables

/-!
The statements that ask the tables. Tenants, bounds of time and values stand open in their
sub-selects, and the parameters of a query fill the places from left to right.
-/

namespace RootCause

/-- What fills an open place. A time is written as its text. -/
inductive Parameter where
  | text (s : String)
  | time (t : DateTime)
deriving DecidableEq

/-- The parameters of one sub-select. -/
def Parameter.ofRange (tenant : String) (values : List String) (range : WindowRange) :
    List Parameter :=
  .text tenant :: .time range.start :: .time range.stop :: values.map .text

/-- Fills open places, each with the next parameter. It fails when none is left and when the next
one is of the other kind. -/
abbrev Binding := StateT (List Parameter) Option

namespace Binding

def text : Binding String
  | .text s :: rest => some (s, rest)
  | _ => none

def time : Binding DateTime
  | .time t :: rest => some (t, rest)
  | _ => none

/-- What is bound when the parameters are as many as the places. -/
def fill? {α : Type} (b : Binding α) (parameters : List Parameter) : Option α :=
  match b parameters with
  | some (a, []) => some a
  | _ => none

end Binding

/-- What a sub-select demands of its rows: a tenant, a time, and values in some columns. -/
structure Restriction where
  tenant : String
  range : WindowRange
  filters : List Filter

namespace Restriction

/-- The open places of a sub-select: the tenant, both bounds, and a value for each column. -/
def bind (columns : List String) : Binding Restriction := do
  let tenant ← Binding.text
  let start ← Binding.time
  let stop ← Binding.time
  let filters ← columns.mapM fun column => return ⟨column, ← Binding.text⟩
  return { tenant, range := ⟨start, stop⟩, filters }

/-- Whether the demanded values are there. -/
def meets (r : Restriction) (dimensions : Dict String) : Bool :=
  r.filters.all fun f => dimensions.get? f.dimension == some f.value

end Restriction

/-- The sub-selects that every statement begins with. -/
structure Restrictions where
  currentSessions : Restriction
  baselineSessions : Restriction
  currentOrders : Restriction
  baselineOrders : Restriction

namespace Restrictions

def bind (columns : List String) : Binding Restrictions := do
  return {
    currentSessions := ← Restriction.bind columns
    baselineSessions := ← Restriction.bind columns
    currentOrders := ← Restriction.bind columns
    baselineOrders := ← Restriction.bind columns }

def parameters (tenant : String) (values : List String) (window baseline : WindowRange) :
    List Parameter :=
  [window, baseline, window, baseline].flatMap (Parameter.ofRange tenant values)

end Restrictions

/-- The statement of a breakdown: the column that it groups by, the columns with an open value in
every sub-select, and whether titles are selected too. -/
structure BreakdownStatement where
  column : String
  filtered : List String
  titled : Bool

def BreakdownStatement.bind (s : BreakdownStatement) :
    Binding (Restrictions × Option Restriction) := do
  let sums ← Restrictions.bind s.filtered
  if s.titled then return (sums, some (← Restriction.bind s.filtered)) else return (sums, none)

namespace BreakdownQuery

/-- The filters that get into a statement. Those on other dimensions are dropped. -/
def knownFilters (q : BreakdownQuery) : List Filter :=
  q.filters.filter fun f => allowedDimensions.contains f.dimension

def statement (q : BreakdownQuery) : BreakdownStatement where
  column := q.dimension
  filtered := q.knownFilters.map (·.dimension)
  titled := q.wantsTitles

/-- The parameters in the order of the places. Titles are sought from the start of the baseline to
the end of the current window. -/
def parameters (q : BreakdownQuery) : List Parameter :=
  let values := q.knownFilters.map (·.value)
  let titles :=
    if q.wantsTitles then
      Parameter.ofRange q.tenantId values ⟨q.baselineWindow.start, q.window.stop⟩
    else []
  Restrictions.parameters q.tenantId values q.window q.baselineWindow ++ titles

end BreakdownQuery

/-- The totals have no column to filter by. -/
def MetricQuery.parameters (q : MetricQuery) : List Parameter :=
  Restrictions.parameters q.tenantId [] q.window q.baselineWindow

/-- The deepest that the condition of a row may nest. -/
def deepestCondition : Nat := 1000

/-- How deep the condition of a breakdown's rows nests. Tenant, days and dimension make up six
levels, and each filter that counts lies one level deeper. -/
def conditionDepth (filters : List Filter) : Nat :=
  6 + filters.countP fun f => allowedDimensions.contains f.dimension

end RootCause
