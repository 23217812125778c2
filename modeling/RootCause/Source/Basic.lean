import RootCause.Source.Query
import RootCause.Source.Rows

/-!
Sources of analytics, and computations that ask one.

An answer may depend on the queries before it. A source whose answers depend on the query
alone is `Stateless`.
-/

namespace RootCause

/-- Why a source gives no answer. -/
inductive SourceError where
  | connection (cause : String)
  | query (cause : String)
  | invalidQuery (cause : String)
  | unsupportedDimension (dimension : String)
deriving DecidableEq

def SourceError.message : SourceError → String
  | .connection cause => s!"data source connection error: {cause}"
  | .query cause => s!"query error: {cause}"
  | .invalidQuery cause => s!"invalid query: {cause}"
  | .unsupportedDimension dimension => s!"unsupported dimension '{dimension}'"

inductive Query where
  | totals (q : MetricQuery)
  | breakdown (q : BreakdownQuery)
deriving DecidableEq

/-- The queries sent so far, the first one first. -/
abbrev QueryLog := List Query

structure Source where
  totals : QueryLog → MetricQuery → Except SourceError (Option TotalsRow)
  breakdown : QueryLog → BreakdownQuery → Except SourceError (List DimensionRow)

/-- Answers that depend on the query alone. -/
structure Source.Stateless (s : Source) : Prop where
  totals (a b : QueryLog) (q : MetricQuery) : s.totals a q = s.totals b q
  breakdown (a b : QueryLog) (q : BreakdownQuery) : s.breakdown a q = s.breakdown b q

/-- A computation that sends queries. The log keeps what was sent before an error. -/
abbrev Inquiry := ExceptT SourceError (StateM QueryLog)

/-- The breakdown queries of a log. -/
def QueryLog.breakdowns (log : QueryLog) : List BreakdownQuery :=
  log.filterMap fun
    | .breakdown q => some q
    | .totals _ => none

namespace Source

/-- Answers every query, with no row. -/
def silent : Source where
  totals _ _ := .ok none
  breakdown _ _ := .ok []

/-- Logs a query and answers it. -/
def askTotals (s : Source) (q : MetricQuery) : Inquiry (Option TotalsRow) :=
  fun log => (s.totals log q, log ++ [.totals q])

def askBreakdown (s : Source) (q : BreakdownQuery) : Inquiry (List DimensionRow) :=
  fun log => (s.breakdown log q, log ++ [.breakdown q])

end Source

end RootCause
