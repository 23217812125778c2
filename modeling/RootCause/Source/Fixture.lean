import RootCause.Json.Parser
import RootCause.Source.Basic

/-!
A source of canned rows.

A canned breakdown answers a query of its dimension when it has as many filters as the query
and every filter of the query is among them. The first one that does answers.
-/

namespace RootCause

/-- Canned rows of one dimension under some filters. -/
structure CannedBreakdown where
  dimension : String
  filters : List Filter
  rows : List DimensionRow
deriving DecidableEq

/-- All that a source of canned rows knows. -/
structure Fixture where
  totals : Option TotalsRow
  breakdowns : List CannedBreakdown
deriving DecidableEq

namespace CannedBreakdown

def answers (b : CannedBreakdown) (q : BreakdownQuery) : Bool :=
  b.dimension == q.dimension && b.filters.length == q.filters.length &&
    q.filters.all fun f => b.filters.contains f

def ofJson? (j : Json) : Option CannedBreakdown := do
  let r ← j.record? (.plain ["dimension", "filters", "rows"] 1)
  return {
    dimension := ← r.required "dimension" Json.toText?
    filters := ← r.orElse "filters" (Json.toList? Filter.ofJson?) []
    rows := ← r.orElse "rows" (Json.toList? DimensionRow.ofJson?) [] }

end CannedBreakdown

namespace Fixture

/-- The rows for a query; none when no canned breakdown answers it. -/
def rows (f : Fixture) (q : BreakdownQuery) : List DimensionRow :=
  match f.breakdowns.find? (·.answers q) with
  | some b => b.rows
  | none => []

def source (f : Fixture) : Source where
  totals _ _ := .ok f.totals
  breakdown _ q := .ok (f.rows q)

theorem source_stateless (f : Fixture) : f.source.Stateless := ⟨fun _ _ _ => rfl, fun _ _ _ => rfl⟩

def ofJson? (j : Json) : Option Fixture := do
  let r ← j.record? (.plain ["totals", "breakdowns"] 0)
  return {
    totals := ← r.optional "totals" TotalsRow.ofJson?
    breakdowns := ← r.orElse "breakdowns" (Json.toList? CannedBreakdown.ofJson?) [] }

/-- Reads the text of a fixture file. -/
def ofText? (text : String) : Option Fixture := (Json.ofText? text).bind ofJson?

end Fixture

end RootCause
