import RootCause.Source.Tables

/-!
Table rows given as records of columns.

A text column takes an integer as its digits, a count column takes the text of an integer as
that integer. A column that has to hold a value refuses null; a count that is left out is
zero.
-/

namespace RootCause

namespace Amount

/-- The integer that a text denotes, also written with a point or an exponent. -/
def ofText (s : String) : Amount :=
  let cs := dropEndWhile Char.isWhitespace (s.toList.dropWhile Char.isWhitespace)
  let (negative, digits) := match cs with
    | '-' :: cs => (true, cs)
    | '+' :: cs => (false, cs)
    | cs => (false, cs)
  match Decimal.read? digits with
  | none => .text s
  | some d =>
    let (n, m) := d.ratio
    let value : Int := if negative then -(n / m : Nat) else (n / m : Nat)
    if d.pointPosition ≤ 20 ∧ n % m = 0 ∧ minInteger ≤ value ∧ value ≤ maxInteger then
      .integer value
    else .text s

end Amount

/-- The columns of a row, null for one that is given as null. -/
abbrev Columns := List (String × Json)

namespace Columns

/-- The text in a text column, none for null and for a column that is left out. -/
def text? (c : Columns) (name : String) : Option String :=
  match c.lookup name with
  | some (.string s) => some s
  | some (.number (.integer n)) => some (toString n)
  | _ => none

def amount? (c : Columns) (name : String) : Option Amount :=
  match c.lookup name with
  | some (.string s) => some (.ofText s)
  | some (.number (.integer n)) => some (.integer n)
  | _ => none

/-- A count column with the default zero. -/
def countColumn? (c : Columns) (name : String) : Option Amount :=
  match c.lookup name with
  | none => some (.integer 0)
  | some _ => c.amount? name

/-- The dimensions that a row knows. -/
def dimensions (c : Columns) : Dict String :=
  .ofList (allowedDimensions.filterMap fun d => (c.text? d).map fun value => (d, value))

/-- The columns of an object without any but the named ones. -/
def ofJson? (names : List String) : Json → Option Columns
  | .object members => if members.all (fun m => names.contains m.1) then some members else none
  | _ => none

end Columns

def HourlyRow.ofJson? (j : Json) : Option HourlyRow := do
  let c ← Columns.ofJson? ["tenant_id", "date", "hour", "sessions", "atc_sessions"] j
  return {
    tenantId := ← c.text? "tenant_id"
    date := ← c.text? "date"
    hour := ← c.amount? "hour"
    sessions := ← c.countColumn? "sessions"
    atcSessions := ← c.countColumn? "atc_sessions" }

def SegmentRow.ofJson? (j : Json) : Option SegmentRow := do
  let c ← Columns.ofJson?
    (["tenant_id", "date", "product_title", "sessions", "atc_sessions"] ++ allowedDimensions) j
  return {
    tenantId := ← c.text? "tenant_id"
    date := ← c.text? "date"
    productTitle := c.text? "product_title"
    dimensions := c.dimensions
    sessions := ← c.countColumn? "sessions"
    atcSessions := ← c.countColumn? "atc_sessions" }

def OrderRow.ofJson? (j : Json) : Option OrderRow := do
  let c ← Columns.ofJson? (["tenant_id", "order_name", "created_at"] ++ allowedDimensions) j
  return {
    tenantId := ← c.text? "tenant_id"
    orderName := ← c.text? "order_name"
    createdAt := ← c.text? "created_at"
    dimensions := c.dimensions }

/-- The tables of a record of row lists; a table that is left out is empty. -/
def Tables.ofJson? (j : Json) : Option Tables := do
  let rows {α : Type} (name : String) (decode : Json → Option α) : Option (List α) :=
    match j.get? name with
    | none | some .null => some []
    | some list => Json.toList? decode list
  return {
    hourly := ← rows "hourly_sessions" HourlyRow.ofJson?
    segments := ← rows "segment_sessions" SegmentRow.ofJson?
    orders := ← rows "orders" OrderRow.ofJson? }

end RootCause
