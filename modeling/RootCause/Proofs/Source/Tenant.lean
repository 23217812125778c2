import RootCause.Proofs.Source.Denotation

/-!
Tables seen by one tenant. Each row that counts towards an answer was picked for its tenant, so an
answer is the same from all tables that hold the same rows of the tenant it is for.
-/

namespace RootCause.Tables

/-- The rows of one tenant. -/
def ofTenant (t : Tables) (tenant : String) : Tables where
  hourly := t.hourly.filter (·.tenantId == tenant)
  segments := t.segments.filter (·.tenantId == tenant)
  orders := t.orders.filter (·.tenantId == tenant)

theorem filter_filter_and {α : Type} (rows : List α) (own counts : α → Bool) :
    (rows.filter own).filter (fun r => own r && counts r) =
      rows.filter fun r => own r && counts r := by
  rw [List.filter_filter]
  refine List.filter_congr fun r _ => ?_
  rw [Bool.and_right_comm, Bool.and_self]

variable (t : Tables)

theorem hourlyWithin_ofTenant (tenant : String) (w : WindowRange) :
    (t.ofTenant tenant).hourlyWithin tenant w = t.hourlyWithin tenant w :=
  filter_filter_and ..

theorem ordersWithin_ofTenant (tenant : String) (w : WindowRange) :
    (t.ofTenant tenant).ordersWithin tenant w = t.ordersWithin tenant w :=
  filter_filter_and ..

theorem totals_ofTenant (q : MetricQuery) : (t.ofTenant q.tenantId).totals q = t.totals q := by
  unfold totals
  simp only [hourlyWithin_ofTenant, ordersWithin_ofTenant]

section Breakdown

variable (q : BreakdownQuery)

theorem segmentsBetween_ofTenant (start stop : DateTime) :
    (t.ofTenant q.tenantId).segmentsBetween q start stop = t.segmentsBetween q start stop := by
  unfold segmentsBetween ofTenant
  simp only [Bool.and_assoc, filter_filter_and]

theorem segmentsWithin_ofTenant (w : WindowRange) :
    (t.ofTenant q.tenantId).segmentsWithin q w = t.segmentsWithin q w :=
  t.segmentsBetween_ofTenant q w.start w.stop

theorem orderLinesWithin_ofTenant (w : WindowRange) :
    (t.ofTenant q.tenantId).orderLinesWithin q w = t.orderLinesWithin q w := by
  unfold orderLinesWithin
  rw [ordersWithin_ofTenant]

theorem answeredValues_ofTenant :
    (t.ofTenant q.tenantId).answeredValues q = t.answeredValues q := by
  unfold answeredValues
  simp only [segmentsWithin_ofTenant, orderLinesWithin_ofTenant]

theorem sumsOf_ofTenant : (t.ofTenant q.tenantId).sumsOf q = t.sumsOf q := by
  funext value
  unfold sumsOf
  simp only [segmentsWithin_ofTenant, orderLinesWithin_ofTenant]

theorem title?_ofTenant : (t.ofTenant q.tenantId).title? q = t.title? q := by
  funext value
  unfold title?
  rw [segmentsBetween_ofTenant]

theorem breakdown_ofTenant : (t.ofTenant q.tenantId).breakdown q = t.breakdown q := by
  unfold breakdown
  rw [answeredValues_ofTenant, sumsOf_ofTenant, title?_ofTenant]

end Breakdown

/-- Rows of other tenants have no influence on an answer, nor on whether there is one. -/
theorem answers_of_ofTenant_eq {t t' : Tables} {tenant : String}
    (same : t.ofTenant tenant = t'.ofTenant tenant) (log : QueryLog) :
    (∀ q : MetricQuery, q.tenantId = tenant →
      t.source.totals log q = t'.source.totals log q) ∧
    ∀ q : BreakdownQuery, q.tenantId = tenant →
      t.source.breakdown log q = t'.source.breakdown log q := by
  constructor
  · rintro q rfl
    have totals : t.totals q = t'.totals q := by
      rw [← t.totals_ofTenant, same, t'.totals_ofTenant]
    rw [source_totals, source_totals, totals]
  · rintro q rfl
    have rows : t.breakdown q = t'.breakdown q := by
      rw [← t.breakdown_ofTenant, same, t'.breakdown_ofTenant]
    rw [source_breakdown, source_breakdown, rows]

/-- Tables of one small tenant and of neighbours. -/
def besideAcme (hourly : List HourlyRow) (segments : List SegmentRow) : Tables where
  hourly := ⟨"acme", "2024-03-01", .integer 9, .integer 5, .integer 1⟩ :: hourly
  segments :=
    ⟨"acme", "2024-03-01", some "Mug", .ofList [(productDimension, "p1")], .integer 5, .integer 1⟩
      :: segments
  orders := []

/-- An hour with as many sessions as one row can count. -/
def fullHour : HourlyRow :=
  ⟨"globex", "2024-03-01", .integer 9, .integer Amount.maxInteger, .integer 0⟩

def otherTitle : SegmentRow :=
  ⟨"globex", "2024-03-01", some "Vase", .ofList [(productDimension, "p1")], .integer 9, .integer 0⟩

/-- The first week of March and the one before, from six in the morning. -/
def marchWeek : WindowRange × WindowRange :=
  let day (month day : Nat) (h : ValidDate 2024 month day) : DateTime :=
    ⟨2024, month, day, 6, 0, 0, 0, h, by decide⟩
  (⟨day 3 1 (by decide), day 3 8 (by decide)⟩, ⟨day 2 23 (by decide), day 3 1 (by decide)⟩)

/-- Two full hours of a neighbour overflow its own totals, and nobody else's. -/
theorem answers_besideAcme :
    let alone := besideAcme [] []
    let crowded := besideAcme [fullHour, fullHour] [otherTitle]
    let totalsOf (tenant : String) : MetricQuery := ⟨tenant, [], marchWeek.1, marchWeek.2⟩
    let products : BreakdownQuery :=
      ⟨"acme", productDimension, marchWeek.1, marchWeek.2, []⟩
    alone.ofTenant "acme" = crowded.ofTenant "acme" ∧
      crowded.source.totals [] (totalsOf "globex") = .error sumError ∧
      alone.source.totals [] (totalsOf "acme") = crowded.source.totals [] (totalsOf "acme") ∧
      alone.source.breakdown [] products = crowded.source.breakdown [] products := by
  intro alone crowded totalsOf products
  have same : alone.ofTenant "acme" = crowded.ofTenant "acme" := by decide +kernel
  have overflow : crowded.totals (totalsOf "globex") = none := by decide +kernel
  have answers := answers_of_ofTenant_eq same []
  have refused : crowded.source.totals [] (totalsOf "globex") = .error sumError := by
    rw [source_totals, overflow]
  exact ⟨same, refused, answers.1 _ rfl, answers.2 _ rfl⟩

end RootCause.Tables
