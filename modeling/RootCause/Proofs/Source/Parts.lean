import RootCause.Proofs.Source.Traffic

/-!
Breakdowns below an answered row. By whatever dimension the row is broken down, its parts account
for the sessions of the row, less those of which that dimension is unknown.
-/

namespace RootCause

open SegmentRow (sessionsIn)

/-- The breakdown of one answered row by another dimension. -/
def BreakdownQuery.into (q : BreakdownQuery) (row : DimensionRow) (dimension : String) :
    BreakdownQuery :=
  q.refine dimension (q.filters ++ [⟨q.dimension, row.value⟩])

namespace Tables

variable {t : Tables} {q : BreakdownQuery}

section Into

variable {row : DimensionRow} {dimension : String}

theorem windowOn_into (side : Side) : (q.into row dimension).windowOn side = q.windowOn side := by
  cases side <;> rfl

theorem ordinary_into (ordinary : ∀ side, (q.windowOn side).Ordinary) (side : Side) :
    ((q.into row dimension).windowOn side).Ordinary :=
  (windowOn_into side).symm ▸ ordinary side

/-- The parts of a row are about the rows of its value. -/
theorem traffic_into (allowed : q.dimension ∈ allowedDimensions) (side : Side) :
    t.traffic (q.into row dimension) side = t.trafficOf q side row.value := by
  unfold trafficOf traffic
  rw [List.filter_filter]
  refine List.filter_congr fun r _ => ?_
  have filters : (q.into row dimension).filters = q.filters ++ [⟨q.dimension, row.value⟩] := rfl
  have tenant : (q.into row dimension).tenantId = q.tenantId := rfl
  rw [Bool.eq_iff_iff]
  simp only [decide_eq_true_eq, Bool.and_eq_true, beq_iff_eq, SegmentRow.countsFor_iff,
    windowOn_into, filters, tenant, List.forall_mem_append, List.forall_mem_singleton, allowed,
    true_implies]
  constructor
  · rintro ⟨own, within, met, value⟩
    exact ⟨value, own, within, met⟩
  · rintro ⟨value, own, within, met⟩
    exact ⟨own, within, met, value⟩

variable (regular : ∀ r ∈ t.segments, r.Regular) (ordinary : ∀ side, (q.windowOn side).Ordinary)
include regular ordinary

/-- A column that has a sum for a row has one for each part of it. -/
theorem exists_sumOn_into (allowed : q.dimension ∈ allowedDimensions)
    {column : SegmentRow → Amount} (counts : ∀ r ∈ t.segments, (column r).IsCount) {side : Side}
    (summed : ∃ n, t.sumOn q row.value column side = some n) (value : String) :
    ∃ n, t.sumOn (q.into row dimension) value column side = some n := by
  have part : (t.trafficOf (q.into row dimension) side value).Sublist
      (t.trafficOf q side row.value) := by
    rw [← traffic_into allowed]
    exact List.filter_sublist
  have less := Int.ofNat_le.2 (Amount.total_le_of_sublist (part.map column))
  have fits := (exists_sumOn_iff regular ordinary counts).1 summed
  exact (exists_sumOn_iff regular (ordinary_into ordinary) counts).2 (Int.le_trans less fits)

theorem exists_breakdown_into (allowed : q.dimension ∈ allowedDimensions)
    (cart : ∀ r ∈ t.segments, r.atcSessions.IsCount) {rows : List DimensionRow}
    (h : t.breakdown q = some rows) (member : row ∈ rows) :
    ∃ parts, t.breakdown (q.into row dimension) = some parts := by
  have sessions : ∀ r ∈ t.segments, r.sessions.IsCount := fun r listed => (regular r listed).counted
  obtain ⟨s, summed⟩ := exists_sumsOf_of_mem h member
  have sums := (sums_of_sumsOf summed).2
  refine exists_breakdown fun value => exists_sumsOf (fun side => ?_) fun side => ?_
  · exact exists_sumOn_into regular ordinary allowed sessions ⟨_, (sums side).1⟩ value
  · exact exists_sumOn_into regular ordinary allowed cart ⟨_, (sums side).2.1⟩ value

end Into

/-- An answer accounts for the traffic its query is about. The breakdown of one of its rows by
another dimension, which there is when both columns are counts and one filter more can be read,
shares out the sessions of the row. -/
theorem shares_of_breakdown {log : QueryLog} {rows : List DimensionRow}
    (regular : ∀ r ∈ t.segments, r.Regular) (ordinary : ∀ side, (q.windowOn side).Ordinary)
    (answered : t.source.breakdown log q = .ok rows) :
    t.Accounts q rows ∧
    ∀ row ∈ rows, ∀ dimension ∈ allowedDimensions, ∀ later : QueryLog,
      ((∀ r ∈ t.segments, r.atcSessions.IsCount) → (q.into row dimension).Readable →
        ∃ parts, t.source.breakdown later (q.into row dimension) = .ok parts) ∧
      ∀ parts, t.source.breakdown later (q.into row dimension) = .ok parts → ∀ side,
        (parts.map (·.sessionsOn side)).sum ≤ row.sessionsOn side ∧
        ((∀ r ∈ t.trafficOf q side row.value, (r.dimensions.get? dimension).isSome) →
          (parts.map (·.sessionsOn side)).sum = row.sessionsOn side) := by
  obtain ⟨allowed, -, made⟩ := source_breakdown_iff.1 answered
  have accounts := accounts_of_breakdown regular ordinary made
  refine ⟨accounts, fun row member dimension known later =>
    ⟨fun cart readable => ?_, fun parts below side => ?_⟩⟩
  · obtain ⟨parts, given⟩ := exists_breakdown_into regular ordinary allowed cart made member
    exact ⟨parts, source_breakdown_iff.2 ⟨known, readable, given⟩⟩
  · have given := (source_breakdown_iff.1 below).2.2
    have all := (accounts_of_breakdown regular (ordinary_into ordinary) given).all side
    rw [knownTraffic, traffic_into allowed] at all
    rw [all, accounts.each side row member]
    constructor
    · exact (List.filter_sublist.map _).sum_le_sum fun _ _ => Nat.zero_le _
    · intro complete
      exact congrArg sessionsIn (List.filter_eq_self.2 complete)

/-- Sessions of a product on the first of March, from a known or an unknown source. -/
def productRow (product : String) (source : Option String) (sessions : Nat) : SegmentRow where
  tenantId := "acme"
  date := "2025-03-01"
  productTitle := none
  dimensions :=
    .ofList ((productDimension, product) :: source.toList.map fun s => ("utm_source", s))
  sessions := .integer sessions
  atcSessions := .integer 0

/-- Two products, of one of which some sessions are from nowhere. -/
def twoProducts : Tables where
  hourly := []
  segments := [productRow "p1" (some "ads") 5, productRow "p1" none 2, productRow "p2" none 9]
  orders := []

/-- The products of March beside those of February. -/
def byProduct : BreakdownQuery where
  tenantId := "acme"
  dimension := productDimension
  window := ⟨⟨2025, 3, 1, 9, 30, 0, 0, by decide, by decide⟩,
    ⟨2025, 4, 1, 9, 30, 0, 0, by decide, by decide⟩⟩
  baselineWindow := ⟨⟨2025, 2, 1, 9, 30, 0, 0, by decide, by decide⟩,
    ⟨2025, 3, 1, 9, 30, 0, 0, by decide, by decide⟩⟩
  filters := []

theorem regular_twoProducts : ∀ r ∈ twoProducts.segments, r.Regular := by
  have dated : ∃ day : Day, day.text = "2025-03-01" :=
    ⟨⟨2025, 3, 1, by decide, by decide, by decide⟩, by decide +kernel⟩
  have each : ∀ product source sessions, (productRow product source sessions).Regular :=
    fun _ _ sessions => ⟨dated, sessions, rfl⟩
  simp only [twoProducts, List.forall_mem_cons]
  exact ⟨each .., each .., each .., nofun⟩

theorem ordinary_byProduct (side : Side) : (byProduct.windowOn side).Ordinary := by
  cases side with
  | current => exact ⟨⟨by decide, by decide⟩, ⟨by decide, by decide⟩⟩
  | baseline => exact ⟨⟨by decide, by decide⟩, ⟨by decide, by decide⟩⟩

/-- Of seven sessions of a product five have a source. -/
theorem shares_of_breakdown_twoProducts :
    ∃ rows, twoProducts.source.breakdown [] byProduct = .ok rows ∧
      twoProducts.Accounts byProduct rows ∧
      ∃ row ∈ rows, row.value = "p1" ∧ row.sessionsOn .current = 7 ∧
        ∃ parts, twoProducts.source.breakdown [] (byProduct.into row "utm_source") = .ok parts ∧
          (parts.map (·.sessionsOn .current)).sum = 5 := by
  have cart : ∀ r ∈ twoProducts.segments, r.atcSessions.IsCount := by
    simp only [twoProducts, List.forall_mem_cons]
    exact ⟨⟨0, rfl⟩, ⟨0, rfl⟩, ⟨0, rfl⟩, nofun⟩
  obtain ⟨rows, made⟩ := exists_breakdown_of_counts (q := byProduct) regular_twoProducts
    ordinary_byProduct cart (by decide) (by decide)
  have answered : twoProducts.source.breakdown [] byProduct = .ok rows :=
    source_breakdown_iff.2 ⟨by decide, by decide, made⟩
  obtain ⟨accounts, below⟩ := shares_of_breakdown regular_twoProducts ordinary_byProduct answered
  have counted : productRow "p1" none 2 ∈ twoProducts.traffic byProduct .current := by
    decide +kernel
  let ofFirst := twoProducts.trafficOf byProduct .current "p1"
  have seven : sessionsIn ofFirst = 7 := by decide +kernel
  have five : sessionsIn (ofFirst.filter fun r => (r.dimensions.get? "utm_source").isSome) = 5 := by
    decide +kernel
  obtain ⟨row, member, value⟩ := List.mem_map.1 (accounts.complete .current _ counted "p1" rfl)
  have sessions := accounts.each .current row member
  rw [value] at sessions
  have single : conditionDepth (byProduct.into row "utm_source").filters ≤ 6 + 1 :=
    Nat.add_le_add_left List.countP_le_length 6
  have readable : (byProduct.into row "utm_source").Readable := Nat.le_trans single (by decide)
  obtain ⟨parts, given⟩ := (below row member "utm_source" (by decide) []).1 cart readable
  have parted := shares_of_breakdown regular_twoProducts (ordinary_into ordinary_byProduct) given
  have all := parted.1.all .current
  rw [knownTraffic, traffic_into (by decide), value] at all
  exact ⟨rows, answered, accounts, row, member, value, sessions.trans seven, parts, given,
    all.trans five⟩

end Tables

end RootCause
