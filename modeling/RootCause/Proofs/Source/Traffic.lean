import RootCause.Proofs.Json.Record
import RootCause.Proofs.Source.Denotation
import RootCause.Proofs.Time.Day

/-!
Breakdowns as accounts of traffic. Every row of sessions that a query is about counts in the
answered row of its value and in no other.
-/

namespace RootCause

/-- A time of the years from 0 to 9999 that is no leap second. -/
structure DateTime.Ordinary (t : DateTime) : Prop where
  year : 0 ≤ t.year ∧ t.year ≤ 9999
  second : t.second ≠ 60

theorem DateTime.Ordinary.exists_day {t : DateTime} (h : t.Ordinary) :
    ∃ day, t.day? = some day ∧ t.dayText? = some day.text := by
  have found : t.day? = some _ := dif_pos h.year
  exact ⟨_, found, dayText?_of_day? found h.second⟩

structure WindowRange.Ordinary (w : WindowRange) : Prop where
  start : w.start.Ordinary
  stop : w.stop.Ordinary

/-- The windows that a breakdown compares. -/
inductive Side where
  | current
  | baseline

def BreakdownQuery.windowOn (q : BreakdownQuery) : Side → WindowRange
  | .current => q.window
  | .baseline => q.baselineWindow

/-- Not under more filters than can be read. -/
def BreakdownQuery.Readable (q : BreakdownQuery) : Prop :=
  conditionDepth q.filters ≤ deepestCondition

instance (q : BreakdownQuery) : Decidable q.Readable :=
  inferInstanceAs (Decidable (_ ≤ _))

def DimensionRow.sessionsOn (row : DimensionRow) : Side → Nat
  | .current => row.currentSessions.toNat
  | .baseline => row.baselineSessions.toNat

namespace SegmentRow

/-- A row of a day, with a count of sessions. -/
structure Regular (r : SegmentRow) : Prop where
  dated : ∃ day : Day, day.text = r.date
  counted : r.sessions.IsCount

/-- From the day of the start up to, without, the day of the end. -/
def IsWithin (r : SegmentRow) (w : WindowRange) : Prop :=
  ∃ day : Day, day.text = r.date ∧
    ∃ first ∈ w.start.day?, ∃ last ∈ w.stop.day?, first ≤ day ∧ day < last

/-- The rows that a query is about. Filters on other than the allowed dimensions do not count. -/
structure CountsFor (r : SegmentRow) (q : BreakdownQuery) (w : WindowRange) : Prop where
  tenant : r.tenantId = q.tenantId
  within : r.IsWithin w
  filters : ∀ f ∈ q.filters, f.dimension ∈ allowedDimensions →
    r.dimensions.get? f.dimension = some f.value

theorem countsFor_iff {r : SegmentRow} {q : BreakdownQuery} {w : WindowRange} :
    r.CountsFor q w ↔ r.tenantId = q.tenantId ∧ r.IsWithin w ∧
      ∀ f ∈ q.filters, f.dimension ∈ allowedDimensions →
        r.dimensions.get? f.dimension = some f.value :=
  ⟨fun h => ⟨h.tenant, h.within, h.filters⟩, fun h => ⟨h.1, h.2.1, h.2.2⟩⟩

theorem isWithin_iff {r : SegmentRow} {w : WindowRange} :
    r.IsWithin w ↔ ∃ day ∈ Day.ofText? r.date,
      ∃ first ∈ w.start.day?, ∃ last ∈ w.stop.day?, first ≤ day ∧ day < last := by
  simp only [IsWithin, Option.mem_def, Day.ofText?_eq_some_iff]

instance (r : SegmentRow) (w : WindowRange) : Decidable (r.IsWithin w) :=
  decidable_of_iff _ isWithin_iff.symm

instance (r : SegmentRow) (q : BreakdownQuery) (w : WindowRange) : Decidable (r.CountsFor q w) :=
  decidable_of_iff _ countsFor_iff.symm

def sessionsIn (rows : List SegmentRow) : Nat := (rows.map (·.sessions.count)).sum

theorem total_sessions (rows : List SegmentRow) :
    Amount.total (rows.map (·.sessions)) = sessionsIn rows :=
  congrArg List.sum (List.map_map ..)

end SegmentRow

open SegmentRow (sessionsIn)

/-- The rows of sessions that a query is about in one of its windows. -/
def Tables.traffic (t : Tables) (q : BreakdownQuery) (side : Side) : List SegmentRow :=
  t.segments.filter fun r => r.CountsFor q (q.windowOn side)

/-- Those of them whose value is known. -/
def Tables.knownTraffic (t : Tables) (q : BreakdownQuery) (side : Side) : List SegmentRow :=
  (t.traffic q side).filter fun r => (r.dimensions.get? q.dimension).isSome

/-- Those of them with one value. -/
def Tables.trafficOf (t : Tables) (q : BreakdownQuery) (side : Side) (value : String) :
    List SegmentRow :=
  (t.traffic q side).filter (·.dimensions.get? q.dimension == some value)

/-- Answered rows that account for the traffic a query is about. -/
structure Tables.Accounts (t : Tables) (q : BreakdownQuery) (rows : List DimensionRow) : Prop where
  distinct : (rows.map (·.value)).Nodup
  sorted : rows.Pairwise fun a b => b.sessionsOn .current < a.sessionsOn .current ∨
    a.sessionsOn .current = b.sessionsOn .current ∧ a.value ≤ b.value
  each : ∀ side, ∀ row ∈ rows, row.sessionsOn side = sessionsIn (t.trafficOf q side row.value)
  complete : ∀ side, ∀ r ∈ t.traffic q side, ∀ value ∈ r.dimensions.get? q.dimension,
    value ∈ rows.map (·.value)
  all : ∀ side, (rows.map (·.sessionsOn side)).sum = sessionsIn (t.knownTraffic q side)

theorem meetsFilters_iff {filters : List Filter} {dimensions : Dict String} :
    meetsFilters filters dimensions ↔ ∀ f ∈ filters, f.dimension ∈ allowedDimensions →
      dimensions.get? f.dimension = some f.value := by
  unfold meetsFilters
  simp only [List.all_eq_true, Bool.or_eq_true, Bool.not_eq_true', List.contains_eq_mem,
    decide_eq_false_iff_not, beq_iff_eq, ← imp_iff_not_or]

namespace Tables

variable {t : Tables} {q : BreakdownQuery}

section Segments

variable (regular : ∀ r ∈ t.segments, r.Regular) (ordinary : ∀ side, (q.windowOn side).Ordinary)
include regular ordinary

theorem daysContain_iff (side : Side) {r : SegmentRow} (member : r ∈ t.segments) :
    WindowRange.daysContain (q.windowOn side).start (q.windowOn side).stop r.date ↔
      r.IsWithin (q.windowOn side) := by
  obtain ⟨day, date⟩ := (regular r member).dated
  obtain ⟨first, start, startText⟩ := (ordinary side).start.exists_day
  obtain ⟨last, stop, stopText⟩ := (ordinary side).stop.exists_day
  rw [← date, WindowRange.daysContain_text startText stopText, SegmentRow.IsWithin, ← date, start,
    stop]
  simp [Day.text_inj]

theorem segmentsWithin_perm (side : Side) :
    (t.segmentsWithin q (q.windowOn side)).Perm (t.knownTraffic q side) := by
  unfold segmentsWithin segmentsBetween knownTraffic traffic
  refine (List.mergeSort_perm _ _).trans (.of_eq ?_)
  rw [List.filter_filter]
  refine List.filter_congr fun r member => ?_
  rw [Bool.eq_iff_iff]
  simp only [Bool.and_eq_true, beq_iff_eq, decide_eq_true_eq, SegmentRow.countsFor_iff,
    daysContain_iff regular ordinary side member, meetsFilters_iff]
  constructor
  · rintro ⟨⟨⟨tenant, within⟩, known⟩, filters⟩
    exact ⟨known, tenant, within, filters⟩
  · rintro ⟨known, tenant, within, filters⟩
    exact ⟨⟨⟨tenant, within⟩, known⟩, filters⟩

/-- The rows that are summed up for one value. -/
theorem segmentsOf_perm (side : Side) (value : String) :
    ((t.segmentsWithin q (q.windowOn side)).filter
      (·.dimensions.get? q.dimension == some value)).Perm (t.trafficOf q side value) := by
  refine ((segmentsWithin_perm regular ordinary side).filter _).trans (.of_eq ?_)
  unfold knownTraffic trafficOf
  rw [List.filter_filter]
  refine List.filter_congr fun r _ => ?_
  cases known : r.dimensions.get? q.dimension <;> simp

end Segments

section Sums

namespace ValueSums

def sessionsOn (s : ValueSums) : Side → Int
  | .current => s.currentSessions
  | .baseline => s.baselineSessions

def atcSessionsOn (s : ValueSums) : Side → Int
  | .current => s.currentAtcSessions
  | .baseline => s.baselineAtcSessions

def ordersOn (s : ValueSums) : Side → Nat
  | .current => s.currentOrders
  | .baseline => s.baselineOrders

end ValueSums

/-- The sum of a column for one value. -/
def sumOn (t : Tables) (q : BreakdownQuery) (value : String) (column : SegmentRow → Amount)
    (side : Side) : Option Int :=
  Amount.sum (((t.segmentsWithin q (q.windowOn side)).filter
    (·.dimensions.get? q.dimension == some value)).map column)

/-- The order lines that are counted for one value. -/
def countedLines (t : Tables) (q : BreakdownQuery) (value : String) (side : Side) :
    List OrderRow :=
  (t.orderLinesWithin q (q.windowOn side)).filter
    (·.dimensions.get? q.dimension == some value)

/-- What the figures of a value are made of. -/
theorem sums_of_sumsOf {value : String} {s : ValueSums} (h : t.sumsOf q value = some s) :
    s.value = value ∧ ∀ side, t.sumOn q value (·.sessions) side = some (s.sessionsOn side) ∧
      t.sumOn q value (·.atcSessions) side = some (s.atcSessionsOn side) ∧
      s.ordersOn side = orderCount (t.countedLines q value side) := by
  unfold sumsOf at h
  simp only [Option.bind_eq_bind, Option.bind_eq_some_iff] at h
  obtain ⟨current, sessions, baseline, sessions', atc, cart, atc', cart', made⟩ := h
  cases made
  refine ⟨rfl, fun side => ?_⟩
  cases side with
  | current => exact ⟨sessions, cart, rfl⟩
  | baseline => exact ⟨sessions', cart', rfl⟩

theorem exists_sumsOf {value : String}
    (sessions : ∀ side, ∃ n, t.sumOn q value (·.sessions) side = some n)
    (cart : ∀ side, ∃ n, t.sumOn q value (·.atcSessions) side = some n) :
    ∃ s, t.sumsOf q value = some s := by
  obtain ⟨current, summed⟩ := sessions .current
  obtain ⟨baseline, summed'⟩ := sessions .baseline
  obtain ⟨atc, carted⟩ := cart .current
  obtain ⟨atc', carted'⟩ := cart .baseline
  simp only [sumOn, BreakdownQuery.windowOn] at summed summed' carted carted'
  unfold sumsOf
  simp only [summed, summed', carted, carted', Option.bind_eq_bind, Option.bind_some,
    Option.pure_def]
  exact ⟨_, rfl⟩

theorem values_of_mapM {values : List String} {sums : List ValueSums}
    (h : values.mapM (t.sumsOf q) = some sums) : sums.map (·.value) = values := by
  induction values generalizing sums with
  | nil =>
      cases h
      rfl
  | cons value rest ih =>
      rw [List.mapM_cons] at h
      obtain ⟨s, here, h⟩ := Option.bind_eq_some_iff.1 h
      obtain ⟨others, later, h⟩ := Option.bind_eq_some_iff.1 h
      cases h
      rw [List.map_cons, (sums_of_sumsOf here).1, ih later]

/-- What an answer is made of. -/
theorem exists_sums_of_breakdown {rows : List DimensionRow} (h : t.breakdown q = some rows) :
    ∃ sums : List ValueSums, (sums.map (·.value)).Perm (t.answeredValues q) ∧
      (∀ s ∈ sums, t.sumsOf q s.value = some s) ∧ sums.Pairwise (·.before ·) ∧
      rows = sums.map fun s => s.row (t.title? q s.value) := by
  obtain ⟨sums, summed, made⟩ := Option.map_eq_some_iff.1 h
  have perm := List.mergeSort_perm sums ValueSums.before
  refine ⟨sums.mergeSort ValueSums.before, ?_, fun s member => ?_,
    List.pairwise_mergeSort before_trans before_total sums, made.symm⟩
  · exact (perm.map (·.value)).trans (.of_eq (values_of_mapM summed))
  · obtain ⟨value, -, here⟩ := Json.exists_of_mem_mapM summed s (perm.mem_iff.1 member)
    rw [(sums_of_sumsOf here).1]
    exact here

theorem exists_sumsOf_of_mem {rows : List DimensionRow} (h : t.breakdown q = some rows)
    {row : DimensionRow} (member : row ∈ rows) : ∃ s, t.sumsOf q row.value = some s := by
  obtain ⟨sums, -, summed, -, rfl⟩ := exists_sums_of_breakdown h
  obtain ⟨s, listed, rfl⟩ := List.mem_map.1 member
  exact ⟨s, summed s listed⟩

theorem exists_breakdown (each : ∀ value, ∃ s, t.sumsOf q value = some s) :
    ∃ rows, t.breakdown q = some rows := by
  obtain ⟨sums, made⟩ := exists_mapM_iff.2 fun value (_ : value ∈ t.answeredValues q) => each value
  unfold breakdown
  rw [made]
  exact ⟨_, rfl⟩

theorem source_breakdown_iff {log : QueryLog} {rows : List DimensionRow} :
    t.source.breakdown log q = .ok rows ↔
      q.dimension ∈ allowedDimensions ∧ q.Readable ∧ t.breakdown q = some rows := by
  rw [source_breakdown]
  unfold BreakdownQuery.Readable
  split
  · next allowed =>
    have listed := List.contains_iff_mem.1 allowed
    split
    · next deep => simp [Nat.not_le.2 deep]
    · next shallow =>
      have readable := Nat.not_lt.1 shallow
      cases answer : t.breakdown q with
      | none => simp
      | some rows' => simp [listed, readable]
  · next unknown =>
    have unlisted : q.dimension ∉ allowedDimensions := fun listed =>
      unknown (List.contains_iff_mem.2 listed)
    simp [unlisted]

end Sums

section Rows

/-- Rows of distinct values that are complete share out all that is known. -/
theorem sum_of_each {rows : List DimensionRow} {side : Side}
    (distinct : (rows.map (·.value)).Nodup)
    (each : ∀ row ∈ rows, row.sessionsOn side = sessionsIn (t.trafficOf q side row.value))
    (complete : ∀ r ∈ t.traffic q side, ∀ value ∈ r.dimensions.get? q.dimension,
      value ∈ rows.map (·.value)) :
    (rows.map (·.sessionsOn side)).sum = sessionsIn (t.knownTraffic q side) := by
  have groups := sum_of_groups (fun r : SegmentRow => r.sessions.count) distinct complete
  have shares : rows.map (·.sessionsOn side) =
      (rows.map (·.value)).map fun value => sessionsIn (t.trafficOf q side value) := by
    rw [List.map_map]
    exact List.map_congr_left each
  rw [shares]
  exact groups

variable (regular : ∀ r ∈ t.segments, r.Regular) (ordinary : ∀ side, (q.windowOn side).Ordinary)
include regular ordinary

theorem sumOn_eq_some_iff {column : SegmentRow → Amount}
    (counts : ∀ r ∈ t.segments, (column r).IsCount) {value : String} {side : Side} {n : Int} :
    t.sumOn q value column side = some n ↔
      n = Amount.total ((t.trafficOf q side value).map column) ∧
        (Amount.total ((t.trafficOf q side value).map column) : Int) ≤ Amount.maxInteger := by
  have perm := (segmentsOf_perm regular ordinary side value).map column
  have each : ∀ a ∈ (t.trafficOf q side value).map column, a.IsCount := by
    intro a listed
    obtain ⟨r, member, rfl⟩ := List.mem_map.1 listed
    exact counts r (List.mem_filter.1 (List.mem_filter.1 member).1).1
  rw [sumOn, Amount.sum_eq_some_iff fun a member => each a (perm.mem_iff.1 member),
    Amount.total_eq_of_perm perm]

theorem exists_sumOn_iff {column : SegmentRow → Amount}
    (counts : ∀ r ∈ t.segments, (column r).IsCount) {value : String} {side : Side} :
    (∃ n, t.sumOn q value column side = some n) ↔
      (Amount.total ((t.trafficOf q side value).map column) : Int) ≤ Amount.maxInteger := by
  simp only [sumOn_eq_some_iff regular ordinary counts, exists_eq_left]

theorem sessionsOn_of_sumsOf {value : String} {s : ValueSums} (h : t.sumsOf q value = some s)
    (side : Side) :
    s.sessionsOn side = sessionsIn (t.trafficOf q side value) ∧
      (sessionsIn (t.trafficOf q side value) : Int) ≤ Amount.maxInteger := by
  have counts : ∀ r ∈ t.segments, r.sessions.IsCount := fun r member => (regular r member).counted
  have summed := (sumOn_eq_some_iff regular ordinary counts).1 ((sums_of_sumsOf h).2 side).1
  rwa [SegmentRow.total_sessions] at summed

/-- No sum is cut on its way into a row. -/
theorem sessionsOn_row {value : String} {s : ValueSums} (h : t.sumsOf q value = some s)
    (title : Option String) (side : Side) :
    (s.row title).sessionsOn side = sessionsIn (t.trafficOf q side value) := by
  obtain ⟨summed, fits⟩ := sessionsOn_of_sumsOf regular ordinary h side
  have counted := toNat_countOfSum fits
  rw [← summed] at counted
  cases side with
  | current => exact counted
  | baseline => exact counted

theorem mem_answeredValues {side : Side} {r : SegmentRow} (member : r ∈ t.traffic q side)
    {value : String} (known : r.dimensions.get? q.dimension = some value) :
    value ∈ t.answeredValues q := by
  have within : r ∈ t.segmentsWithin q (q.windowOn side) := by
    rw [(segmentsWithin_perm regular ordinary side).mem_iff, knownTraffic, List.mem_filter]
    exact ⟨member, by rw [known]; rfl⟩
  have listed := List.mem_map_of_mem (f := (·.dimensions)) within
  unfold answeredValues valuesOf
  rw [List.mem_eraseDups, List.mem_filterMap]
  refine ⟨r.dimensions, ?_, known⟩
  simp only [List.mem_append]
  cases side with
  | current => exact .inl (.inl (.inl listed))
  | baseline => exact .inl (.inl (.inr listed))

/-- The order of the sums is that of the rows made of them. -/
theorem row_sorted_of_before {a b : ValueSums} (ha : t.sumsOf q a.value = some a)
    (hb : t.sumsOf q b.value = some b) (before : a.before b) (title title' : Option String) :
    (b.row title').sessionsOn .current < (a.row title).sessionsOn .current ∨
      (a.row title).sessionsOn .current = (b.row title').sessionsOn .current ∧
        a.value ≤ b.value := by
  have current : a.currentSessions = _ := (sessionsOn_of_sumsOf regular ordinary ha .current).1
  have current' : b.currentSessions = _ := (sessionsOn_of_sumsOf regular ordinary hb .current).1
  rw [sessionsOn_row regular ordinary ha, sessionsOn_row regular ordinary hb]
  rcases before_iff.1 before with more | ⟨same, le⟩
  · exact .inl (by omega)
  · exact .inr ⟨by omega, le⟩

theorem accounts_of_breakdown {rows : List DimensionRow} (h : t.breakdown q = some rows) :
    t.Accounts q rows := by
  obtain ⟨sums, perm, summed, sorted, rfl⟩ := exists_sums_of_breakdown h
  have values : (sums.map fun s => s.row (t.title? q s.value)).map (·.value) =
      sums.map (·.value) := by
    rw [List.map_map]
    rfl
  rw [← values] at perm
  have distinct := perm.nodup_iff.2 (nodup_eraseDups _)
  have each : ∀ side, ∀ row ∈ sums.map (fun s => s.row (t.title? q s.value)),
      row.sessionsOn side = sessionsIn (t.trafficOf q side row.value) := by
    intro side row member
    obtain ⟨s, listed, rfl⟩ := List.mem_map.1 member
    exact sessionsOn_row regular ordinary (summed s listed) _ side
  have complete : ∀ side, ∀ r ∈ t.traffic q side, ∀ value ∈ r.dimensions.get? q.dimension,
      value ∈ (sums.map fun s => s.row (t.title? q s.value)).map (·.value) :=
    fun side r member value known =>
      perm.mem_iff.2 (mem_answeredValues regular ordinary member known)
  refine ⟨distinct, List.pairwise_map.2 (sorted.imp_of_mem fun ha hb before => ?_), each, complete,
    fun side => sum_of_each distinct (each side) (complete side)⟩
  exact row_sorted_of_before regular ordinary (summed _ ha) (summed _ hb) before _ _

/-- There is an answer as long as the counts of the table do not add up to more than 64 bits. -/
theorem exists_breakdown_of_counts (cart : ∀ r ∈ t.segments, r.atcSessions.IsCount)
    (fits : (Amount.total (t.segments.map (·.sessions)) : Int) ≤ Amount.maxInteger)
    (cartFits : (Amount.total (t.segments.map (·.atcSessions)) : Int) ≤ Amount.maxInteger) :
    ∃ rows, t.breakdown q = some rows := by
  have sessions : ∀ r ∈ t.segments, r.sessions.IsCount := fun r member => (regular r member).counted
  have part : ∀ (column : SegmentRow → Amount) (value : String) (side : Side),
      Amount.total ((t.trafficOf q side value).map column) ≤
        Amount.total (t.segments.map column) := fun column value side =>
    Amount.total_le_of_sublist ((List.filter_sublist.trans List.filter_sublist).map column)
  refine exists_breakdown fun value => exists_sumsOf (fun side => ?_) fun side => ?_
  · exact (exists_sumOn_iff regular ordinary sessions).2
      (Int.le_trans (Int.ofNat_le.2 (part _ value side)) fits)
  · exact (exists_sumOn_iff regular ordinary cart).2
      (Int.le_trans (Int.ofNat_le.2 (part _ value side)) cartFits)

end Rows

end Tables

end RootCause
