import RootCause.Proofs.Source.Parts

/-!
Filters as conditions on rows. An answer depends on what its filters ask for, not on their order or
on how often one is given, and under more conditions no row has more of anything. Only their number
has a limit, beyond which there is no answer.
-/

namespace RootCause

/-- The same query under other filters. -/
def BreakdownQuery.under (q : BreakdownQuery) (filters : List Filter) : BreakdownQuery :=
  { q with filters }

/-- What the first filters ask of a row, the second ones ask too. Filters on other than the allowed
dimensions ask for nothing. -/
def NoStricter (few more : List Filter) : Prop :=
  ∀ f ∈ few, f.dimension ∈ allowedDimensions → f ∈ more

namespace DimensionRow

def atcSessionsOn (row : DimensionRow) : Side → Nat
  | .current => row.currentAtcSessions.toNat
  | .baseline => row.baselineAtcSessions.toNat

def ordersOn (row : DimensionRow) : Side → Nat
  | .current => row.currentOrders.toNat
  | .baseline => row.baselineOrders.toNat

end DimensionRow

section Conditions

variable {few more : List Filter}

theorem meetsFilters_of_noStricter (h : NoStricter few more) {dimensions : Dict String}
    (met : meetsFilters more dimensions) : meetsFilters few dimensions := by
  rw [meetsFilters_iff] at met ⊢
  exact fun f listed allowed => met f (h f listed allowed) allowed

/-- Filters that ask for the same are met by the same rows. -/
theorem meetsFilters_eq (h : NoStricter few more) (h' : NoStricter more few) :
    meetsFilters few = meetsFilters more := by
  funext dimensions
  rw [Bool.eq_iff_iff]
  exact ⟨meetsFilters_of_noStricter h', meetsFilters_of_noStricter h⟩

end Conditions

namespace Tables

namespace ValueSums

theorem counts_row (s : ValueSums) (title : Option String) (side : Side) :
    (s.row title).sessionsOn side = (countOfSum (s.sessionsOn side)).toNat ∧
      (s.row title).atcSessionsOn side = (countOfSum (s.atcSessionsOn side)).toNat ∧
      (s.row title).ordersOn side = (UInt64.ofNat (s.ordersOn side)).toNat := by
  cases side with
  | current => exact ⟨rfl, rfl, rfl⟩
  | baseline => exact ⟨rfl, rfl, rfl⟩

end ValueSums

variable {t : Tables} {q : BreakdownQuery} {few more : List Filter}

theorem mem_answeredValues_iff {value : String} :
    value ∈ t.answeredValues q ↔ ∃ side,
      (∃ r ∈ t.segmentsWithin q (q.windowOn side), r.dimensions.get? q.dimension = some value) ∨
      ∃ r ∈ t.orderLinesWithin q (q.windowOn side), r.dimensions.get? q.dimension = some value := by
  rw [mem_answeredValues_iff_exists]
  constructor
  · rintro (((current | baseline) | current) | baseline)
    · exact ⟨.current, .inl current⟩
    · exact ⟨.baseline, .inl baseline⟩
    · exact ⟨.current, .inr current⟩
    · exact ⟨.baseline, .inr baseline⟩
  · rintro ⟨side, segments | orders⟩
    · cases side with
      | current => exact .inl (.inl (.inl segments))
      | baseline => exact .inl (.inl (.inr segments))
    · cases side with
      | current => exact .inl (.inr orders)
      | baseline => exact .inr orders

section Same

variable (same : meetsFilters few = meetsFilters more)
include same

theorem segmentsBetween_under (start stop : DateTime) :
    t.segmentsBetween (q.under few) start stop = t.segmentsBetween (q.under more) start stop := by
  unfold segmentsBetween BreakdownQuery.under
  dsimp only
  rw [same]

theorem orderLinesWithin_under (w : WindowRange) :
    t.orderLinesWithin (q.under few) w = t.orderLinesWithin (q.under more) w := by
  unfold orderLinesWithin BreakdownQuery.under
  dsimp only
  rw [same]

theorem answeredValues_under :
    t.answeredValues (q.under few) = t.answeredValues (q.under more) := by
  unfold answeredValues segmentsWithin
  simp only [segmentsBetween_under same, orderLinesWithin_under same]
  rfl

theorem sumsOf_under : t.sumsOf (q.under few) = t.sumsOf (q.under more) := by
  funext value
  unfold sumsOf segmentsWithin
  simp only [segmentsBetween_under same, orderLinesWithin_under same]
  rfl

theorem title?_under : t.title? (q.under few) = t.title? (q.under more) := by
  funext value
  unfold title?
  rw [segmentsBetween_under same]
  rfl

theorem breakdown_under : t.breakdown (q.under few) = t.breakdown (q.under more) := by
  unfold breakdown
  rw [answeredValues_under same, sumsOf_under same, title?_under same]

end Same

section Fewer

variable (h : NoStricter few more)
include h

theorem segmentsWithin_subperm (w : WindowRange) :
    (t.segmentsWithin (q.under more) w).Subperm (t.segmentsWithin (q.under few) w) := by
  unfold segmentsWithin segmentsBetween
  refine ((List.mergeSort_perm _ _).subperm.trans ?_).trans (List.mergeSort_perm _ _).symm.subperm
  refine (List.monotone_filter_right _ fun r counted => ?_).subperm
  rw [Bool.and_eq_true] at counted ⊢
  exact ⟨counted.1, meetsFilters_of_noStricter h counted.2⟩

theorem orderLinesWithin_sublist (w : WindowRange) :
    (t.orderLinesWithin (q.under more) w).Sublist (t.orderLinesWithin (q.under few) w) := by
  unfold orderLinesWithin
  refine List.monotone_filter_right _ fun r counted => ?_
  rw [Bool.and_eq_true] at counted ⊢
  exact ⟨counted.1, meetsFilters_of_noStricter h counted.2⟩

theorem answeredValues_subset :
    t.answeredValues (q.under more) ⊆ t.answeredValues (q.under few) := by
  intro value answered
  obtain ⟨side, ⟨r, member, known⟩ | ⟨r, member, known⟩⟩ := mem_answeredValues_iff.1 answered
  · have kept := (segmentsWithin_subperm h _).subset member
    exact mem_answeredValues_iff.2 ⟨side, .inl ⟨r, kept, known⟩⟩
  · have kept := (orderLinesWithin_sublist h _).subset member
    exact mem_answeredValues_iff.2 ⟨side, .inr ⟨r, kept, known⟩⟩

/-- The sum of a column for one value does not grow. -/
theorem sumOn_le {column : SegmentRow → Amount}
    (least : ∀ r ∈ t.segments, (column r).NonNegative) {value : String} {side : Side} {m n : Int}
    (part : t.sumOn (q.under more) value column side = some m)
    (whole : t.sumOn (q.under few) value column side = some n) :
    (countOfSum m).toNat ≤ (countOfSum n).toNat := by
  have fewer := (segmentsWithin_subperm (t := t) (q := q) h (q.windowOn side)).filter
    fun r => r.dimensions.get? q.dimension == some value
  obtain ⟨rows, perm, fewer⟩ := fewer
  refine countOfSum_le_of_subperm ⟨rows.map column, perm.map column, fewer.map column⟩
    (fun a member => ?_) part whole
  obtain ⟨r, counted, rfl⟩ := List.mem_map.1 member
  have within := (List.mergeSort_perm _ _).mem_iff.1 (List.mem_filter.1 counted).1
  exact least r (List.mem_filter.1 within).1

theorem orderCount_le (value : String) (side : Side) :
    orderCount (t.countedLines (q.under more) value side) ≤
      orderCount (t.countedLines (q.under few) value side) := by
  have lines := ((orderLinesWithin_sublist (t := t) (q := q) h (q.windowOn side)).filter
    (·.dimensions.get? q.dimension == some value)).map (·.orderName)
  refine (List.subperm_of_subset (nodup_eraseDups _) fun name listed => ?_).length_le
  exact List.mem_eraseDups.2 (lines.subset (List.mem_eraseDups.1 listed))

end Fewer

theorem orderCount_le_length (value : String) (side : Side) :
    orderCount (t.countedLines q value side) ≤ t.orders.length := by
  have lines : (t.countedLines q value side).Sublist t.orders :=
    (List.filter_sublist.trans List.filter_sublist).trans List.filter_sublist
  unfold orderCount
  have names := List.subperm_of_subset
    (nodup_eraseDups ((t.countedLines q value side).map (·.orderName)))
    fun name listed => List.mem_eraseDups.1 listed
  exact names.length_le.trans ((List.length_map _).le.trans lines.length_le)

/-- A row with no figure above those of another row. A number of orders is a count of 64 bits when
there are fewer order lines than that. -/
structure NoMore (t : Tables) (part whole : DimensionRow) : Prop where
  sessions : ∀ side, part.sessionsOn side ≤ whole.sessionsOn side
  atcSessions : ∀ side, part.atcSessionsOn side ≤ whole.atcSessionsOn side
  orders : t.orders.length < UInt64.size → ∀ side, part.ordersOn side ≤ whole.ordersOn side

/-- Rows of the same values as others, or of fewer, and of the same figures or smaller ones. -/
structure NarrowedTo (t : Tables) (rows parts : List DimensionRow) : Prop where
  values : parts.map (·.value) ⊆ rows.map (·.value)
  noMore : ∀ part ∈ parts, ∀ whole ∈ rows, part.value = whole.value → t.NoMore part whole

section Narrowed

variable (sessions : ∀ r ∈ t.segments, r.sessions.NonNegative)
  (cart : ∀ r ∈ t.segments, r.atcSessions.NonNegative) (h : NoStricter few more)
include sessions cart h

theorem noMore_of_sumsOf {value : String} {whole part : ValueSums}
    (all : t.sumsOf (q.under few) value = some whole)
    (some : t.sumsOf (q.under more) value = some part) (title title' : Option String) :
    t.NoMore (part.row title) (whole.row title') := by
  obtain ⟨-, all⟩ := sums_of_sumsOf all
  obtain ⟨-, some⟩ := sums_of_sumsOf some
  refine ⟨fun side => ?_, fun side => ?_, fun held side => ?_⟩
  · rw [(part.counts_row title side).1, (whole.counts_row title' side).1]
    exact sumOn_le h sessions (some side).1 (all side).1
  · rw [(part.counts_row title side).2.1, (whole.counts_row title' side).2.1]
    exact sumOn_le h cart (some side).2.1 (all side).2.1
  · have more := orderCount_le_length (t := t) (q := q.under few) value side
    have fewer := orderCount_le (t := t) (q := q) h value side
    rw [(part.counts_row title side).2.2, (whole.counts_row title' side).2.2, (some side).2.2,
      (all side).2.2, UInt64.toNat_ofNat_of_lt' (by omega), UInt64.toNat_ofNat_of_lt' (by omega)]
    exact fewer

theorem narrowedTo_of_breakdown {rows parts : List DimensionRow}
    (all : t.breakdown (q.under few) = some rows)
    (some : t.breakdown (q.under more) = some parts) : t.NarrowedTo rows parts := by
  obtain ⟨wholes, perm, sums, -, rfl⟩ := exists_sums_of_breakdown all
  obtain ⟨pieces, perm', sums', -, rfl⟩ := exists_sums_of_breakdown some
  constructor
  · have values (all : List ValueSums) (q : BreakdownQuery) :
        (all.map fun s => s.row (t.title? q s.value)).map (·.value) = all.map (·.value) := by
      rw [List.map_map]
      rfl
    rw [values, values]
    exact fun value listed =>
      perm.mem_iff.2 (answeredValues_subset h (perm'.mem_iff.1 listed))
  · simp only [List.forall_mem_map]
    intro piece listed whole listed' same
    have summed := sums whole listed'
    rw [← (show piece.value = whole.value from same)] at summed
    exact noMore_of_sumsOf sessions cart h summed (sums' piece listed) _ _

end Narrowed

theorem source_breakdown_eq_depthError {log : QueryLog} (allowed : q.dimension ∈ allowedDimensions)
    (unread : ¬q.Readable) : t.source.breakdown log q = .error depthError := by
  rw [source_breakdown, if_pos (List.contains_iff_mem.2 allowed), if_pos (Nat.not_le.1 unread)]

/-- An answer is the same under filters that ask for the same, in any order and any number of times,
and under more conditions there is no more of anything. Too many filters are refused. -/
theorem answers_of_filters {log log' : QueryLog}
    (sessions : ∀ r ∈ t.segments, r.sessions.NonNegative)
    (cart : ∀ r ∈ t.segments, r.atcSessions.NonNegative)
    (allowed : q.dimension ∈ allowedDimensions) :
    (∀ few more, (∀ f, f.dimension ∈ allowedDimensions → (f ∈ few ↔ f ∈ more)) →
      ((q.under few).Readable ↔ (q.under more).Readable) →
      t.source.breakdown log (q.under few) = t.source.breakdown log' (q.under more)) ∧
    (∀ filters, ¬(q.under filters).Readable →
      t.source.breakdown log (q.under filters) = .error depthError) ∧
    ∀ few more rows parts, NoStricter few more →
      t.source.breakdown log (q.under few) = .ok rows →
      t.source.breakdown log' (q.under more) = .ok parts → t.NarrowedTo rows parts := by
  refine ⟨fun few more same read => ?_, fun filters unread => ?_,
    fun few more rows parts stricter answered answered' => ?_⟩
  · have met : meetsFilters few = meetsFilters more :=
      meetsFilters_eq (fun f listed known => (same f known).1 listed)
        fun f listed known => (same f known).2 listed
    by_cases readable : (q.under few).Readable
    · have shallow := Nat.not_lt.2 readable
      have shallow' := Nat.not_lt.2 (read.1 readable)
      rw [source_breakdown, source_breakdown, if_neg shallow, if_neg shallow', breakdown_under met]
      rfl
    · have unread : ¬(q.under more).Readable := fun other => readable (read.2 other)
      rw [source_breakdown_eq_depthError (q := q.under few) allowed readable,
        source_breakdown_eq_depthError (q := q.under more) allowed unread]
  · exact source_breakdown_eq_depthError allowed unread
  · have made := (source_breakdown_iff.1 answered).2.2
    have made' := (source_breakdown_iff.1 answered').2.2
    exact narrowedTo_of_breakdown sessions cart stricter made made'

def fromAds : Filter := ⟨"utm_source", "ads"⟩

/-- A filter on a dimension that no row has. -/
def inRed : Filter := ⟨"colour", "red"⟩

theorem nonNegative_twoProducts : ∀ r ∈ twoProducts.segments,
    r.sessions.NonNegative ∧ r.atcSessions.NonNegative := by
  have each : ∀ (product : String) source (sessions : Nat),
      (productRow product source sessions).sessions.NonNegative ∧
        (productRow product source sessions).atcSessions.NonNegative := by
    intro product source sessions
    exact ⟨fun n same => by cases same; exact Int.natCast_nonneg _,
      fun n same => by cases same; exact Int.le_refl _⟩
  simp only [twoProducts, List.forall_mem_cons]
  exact ⟨each .., each .., each .., List.forall_mem_nil _⟩

/-- Of two products one has sessions from ads. -/
theorem answers_of_filters_fromAds :
    ∃ rows, twoProducts.source.breakdown [] (byProduct.under []) = .ok rows ∧
      twoProducts.source.breakdown [] (byProduct.under [fromAds]) =
        .ok [⟨"p1", none, 5, 0, 0, 0, 0, 0⟩] ∧
      twoProducts.source.breakdown [] (byProduct.under [fromAds, inRed, fromAds]) =
        .ok [⟨"p1", none, 5, 0, 0, 0, 0, 0⟩] ∧
      twoProducts.NarrowedTo rows [⟨"p1", none, 5, 0, 0, 0, 0, 0⟩] := by
  obtain ⟨same, -, narrowed⟩ := @answers_of_filters twoProducts byProduct [] []
    (fun r member => (nonNegative_twoProducts r member).1)
    (fun r member => (nonNegative_twoProducts r member).2) (by decide)
  have ordinary : ∀ side, ((byProduct.under []).windowOn side).Ordinary := by
    intro side
    cases side with
    | current => exact ordinary_byProduct .current
    | baseline => exact ordinary_byProduct .baseline
  have cart : ∀ r ∈ twoProducts.segments, r.atcSessions.IsCount := by
    simp only [twoProducts, List.forall_mem_cons]
    exact ⟨⟨0, rfl⟩, ⟨0, rfl⟩, ⟨0, rfl⟩, List.forall_mem_nil _⟩
  obtain ⟨rows, made⟩ := exists_breakdown_of_counts regular_twoProducts ordinary cart (by decide)
    (by decide)
  have answered : twoProducts.source.breakdown [] (byProduct.under []) = .ok rows :=
    source_breakdown_iff.2 ⟨by decide, by decide, made⟩
  have answered' : twoProducts.source.breakdown [] (byProduct.under [fromAds]) =
      .ok [⟨"p1", none, 5, 0, 0, 0, 0, 0⟩] := by decide +kernel
  have again : ∀ f, f.dimension ∈ allowedDimensions →
      (f ∈ [fromAds] ↔ f ∈ [fromAds, inRed, fromAds]) := by
    intro f known
    have other : f ≠ inRed := by
      rintro rfl
      exact absurd known (by decide)
    simp [other]
  have read : (byProduct.under [fromAds]).Readable ↔
      (byProduct.under [fromAds, inRed, fromAds]).Readable := by decide
  exact ⟨rows, answered, answered', (same _ _ again read).symm.trans answered',
    narrowed [] [fromAds] rows _ (List.forall_mem_nil _) answered answered'⟩

/-- One filter a thousand times is not one filter. -/
theorem refused_fromAds_thousandTimes :
    (∀ r ∈ twoProducts.segments, r.sessions.NonNegative ∧ r.atcSessions.NonNegative) ∧
    (∀ f, f ∈ [fromAds] ↔ f ∈ List.replicate 1000 fromAds) ∧
    twoProducts.source.breakdown [] (byProduct.under [fromAds]) =
      .ok [⟨"p1", none, 5, 0, 0, 0, 0, 0⟩] ∧
    twoProducts.source.breakdown [] (byProduct.under (List.replicate 1000 fromAds)) =
      .error depthError := by
  refine ⟨nonNegative_twoProducts, fun f => ?_, by decide +kernel, by decide +kernel⟩
  rw [List.mem_replicate, List.mem_singleton]
  exact ⟨fun same => ⟨by decide, same⟩, And.right⟩

end Tables

end RootCause
