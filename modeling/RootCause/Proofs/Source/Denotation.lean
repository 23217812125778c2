import RootCause.Proofs.Source.Binding
import RootCause.Proofs.Source.Grouping
import RootCause.Proofs.Source.Sums

/-!
What the statements answer. Totals count the rows of each window, and a breakdown has a row for
each value of its dimension, with the sums of the rows of this value.
-/

namespace RootCause

/-- Whether known dimensions meet the filters. Filters on other names do not count. -/
def meetsFilters (filters : List Filter) (dimensions : Dict String) : Bool :=
  filters.all fun f =>
    !allowedDimensions.contains f.dimension || dimensions.get? f.dimension == some f.value

namespace Tables

section Denotation

def hourlyWithin (t : Tables) (tenant : String) (w : WindowRange) : List HourlyRow :=
  t.hourly.filter fun r => r.tenantId == tenant && w.containsText r.startText

def ordersWithin (t : Tables) (tenant : String) (w : WindowRange) : List OrderRow :=
  t.orders.filter fun r => r.tenantId == tenant && w.containsText r.createdAt

/-- Totals of a tenant. There is always an answer, of zeros at the least. -/
def totals (t : Tables) (q : MetricQuery) : Option TotalsRow := do
  let current := t.hourlyWithin q.tenantId q.window
  let baseline := t.hourlyWithin q.tenantId q.baselineWindow
  return {
    currentSessions := countOfSum (← Amount.sum (current.map (·.sessions)))
    baselineSessions := countOfSum (← Amount.sum (baseline.map (·.sessions)))
    currentAtcSessions := countOfSum (← Amount.sum (current.map (·.atcSessions)))
    baselineAtcSessions := countOfSum (← Amount.sum (baseline.map (·.atcSessions)))
    currentOrders := UInt64.ofNat (orderCount (t.ordersWithin q.tenantId q.window))
    baselineOrders := UInt64.ofNat (orderCount (t.ordersWithin q.tenantId q.baselineWindow)) }

/-- Segment rows that a query counts between two days: those of its tenant that know its
dimension and meet its filters, by date. -/
def segmentsBetween (t : Tables) (q : BreakdownQuery) (start stop : DateTime) :
    List SegmentRow :=
  (t.segments.filter fun r =>
    r.tenantId == q.tenantId && WindowRange.daysContain start stop r.date &&
      (r.dimensions.get? q.dimension).isSome && meetsFilters q.filters r.dimensions).mergeSort
    fun a b => decide (a.date ≤ b.date)

def segmentsWithin (t : Tables) (q : BreakdownQuery) (w : WindowRange) : List SegmentRow :=
  t.segmentsBetween q w.start w.stop

/-- Order lines that a query counts in a window. -/
def orderLinesWithin (t : Tables) (q : BreakdownQuery) (w : WindowRange) : List OrderRow :=
  (t.ordersWithin q.tenantId w).filter fun r =>
    (r.dimensions.get? q.dimension).isSome && meetsFilters q.filters r.dimensions

/-- The values of the query's dimension in rows, each once. -/
def valuesOf (q : BreakdownQuery) (rows : List (Dict String)) : List String :=
  (rows.filterMap (·.get? q.dimension)).eraseDups

/-- The values that an answer has a row for. -/
def answeredValues (t : Tables) (q : BreakdownQuery) : List String :=
  valuesOf q
    ((t.segmentsWithin q q.window).map (·.dimensions) ++
      (t.segmentsWithin q q.baselineWindow).map (·.dimensions) ++
      (t.orderLinesWithin q q.window).map (·.dimensions) ++
      (t.orderLinesWithin q q.baselineWindow).map (·.dimensions))

/-- The title of a product: the largest one between the start of the baseline and the end of
the current window. -/
def title? (t : Tables) (q : BreakdownQuery) (value : String) : Option String :=
  if q.wantsTitles then
    let rows := t.segmentsBetween q q.baselineWindow.start q.window.stop
    largest? ((rows.filter fun r => r.dimensions.get? q.dimension == some value).filterMap
      (·.productTitle))
  else none

def sumsOf (t : Tables) (q : BreakdownQuery) (value : String) : Option ValueSums := do
  let isValue (d : Dict String) : Bool := d.get? q.dimension == some value
  let current := (t.segmentsWithin q q.window).filter (isValue ·.dimensions)
  let baseline := (t.segmentsWithin q q.baselineWindow).filter (isValue ·.dimensions)
  return {
    value
    currentSessions := ← Amount.sum (current.map (·.sessions))
    baselineSessions := ← Amount.sum (baseline.map (·.sessions))
    currentAtcSessions := ← Amount.sum (current.map (·.atcSessions))
    baselineAtcSessions := ← Amount.sum (baseline.map (·.atcSessions))
    currentOrders := orderCount ((t.orderLinesWithin q q.window).filter (isValue ·.dimensions))
    baselineOrders :=
      orderCount ((t.orderLinesWithin q q.baselineWindow).filter (isValue ·.dimensions)) }

/-- One row for each value; none when a sum does not fit. -/
def breakdown (t : Tables) (q : BreakdownQuery) : Option (List DimensionRow) :=
  ((t.answeredValues q).mapM (t.sumsOf q)).map fun sums =>
    (sums.mergeSort ValueSums.before).map fun s => s.row (t.title? q s.value)

end Denotation

section Rows

variable (t : Tables) (q : BreakdownQuery)

theorem meets_knownFilters (tenant : String) (range : WindowRange) (dimensions : Dict String) :
    (Restriction.mk tenant range q.knownFilters).meets dimensions =
      meetsFilters q.filters dimensions := by
  unfold Restriction.meets BreakdownQuery.knownFilters meetsFilters
  exact List.all_filter ..

theorem segmentsUnder_eq_between (start stop : DateTime) :
    t.segmentsUnder q.dimension ⟨q.tenantId, ⟨start, stop⟩, q.knownFilters⟩ =
      t.segmentsBetween q start stop := by
  unfold segmentsUnder segmentsBetween
  simp only [meets_knownFilters]

theorem segmentsUnder_eq (w : WindowRange) :
    t.segmentsUnder q.dimension ⟨q.tenantId, w, q.knownFilters⟩ = t.segmentsWithin q w :=
  t.segmentsUnder_eq_between q w.start w.stop

theorem orderLinesUnder_eq (w : WindowRange) :
    t.orderLinesUnder q.dimension ⟨q.tenantId, w, q.knownFilters⟩ = t.orderLinesWithin q w := by
  unfold orderLinesUnder ordersUnder orderLinesWithin ordersWithin
  simp only [meets_knownFilters, List.filter_filter]
  refine List.filter_congr fun r _ => ?_
  rw [Bool.and_comm, Bool.and_assoc, Bool.and_comm (meetsFilters ..), Bool.and_comm]

end Rows

section Totals

variable {t : Tables}

theorem hourlyUnder_eq (tenant : String) (w : WindowRange) :
    t.hourlyUnder ⟨tenant, w, []⟩ = t.hourlyWithin tenant w := rfl

theorem ordersUnder_eq (tenant : String) (w : WindowRange) :
    t.ordersUnder ⟨tenant, w, []⟩ = t.ordersWithin tenant w := by
  unfold ordersUnder ordersWithin
  simp only [Restriction.meets, List.all_nil, Bool.and_true]

/-- The statement of the totals answers them. -/
theorem totalsAnswer_eq (q : MetricQuery) : t.totalsAnswer q = t.totals q := by
  unfold totalsAnswer
  rw [q.fill?_parameters, Option.bind_some]
  unfold totalsUnder totals Restrictions.ofWindows hourSums SessionSums.ofAmounts
  simp only [hourlyUnder_eq, ordersUnder_eq, Option.bind_eq_bind, Option.bind_assoc,
    Option.pure_def, Option.bind_some]
  -- The sums of a window are taken together in the one and column by column in the other.
  refine congrArg (Option.bind _) (funext fun sessions => ?_)
  exact Option.bind_comm ..

end Totals

section Sums

variable {t : Tables} {q : BreakdownQuery}

theorem segmentSums_eq_some_iff {rows : List SegmentRow} {s : SessionSums} :
    segmentSums rows = some s ↔ Amount.sum (rows.map (·.sessions)) = some s.sessions ∧
      Amount.sum (rows.map (·.atcSessions)) = some s.atcSessions := by
  unfold segmentSums SessionSums.ofAmounts
  simp only [Option.bind_eq_bind, Option.bind_eq_some_iff, Option.pure_def, Option.some.injEq]
  constructor
  · rintro ⟨_, sessions, _, cart, rfl⟩
    exact ⟨sessions, cart⟩
  · rintro ⟨sessions, cart⟩
    exact ⟨_, sessions, _, cart, rfl⟩

/-- What the sub-selects of a query come to. -/
def selected? (t : Tables) (q : BreakdownQuery) : Option Selected :=
  t.select q.dimension (.ofWindows q.tenantId q.knownFilters q.window q.baselineWindow)
    q.titleRestriction?

theorem breakdownAnswer_eq_map : t.breakdownAnswer q = (t.selected? q).map Selected.rows := by
  unfold breakdownAnswer
  rw [q.fill?_statement]
  rfl

/-- What each of the sub-selects comes to. -/
structure Selected.Answers (s : Selected) (t : Tables) (q : BreakdownQuery) : Prop where
  currentSessions :
    t.sessionsBy q.dimension ⟨q.tenantId, q.window, q.knownFilters⟩ = some s.currentSessions
  baselineSessions :
    t.sessionsBy q.dimension ⟨q.tenantId, q.baselineWindow, q.knownFilters⟩ =
      some s.baselineSessions
  currentOrders :
    t.ordersBy q.dimension ⟨q.tenantId, q.window, q.knownFilters⟩ = some s.currentOrders
  baselineOrders :
    t.ordersBy q.dimension ⟨q.tenantId, q.baselineWindow, q.knownFilters⟩ = some s.baselineOrders
  titles : t.titlesBy q.titleRestriction? = some s.titles

theorem selected?_eq_some_iff {s : Selected} : t.selected? q = some s ↔ s.Answers t q := by
  unfold selected? select Restrictions.ofWindows
  simp only [Option.bind_eq_bind, Option.bind_eq_some_iff, Option.pure_def, Option.some.injEq]
  constructor
  · rintro ⟨_, current, _, baseline, _, orders, _, orders', _, titles, rfl⟩
    exact ⟨current, baseline, orders, orders', titles⟩
  · rintro ⟨current, baseline, orders, orders', titles⟩
    exact ⟨_, current, _, baseline, _, orders, _, orders', _, titles, rfl⟩

theorem mem_answeredValues_iff_exists {value : String} : value ∈ t.answeredValues q ↔
    (((∃ r ∈ t.segmentsWithin q q.window, r.dimensions.get? q.dimension = some value) ∨
      ∃ r ∈ t.segmentsWithin q q.baselineWindow, r.dimensions.get? q.dimension = some value) ∨
      ∃ r ∈ t.orderLinesWithin q q.window, r.dimensions.get? q.dimension = some value) ∨
      ∃ r ∈ t.orderLinesWithin q q.baselineWindow, r.dimensions.get? q.dimension = some value := by
  unfold answeredValues valuesOf
  simp only [List.mem_eraseDups, List.mem_append, List.filterMap_append, List.mem_filterMap,
    List.mem_map, exists_exists_and_eq_and]

theorem exists_segmentSums_of_sumsOf {value : String} (h : ∃ s, t.sumsOf q value = some s) :
    (∃ sums, segmentSums (rowsOf (·.dimensions.get? q.dimension) value
      (t.segmentsWithin q q.window)) = some sums) ∧
    ∃ sums, segmentSums (rowsOf (·.dimensions.get? q.dimension) value
      (t.segmentsWithin q q.baselineWindow)) = some sums := by
  unfold sumsOf at h
  simp only [Option.bind_eq_bind, Option.bind_eq_some_iff] at h
  obtain ⟨s, current, sessions, baseline, sessions', atc, cart, atc', cart', -⟩ := h
  exact ⟨⟨⟨current, atc⟩, segmentSums_eq_some_iff.2 ⟨sessions, cart⟩⟩,
    ⟨baseline, atc'⟩, segmentSums_eq_some_iff.2 ⟨sessions', cart'⟩⟩

theorem exists_sessionsBy {w : WindowRange}
    (each : ∀ value, (∃ r ∈ t.segmentsWithin q w, r.dimensions.get? q.dimension = some value) →
      ∃ sums, segmentSums (rowsOf (·.dimensions.get? q.dimension) value
        (t.segmentsWithin q w)) = some sums) :
    ∃ table, t.sessionsBy q.dimension ⟨q.tenantId, w, q.knownFilters⟩ = some table := by
  refine exists_selectBy ?_
  rw [segmentsUnder_eq]
  exact each

/-- The sub-selects sum up no other values than the answered ones. -/
theorem exists_selected (each : ∀ value ∈ t.answeredValues q, ∃ s, t.sumsOf q value = some s) :
    ∃ s, t.selected? q = some s := by
  have summed (value : String) (listed : value ∈ t.answeredValues q) :=
    exists_segmentSums_of_sumsOf (each value listed)
  obtain ⟨current, sessions⟩ := exists_sessionsBy fun value known =>
    (summed value (mem_answeredValues_iff_exists.2 (.inl (.inl (.inl known))))).1
  obtain ⟨baseline, sessions'⟩ := exists_sessionsBy fun value known =>
    (summed value (mem_answeredValues_iff_exists.2 (.inl (.inl (.inr known))))).2
  have counted (w : WindowRange) : ∃ table, t.ordersBy q.dimension
      ⟨q.tenantId, w, q.knownFilters⟩ = some table :=
    exists_selectBy fun value _ => ⟨_, rfl⟩
  obtain ⟨orders, names⟩ := counted q.window
  obtain ⟨orders', names'⟩ := counted q.baselineWindow
  obtain ⟨titles, shown⟩ : ∃ table, t.titlesBy q.titleRestriction? = some table := by
    cases q.titleRestriction? with
    | none => exact ⟨[], rfl⟩
    | some r =>
        unfold titlesBy
        exact exists_selectBy fun value _ => ⟨_, rfl⟩
  exact ⟨⟨current, baseline, orders, orders', titles⟩,
    selected?_eq_some_iff.2 ⟨sessions, sessions', names, names', shown⟩⟩

end Sums

section Order

theorem before_iff {a b : ValueSums} : a.before b ↔ b.currentSessions < a.currentSessions ∨
    a.currentSessions = b.currentSessions ∧ a.value ≤ b.value := by
  rw [ValueSums.before, Bool.or_eq_true, decide_eq_true_iff, decide_eq_true_iff]

theorem before_trans (a b c : ValueSums) (hab : a.before b) (hbc : b.before c) : a.before c := by
  rw [before_iff] at hab hbc ⊢
  rcases hab with more | ⟨same, le⟩ <;> rcases hbc with more' | ⟨same', le'⟩
  · exact .inl (by omega)
  · exact .inl (by omega)
  · exact .inl (by omega)
  · exact .inr ⟨same.trans same', String.le_trans le le'⟩

theorem before_total (a b : ValueSums) : a.before b || b.before a := by
  rw [Bool.or_eq_true, before_iff, before_iff]
  rcases Int.lt_trichotomy a.currentSessions b.currentSessions with less | same | more
  · exact .inr (.inl less)
  · rcases String.le_total a.value b.value with le | le
    · exact .inl (.inr ⟨same, le⟩)
    · exact .inr (.inr ⟨same.symm, le⟩)
  · exact .inl (.inl more)

theorem value_eq_of_before {a b : ValueSums} (hab : a.before b) (hba : b.before a) :
    a.value = b.value := by
  rw [before_iff] at hab hba
  rcases hab with more | ⟨same, le⟩ <;> rcases hba with more' | ⟨same', le'⟩
  · omega
  · omega
  · omega
  · exact String.le_antisymm le le'

/-- Figures by value are sorted alike whatever the order of the values was. -/
theorem mergeSort_map_eq_of_perm {sums : String → ValueSums} (own : ∀ v, (sums v).value = v)
    {values values' : List String} (perm : values.Perm values') :
    (values.map sums).mergeSort ValueSums.before =
      (values'.map sums).mergeSort ValueSums.before := by
  have sorted (all : List ValueSums) := List.pairwise_mergeSort before_trans before_total all
  have same := (List.mergeSort_perm (values.map sums) ValueSums.before).trans
    ((perm.map sums).trans (List.mergeSort_perm (values'.map sums) ValueSums.before).symm)
  refine same.eq_of_pairwise (fun a b ha hb hab hba => ?_) (sorted _) (sorted _)
  obtain ⟨v, -, rfl⟩ := List.mem_map.1 (List.mem_mergeSort.1 ha)
  obtain ⟨v', -, rfl⟩ := List.mem_map.1 (List.mem_mergeSort.1 hb)
  have value := value_eq_of_before hab hba
  rw [own, own] at value
  rw [value]

end Order

section Selected

variable {t : Tables} {q : BreakdownQuery} {s : Selected} (h : s.Answers t q)
include h

theorem sumsOf_of_selected (value : String) : t.sumsOf q value = some (s.sums value) := by
  have noSession : segmentSums [] = some ⟨0, 0⟩ := rfl
  have noOrder : some (orderCount []) = some 0 := rfl
  have sums := segmentSums_eq_some_iff.1
    (getD_lookup_of_selectBy h.currentSessions noSession value)
  have sums' := segmentSums_eq_some_iff.1
    (getD_lookup_of_selectBy h.baselineSessions noSession value)
  have names := Option.some.inj (getD_lookup_of_selectBy h.currentOrders noOrder value)
  have names' := Option.some.inj (getD_lookup_of_selectBy h.baselineOrders noOrder value)
  rw [segmentsUnder_eq] at sums sums'
  rw [orderLinesUnder_eq] at names names'
  unfold rowsOf at sums sums' names names'
  unfold sumsOf Selected.sums
  simp only [sums.1, sums.2, sums'.1, sums'.2, names, names', Option.bind_eq_bind,
    Option.bind_some, Option.pure_def]

theorem mem_keys_of_selected {value : String} : value ∈ s.keys ↔ value ∈ t.answeredValues q := by
  rw [mem_answeredValues_iff_exists]
  unfold Selected.keys
  simp only [List.mem_eraseDups, List.mem_append, mem_keys_of_selectBy h.currentSessions,
    mem_keys_of_selectBy h.baselineSessions, mem_keys_of_selectBy h.currentOrders,
    mem_keys_of_selectBy h.baselineOrders, segmentsUnder_eq, orderLinesUnder_eq]

theorem title?_of_selected (value : String) : s.title? value = t.title? q value := by
  have titles := h.titles
  unfold BreakdownQuery.titleRestriction? at titles
  unfold Selected.title? title?
  split
  · next titled =>
    have products : q.dimension = productDimension := beq_iff_eq.1 titled
    rw [if_pos titled, titlesBy, ← products, segmentsUnder_eq_between] at titles
    have noTitle : some (largestTitle? []) = some none := rfl
    exact (Option.some.inj (getD_lookup_of_selectBy titles noTitle value)).symm
  · next untitled =>
    rw [if_neg untitled, titlesBy] at titles
    rw [← Option.some.inj titles]
    rfl

theorem breakdown_of_selected : t.breakdown q = some s.rows := by
  have sums : t.sumsOf q = fun value => pure (s.sums value) := funext (sumsOf_of_selected h)
  have titles : t.title? q = s.title? := funext fun value => (title?_of_selected h value).symm
  have perm : (t.answeredValues q).Perm s.keys :=
    (List.perm_ext_iff_of_nodup (nodup_eraseDups _) (nodup_eraseDups _)).2
      fun value => (mem_keys_of_selected h).symm
  unfold breakdown Selected.rows
  rw [sums, List.mapM_pure, titles, ← mergeSort_map_eq_of_perm (fun v => rfl) perm]
  rfl

end Selected

section Answers

variable {t : Tables} {log : QueryLog}

/-- The statement of a breakdown answers it. -/
theorem breakdownAnswer_eq (q : BreakdownQuery) : t.breakdownAnswer q = t.breakdown q := by
  rw [breakdownAnswer_eq_map]
  cases selected : t.selected? q with
  | some s => exact (breakdown_of_selected (selected?_eq_some_iff.1 selected)).symm
  | none =>
      refine (Option.eq_none_iff_forall_not_mem.2 fun rows answered => ?_).symm
      obtain ⟨sums, summed, -⟩ := Option.map_eq_some_iff.1 answered
      obtain ⟨s, found⟩ := exists_selected (exists_mapM_iff.1 ⟨sums, summed⟩)
      rw [found] at selected
      cases selected

theorem source_totals (q : MetricQuery) : t.source.totals log q =
    match t.totals q with
    | some row => .ok (some row)
    | none => .error sumError := by
  rw [← totalsAnswer_eq]
  rfl

theorem source_breakdown (q : BreakdownQuery) : t.source.breakdown log q =
    if allowedDimensions.contains q.dimension then
      if deepestCondition < conditionDepth q.filters then .error depthError
      else match t.breakdown q with
        | some rows => .ok rows
        | none => .error sumError
    else .error (.unsupportedDimension q.dimension) := by
  rw [← breakdownAnswer_eq]
  rfl

end Answers

end Tables

end RootCause
