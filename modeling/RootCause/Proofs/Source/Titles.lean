import RootCause.Proofs.Source.Parts

/-!
Titles of products. An answered product has the largest title that it goes by from the start of the
baseline to the end of the current window. When the baseline begins and ends no later than the
current window, that time holds both windows. Otherwise rows are counted that give no title.
-/

namespace RootCause

/-- From the start of the baseline to the end of the current window. -/
def BreakdownQuery.titleSpan (q : BreakdownQuery) : WindowRange :=
  ⟨q.baselineWindow.start, q.window.stop⟩

/-- The rows that count towards one value in a range of days, whatever their dates and amounts are.
Filters on other than the allowed dimensions do not count. -/
structure SegmentRow.CountsTowards (r : SegmentRow) (q : BreakdownQuery) (w : WindowRange)
    (value : String) : Prop where
  tenant : r.tenantId = q.tenantId
  within : WindowRange.daysContain w.start w.stop r.date
  value : r.dimensions.get? q.dimension = some value
  filters : ∀ f ∈ q.filters, f.dimension ∈ allowedDimensions →
    r.dimensions.get? f.dimension = some f.value

section Days

/-- Not on a later day, both within the years from 0 to 9999. -/
def DateTime.NoLaterDay (s t : DateTime) : Prop :=
  ∃ first ∈ s.day?, ∃ second ∈ t.day?, first ≤ second

/-- The baseline begins and ends no later than the current window, neither begins it nor ends that
with a leap second. -/
structure BreakdownQuery.BaselineFirst (q : BreakdownQuery) : Prop where
  start : q.baselineWindow.start.NoLaterDay q.window.start
  stop : q.baselineWindow.stop.NoLaterDay q.window.stop
  notLeap : q.baselineWindow.start.second ≠ 60 ∧ q.window.stop.second ≠ 60

variable {s t : DateTime}

theorem DateTime.second_ne_of_dayText? {text : String} (h : t.dayText? = some text) :
    t.second ≠ 60 := by
  intro leap
  unfold dayText? at h
  dsimp only at h
  rw [if_pos (.inl leap)] at h
  cases h

theorem DateTime.NoLaterDay.refl (h : s.NoLaterDay t) : s.NoLaterDay s ∧ t.NoLaterDay t := by
  obtain ⟨first, found, second, found', -⟩ := h
  have same (day : Day) : day ≤ day := Day.text_le_text_iff.1 (String.le_refl _)
  exact ⟨⟨first, found, first, found, same first⟩, ⟨second, found', second, found', same second⟩⟩

theorem DateTime.NoLaterDay.dayText?_le (h : s.NoLaterDay t) (hs : s.second ≠ 60)
    (ht : t.second ≠ 60) : ∃ a ∈ s.dayText?, ∃ b ∈ t.dayText?, a ≤ b := by
  obtain ⟨first, found, second, found', le⟩ := h
  exact ⟨first.text, dayText?_of_day? found hs, second.text, dayText?_of_day? found' ht,
    Day.text_le_text_iff.2 le⟩

theorem WindowRange.daysContain_iff_exists {start stop : DateTime} {date : String} :
    daysContain start stop date ↔
      ∃ a ∈ start.dayText?, ∃ b ∈ stop.dayText?, a ≤ date ∧ date < b := by
  unfold daysContain
  cases start.dayText? with
  | none => simp
  | some a =>
      cases stop.dayText? with
      | none => simp
      | some b => simp

/-- A longer range of days has the days of the shorter one. -/
theorem WindowRange.daysContain_mono {start stop start' stop' : DateTime} {date : String}
    (begins : start'.NoLaterDay start) (ends : stop.NoLaterDay stop')
    (notLeap : start'.second ≠ 60 ∧ stop'.second ≠ 60) (h : daysContain start stop date) :
    daysContain start' stop' date := by
  obtain ⟨a, first, b, last, le, lt⟩ := daysContain_iff_exists.1 h
  obtain ⟨a', first', a'', found, earlier⟩ :=
    begins.dayText?_le notLeap.1 (DateTime.second_ne_of_dayText? first)
  obtain ⟨b'', found', b', last', later⟩ :=
    ends.dayText?_le (DateTime.second_ne_of_dayText? last) notLeap.2
  cases Option.mem_unique first found
  cases Option.mem_unique last found'
  exact daysContain_iff_exists.2
    ⟨a', first', b', last', String.le_trans earlier le, Std.lt_of_lt_of_le lt later⟩

theorem BreakdownQuery.BaselineFirst.daysContain {q : BreakdownQuery} (h : q.BaselineFirst)
    {side : Side} {date : String}
    (within : WindowRange.daysContain (q.windowOn side).start (q.windowOn side).stop date) :
    WindowRange.daysContain q.titleSpan.start q.titleSpan.stop date := by
  cases side with
  | current => exact WindowRange.daysContain_mono h.start h.stop.refl.2 h.notLeap within
  | baseline => exact WindowRange.daysContain_mono h.start.refl.1 h.stop h.notLeap within

end Days

namespace Tables

section Largest

theorem exists_largest (text : String) (texts : List String) :
    ∃ s, largest? (text :: texts) = some s ∧ s ∈ text :: texts ∧ ∀ u ∈ text :: texts, u ≤ s := by
  induction texts generalizing text with
  | nil => exact ⟨text, rfl, List.mem_cons_self, List.forall_mem_singleton.2 (String.le_refl _)⟩
  | cons next rest ih =>
      -- The larger of the first two stands for both.
      have larger : text ≤ (if text < next then next else text) ∧
          next ≤ (if text < next then next else text) := by
        split
        · next less => exact ⟨Std.le_of_lt less, String.le_refl _⟩
        · next more => exact ⟨String.le_refl _, String.not_lt.1 more⟩
      obtain ⟨s, found, member, greatest⟩ := ih (if text < next then next else text)
      obtain ⟨top, others⟩ := List.forall_mem_cons.1 greatest
      refine ⟨s, found, ?_, ?_⟩
      · rcases List.mem_cons.1 member with rfl | later
        · split
          · exact List.mem_cons_of_mem _ List.mem_cons_self
          · exact List.mem_cons_self
        · exact List.mem_cons_of_mem _ (List.mem_cons_of_mem _ later)
      · simp only [List.forall_mem_cons]
        exact ⟨String.le_trans larger.1 top, String.le_trans larger.2 top, others⟩

theorem largest?_eq_some_iff {texts : List String} {s : String} :
    largest? texts = some s ↔ s ∈ texts ∧ ∀ u ∈ texts, u ≤ s := by
  cases texts with
  | nil => simp [largest?]
  | cons text texts =>
      obtain ⟨best, found, member, greatest⟩ := exists_largest text texts
      rw [found, Option.some.injEq]
      constructor
      · rintro rfl
        exact ⟨member, greatest⟩
      · rintro ⟨listed, top⟩
        exact String.le_antisymm (top best member) (greatest s listed)

theorem isSome_largest?_iff {texts : List String} : (largest? texts).isSome ↔ ∃ s, s ∈ texts := by
  cases texts with
  | nil => simp [largest?]
  | cons text texts =>
      obtain ⟨best, found, -⟩ := exists_largest text texts
      exact iff_of_true (by rw [found]; rfl) ⟨text, List.mem_cons_self⟩

end Largest

section Rows

/-- The rows that are summed up for one value in a window. -/
def summedRows (t : Tables) (q : BreakdownQuery) (w : WindowRange) (value : String) :
    List SegmentRow :=
  (t.segmentsWithin q w).filter (·.dimensions.get? q.dimension == some value)

variable {t : Tables} {q : BreakdownQuery} {w : WindowRange} {value : String}

theorem mem_summedRows_iff {r : SegmentRow} :
    r ∈ t.summedRows q w value ↔ r ∈ t.segments ∧ r.CountsTowards q w value := by
  unfold summedRows segmentsWithin segmentsBetween
  simp only [List.mem_filter, List.mem_mergeSort, Bool.and_eq_true, beq_iff_eq]
  constructor
  · rintro ⟨⟨listed, ⟨⟨tenant, within⟩, -⟩, filters⟩, named⟩
    exact ⟨listed, tenant, within, named, meetsFilters_iff.1 filters⟩
  · rintro ⟨listed, counts⟩
    have known : (r.dimensions.get? q.dimension).isSome := by
      rw [counts.value]
      rfl
    exact ⟨⟨listed, ⟨⟨counts.tenant, counts.within⟩, known⟩, meetsFilters_iff.2 counts.filters⟩,
      counts.value⟩

/-- A title that a row towards a value carries in a range of days. -/
def IsTitleWithin (t : Tables) (q : BreakdownQuery) (w : WindowRange) (value title : String) :
    Prop :=
  ∃ r ∈ t.segments, r.CountsTowards q w value ∧ r.productTitle = some title

theorem mem_titles_iff {title : String} :
    title ∈ (t.summedRows q w value).filterMap (·.productTitle) ↔
      t.IsTitleWithin q w value title := by
  simp only [List.mem_filterMap, mem_summedRows_iff, and_assoc]
  exact Iff.rfl

theorem title?_of_wantsTitles (titled : q.wantsTitles) : t.title? q value =
    largest? ((t.summedRows q q.titleSpan value).filterMap (·.productTitle)) := if_pos titled

theorem title?_eq_some_iff (titled : q.wantsTitles) {title : String} :
    t.title? q value = some title ↔ t.IsTitleWithin q q.titleSpan value title ∧
      ∀ other, t.IsTitleWithin q q.titleSpan value other → other ≤ title := by
  rw [title?_of_wantsTitles titled, largest?_eq_some_iff]
  simp only [mem_titles_iff]

theorem isSome_title?_iff (titled : q.wantsTitles) :
    (t.title? q value).isSome ↔ ∃ title, t.IsTitleWithin q q.titleSpan value title := by
  rw [title?_of_wantsTitles titled, isSome_largest?_iff]
  simp only [mem_titles_iff]

theorem productTitle_of_breakdown {rows : List DimensionRow} (made : t.breakdown q = some rows) :
    ∀ row ∈ rows, row.productTitle = t.title? q row.value := by
  obtain ⟨sums, -, -, -, rfl⟩ := exists_sums_of_breakdown made
  exact List.forall_mem_map.2 fun s _ => rfl

/-- The titles of a row that is answered for a product. -/
structure Titles (t : Tables) (q : BreakdownQuery) (row : DimensionRow) : Prop where
  /-- Its sessions are those of the rows that are summed up in each window. -/
  counted : ∀ side, ∃ n,
    Amount.sum ((t.summedRows q (q.windowOn side) row.value).map (·.sessions)) = some n ∧
      row.sessionsOn side = (countOfSum n).toNat
  own : ∀ title ∈ row.productTitle, ∃ r ∈ t.segments, r.tenantId = q.tenantId ∧
    r.dimensions.get? productDimension = some row.value ∧ r.productTitle = some title
  largest : ∀ title, row.productTitle = some title ↔
    t.IsTitleWithin q q.titleSpan row.value title ∧
      ∀ other, t.IsTitleWithin q q.titleSpan row.value other → other ≤ title
  given : row.productTitle.isSome ↔ ∃ title, t.IsTitleWithin q q.titleSpan row.value title
  bothWindows : q.BaselineFirst → ∀ side, ∀ r ∈ t.summedRows q (q.windowOn side) row.value,
    r.productTitle.isSome → row.productTitle.isSome

theorem titles_of_sumsOf (products : q.dimension = productDimension) {s : ValueSums}
    (summed : t.sumsOf q s.value = some s) : t.Titles q (s.row (t.title? q s.value)) := by
  have titled : q.wantsTitles := beq_iff_eq.2 products
  refine ⟨fun side => ?_, fun title shown => ?_, fun title => title?_eq_some_iff titled,
    isSome_title?_iff titled, fun forward side r member carried => ?_⟩
  · refine ⟨s.sessionsOn side, ((sums_of_sumsOf summed).2 side).1, ?_⟩
    cases side with
    | current => rfl
    | baseline => rfl
  · obtain ⟨⟨r, listed, counts, carried⟩, -⟩ := (title?_eq_some_iff titled).1 shown
    exact ⟨r, listed, counts.tenant, products ▸ counts.value, carried⟩
  · obtain ⟨listed, counts⟩ := mem_summedRows_iff.1 member
    obtain ⟨title, found⟩ := Option.isSome_iff_exists.1 carried
    exact (isSome_title?_iff titled).2
      ⟨title, r, listed, { counts with within := forward.daysContain counts.within }, found⟩

/-- In an answer about products each title is the largest one from the start of the baseline to
the end of the current window. Where that holds both windows, no counted title is missed. -/
theorem titles_of_breakdown {log : QueryLog} {rows : List DimensionRow}
    (products : q.dimension = productDimension)
    (answered : t.source.breakdown log q = .ok rows) : ∀ row ∈ rows, t.Titles q row := by
  intro row member
  obtain ⟨sums, -, summed, -, rfl⟩ := exists_sums_of_breakdown (source_breakdown_iff.1 answered).2.2
  obtain ⟨s, listed, rfl⟩ := List.mem_map.1 member
  exact titles_of_sumsOf products (summed s listed)

end Rows

/-- Sessions of a product before March, when it went by its name. -/
def soldInFebruary : SegmentRow :=
  { productRow "p1" none 7 with date := "2025-02-10", productTitle := some "Mug" }

def namedInFebruary : Tables where
  hourly := []
  segments := [soldInFebruary, productRow "p1" (some "ads") 5]
  orders := []

theorem regular_namedInFebruary : ∀ r ∈ namedInFebruary.segments, r.Regular := by
  have february : ∃ day : Day, day.text = "2025-02-10" :=
    ⟨⟨2025, 2, 10, by decide, by decide, by decide⟩, by decide +kernel⟩
  have march : ∃ day : Day, day.text = "2025-03-01" :=
    ⟨⟨2025, 3, 1, by decide, by decide, by decide⟩, by decide +kernel⟩
  simp only [namedInFebruary, List.forall_mem_cons]
  exact ⟨⟨february, 7, rfl⟩, ⟨march, 5, rfl⟩, nofun⟩

theorem exists_rows_namedInFebruary {q : BreakdownQuery}
    (ordinary : ∀ side, (q.windowOn side).Ordinary) (products : q.dimension = productDimension)
    (readable : q.Readable) :
    ∃ rows, namedInFebruary.source.breakdown [] q = .ok rows ∧ namedInFebruary.Accounts q rows := by
  have cart : ∀ r ∈ namedInFebruary.segments, r.atcSessions.IsCount := by
    simp only [namedInFebruary, List.forall_mem_cons]
    exact ⟨⟨0, rfl⟩, ⟨0, rfl⟩, nofun⟩
  obtain ⟨rows, made⟩ := exists_breakdown_of_counts regular_namedInFebruary ordinary cart
    (by decide) (by decide)
  have allowed : q.dimension ∈ allowedDimensions := products ▸ by decide
  exact ⟨rows, source_breakdown_iff.2 ⟨allowed, readable, made⟩,
    accounts_of_breakdown regular_namedInFebruary ordinary made⟩

/-- The sessions of March go by the name of February. -/
theorem titles_namedInFebruary : byProduct.BaselineFirst ∧
    ∃ rows, namedInFebruary.source.breakdown [] byProduct = .ok rows ∧
      ∃ row ∈ rows, row.value = "p1" ∧ row.sessionsOn .current = 5 ∧
        row.productTitle = some "Mug" ∧ namedInFebruary.Titles byProduct row := by
  have forward : byProduct.BaselineFirst :=
    ⟨⟨_, rfl, _, rfl, by decide⟩, ⟨_, rfl, _, rfl, by decide⟩, by decide⟩
  obtain ⟨rows, answered, accounts⟩ := exists_rows_namedInFebruary ordinary_byProduct rfl
    (by decide)
  have counted : soldInFebruary ∈ namedInFebruary.traffic byProduct .baseline := by decide +kernel
  obtain ⟨row, member, value⟩ := List.mem_map.1 (accounts.complete .baseline _ counted "p1" rfl)
  have sessions := accounts.each .current row member
  have titles := titles_of_breakdown rfl answered row member
  have summed : soldInFebruary ∈ namedInFebruary.summedRows byProduct
      (byProduct.windowOn .baseline) row.value :=
    mem_summedRows_iff.2 ⟨List.mem_cons_self, rfl, by decide +kernel, value ▸ rfl, nofun⟩
  obtain ⟨title, shown⟩ := Option.isSome_iff_exists.1
    (titles.bothWindows forward .baseline soldInFebruary summed rfl)
  obtain ⟨r, listed, -, -, carried⟩ := titles.own title shown
  have mug : title = "Mug" := by
    simp only [namedInFebruary, List.mem_cons, List.not_mem_nil, or_false] at listed
    rcases listed with rfl | rfl
    · exact (Option.some.inj carried).symm
    · cases carried
  rw [value] at sessions
  exact ⟨forward, rows, answered, row, member, value, sessions.trans (by decide +kernel),
    mug ▸ shown, titles⟩

/-- What February has sold, beside the March after it. -/
def laterBaseline : BreakdownQuery :=
  { byProduct with window := byProduct.baselineWindow, baselineWindow := byProduct.window }

/-- The time from the start of March to the end of February holds no name. -/
theorem untitled_laterBaseline :
    ∃ rows, namedInFebruary.source.breakdown [] laterBaseline = .ok rows ∧
      ∃ row ∈ rows, row.value = "p1" ∧ row.sessionsOn .current = 7 ∧ row.productTitle = none ∧
        ∃ r ∈ namedInFebruary.summedRows laterBaseline laterBaseline.window "p1",
          r.productTitle = some "Mug" := by
  have ordinary : ∀ side, (laterBaseline.windowOn side).Ordinary
    | .current => ordinary_byProduct .baseline
    | .baseline => ordinary_byProduct .current
  obtain ⟨rows, answered, accounts⟩ := exists_rows_namedInFebruary ordinary rfl (by decide)
  have counted : soldInFebruary ∈ namedInFebruary.traffic laterBaseline .current := by
    decide +kernel
  obtain ⟨row, member, value⟩ := List.mem_map.1 (accounts.complete .current _ counted "p1" rfl)
  have sessions := accounts.each .current row member
  have untitled : row.productTitle = none := by
    rw [productTitle_of_breakdown (source_breakdown_iff.1 answered).2.2 row member]
    rw [← Option.not_isSome_iff_eq_none, isSome_title?_iff rfl]
    rintro ⟨title, r, listed, counts, carried⟩
    have within := counts.within
    simp only [namedInFebruary, List.mem_cons, List.not_mem_nil, or_false] at listed
    rcases listed with rfl | rfl
    · exact absurd within (by decide +kernel)
    · exact absurd within (by decide +kernel)
  rw [value] at sessions
  exact ⟨rows, answered, row, member, value, sessions.trans (by decide +kernel), untitled,
    soldInFebruary, mem_summedRows_iff.2 ⟨List.mem_cons_self, rfl, by decide +kernel, rfl, nofun⟩,
    rfl⟩

end Tables

end RootCause
