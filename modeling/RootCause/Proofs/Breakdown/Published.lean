import RootCause.Proofs.Breakdown.SlotTable
import RootCause.Proofs.Score.Rank
import RootCause.Proofs.Score.Rate
import RootCause.Proofs.Step.Gathering
import RootCause.Source.Fixture

/-!
What a breakdown publishes: entries of rows that the source has returned and that pass every
gate, one for each segment and depth, in the order of the ranking.
-/

namespace RootCause

/-- The change under the name of a base metric, which the score goes by. -/
def SegmentDeltas.keyed (base : BaseMetric) (d : SegmentDeltas) : Option Binary64 :=
  match base with
  | .cvr => d.cvr
  | .orders => d.orders
  | .sessions => d.sessions
  | .atcRate => d.atcRate

section Sessions

/-- A count reaches the minimum of its window, or the common one where the window has none. -/
def StopConditions.Reached (stop : StopConditions) (own : Option UInt64) (count : UInt64) : Prop :=
  own.getD stop.minSessions ≤ count

/-- The sessions that each mode asks of a row: enough of them in either window, in both, or in the
baseline. -/
def DimensionRow.HasSessions (s : BreakdownSettings) (row : DimensionRow) : Prop :=
  let stop := s.stopConditions
  match s.minSessionsMode with
  | .bothLow => stop.Reached stop.minCurrentSessions row.currentSessions ∨
      stop.Reached stop.minBaselineSessions row.baselineSessions
  | .eitherLow => stop.Reached stop.minCurrentSessions row.currentSessions ∧
      stop.Reached stop.minBaselineSessions row.baselineSessions
  | .baselineOnly => stop.Reached stop.minBaselineSessions row.baselineSessions

theorem StopConditions.not_lt_currentThreshold (stop : StopConditions) (count : UInt64) :
    ¬count < stop.currentThreshold ↔ stop.Reached stop.minCurrentSessions count :=
  UInt64.not_lt

theorem StopConditions.not_lt_baselineThreshold (stop : StopConditions) (count : UInt64) :
    ¬count < stop.baselineThreshold ↔ stop.Reached stop.minBaselineSessions count :=
  UInt64.not_lt

theorem DimensionRow.passesSessionGate_iff {s : BreakdownSettings} {row : DimensionRow} :
    row.passesSessionGate s ↔ row.HasSessions s := by
  have current := s.stopConditions.not_lt_currentThreshold row.currentSessions
  have baseline := s.stopConditions.not_lt_baselineThreshold row.baselineSessions
  unfold passesSessionGate HasSessions
  cases s.minSessionsMode with
  | bothLow =>
      dsimp only
      rw [Bool.not_and, Bool.or_eq_true, Bool.not_eq_true', Bool.not_eq_true',
        decide_eq_false_iff_not, decide_eq_false_iff_not, current, baseline]
  | eitherLow =>
      dsimp only
      rw [Bool.not_or, Bool.and_eq_true, Bool.not_eq_true', Bool.not_eq_true',
        decide_eq_false_iff_not, decide_eq_false_iff_not, current, baseline]
  | baselineOnly => rw [Bool.not_eq_true', decide_eq_false_iff_not, baseline]

end Sessions

namespace Evidence

/-- The value and the counts of an entry are those of a row. -/
structure OfRow (e : Evidence) (row : DimensionRow) : Prop where
  value : e.value = row.value
  currentSessions : e.current.sessions = row.currentSessions
  baselineSessions : e.baseline.sessions = row.baselineSessions
  currentAtcSessions : e.current.atcSessions = row.currentAtcSessions
  baselineAtcSessions : e.baseline.atcSessions = row.baselineAtcSessions
  currentOrders : e.current.orders = row.currentOrders
  baselineOrders : e.baseline.orders = row.baselineOrders

/-- What the gates on rates and changes make sure of. -/
structure Comparable (s : BreakdownSettings) (e : Evidence) : Prop where
  baseMetric : e.baseMetric = s.baseMetric
  currentRate : (e.current.baseRate s.baseMetric).isSome
  baselineRate : ∃ r, e.baseline.baseRate s.baseMetric = some r ∧ ¬r.eqv (.zero false)
  change : ∃ x, e.deltas.baseChange s.baseMetric = some x ∧
    (s.filterMode = .drop → x.lt (.zero false)) ∧
    (s.filterMode = .increase → (Binary64.zero false).lt x)
  keyed : (e.deltas.keyed s.baseMetric).isSome
  score : e.score .delta ≠ .infinity true

/-- An entry of a level of the drill-down. Its row was in an answer to a query of its dimension,
sent after the first log and by the time of the second one, and has the sessions it needs. -/
structure Found (source : Source) (s : BreakdownSettings) (log after : QueryLog)
    (e : Evidence) : Prop where
  depth : e.depth.toNat < min s.stopConditions.maxDepth.toNat s.dimensionList.length
  dimension : s.dimensionList[e.depth.toNat]? = some e.dimension
  row : ∃ sent q rows row, log <+: sent ∧ sent ++ [.breakdown q] <+: after ∧
    q.dimension = e.dimension ∧ source.breakdown sent q = .ok rows ∧ row ∈ rows ∧
    e.OfRow row ∧ row.HasSessions s
  comparable : e.Comparable s

theorem Found.mono {source : Source} {s : BreakdownSettings} {log log' after after' : QueryLog}
    {e : Evidence} (h : e.Found source s log after) (earlier : log' <+: log)
    (later : after <+: after') : e.Found source s log' after' := by
  obtain ⟨depth, dimension, ⟨sent, q, rows, row, start, stop, answered⟩, comparable⟩ := h
  exact ⟨depth, dimension, ⟨sent, q, rows, row, earlier.trans start, stop.trans later, answered⟩,
    comparable⟩

end Evidence

section Candidates

variable {s : BreakdownSettings} {row : DimensionRow}

theorem baseChange_between (base : BaseMetric) (current baseline : SegmentFigures) :
    (SegmentDeltas.between current baseline).baseChange base =
      rateChange (current.baseRate base) (baseline.baseRate base) := by
  cases base <;> rfl

/-- A baseline rate that is there and not zero makes the change of each base metric there. -/
theorem isSome_keyed_between {base : BaseMetric} {current : SegmentFigures}
    {orders sessions atcSessions : UInt64} (present : (current.baseRate base).isSome)
    (nonzero : ((SegmentFigures.ofCounts orders sessions atcSessions).baseRate base).any
      fun r => !r.eqv (.zero false)) :
    ((SegmentDeltas.between current (.ofCounts orders sessions atcSessions)).keyed
      base).isSome := by
  unfold SegmentFigures.baseRate at present nonzero
  unfold SegmentFigures.ofCounts at nonzero ⊢
  unfold SegmentDeltas.keyed SegmentDeltas.between
  cases base with
  | cvr => exact isSome_rateChange present nonzero
  | orders => exact (isSome_countChange_iff _ _).2 (counts_ne_zero_of_rate nonzero).1
  | sessions => exact (isSome_countChange_iff _ _).2 (counts_ne_zero_of_rate nonzero).2
  | atcRate => exact isSome_rateChange present nonzero

/-- An entry with the change that its score goes by does not score minus infinity. -/
theorem deltaScore_ne_infinity {e : Evidence} (keyed : (e.deltas.keyed e.baseMetric).isSome)
    (orders : e.baselineOrderShare.Unsigned) (sessions : e.baselineSessionShare.Unsigned) :
    e.deltaScore ≠ .infinity true := by
  -- Only a missing change scores minus infinity: a size times a share has no minus sign.
  refine Binary64.Unsigned.ne_infinity ?_
  unfold Evidence.deltaScore
  cases base : e.baseMetric with
  | cvr =>
      rw [base] at keyed
      exact weighted_unsigned keyed sessions
  | orders =>
      rw [base] at keyed
      exact weighted_unsigned keyed orders
  | sessions =>
      rw [base] at keyed
      exact weighted_unsigned keyed (.inr (Binary64.nearest_negative ..))
  | atcRate =>
      rw [base] at keyed
      exact weighted_unsigned keyed sessions

theorem comparable_of_isCandidate {dimension : String} {filters : List Filter}
    (h : isCandidate s dimension filters row) (depth : UInt64) (totals : LevelTotals) :
    (row.evidence s.baseMetric dimension depth totals).Comparable s := by
  unfold isCandidate at h
  rw [Bool.and_eq_true, Bool.and_eq_true, Bool.and_eq_true] at h
  obtain ⟨⟨-, rates⟩, wanted⟩ := h
  unfold DimensionRow.hasBaseRates at rates
  obtain ⟨present, nonzero⟩ := Bool.and_eq_true_iff.1 rates
  have keyed := isSome_keyed_between present nonzero
  have changed : ((SegmentDeltas.between row.currentFigures row.baselineFigures).baseChange
      s.baseMetric).isSome := by
    rw [baseChange_between]
    exact isSome_rateChange present nonzero
  refine ⟨rfl, present, ?_, ?_, keyed, ?_⟩
  · obtain ⟨r, found⟩ : ∃ r, row.baselineFigures.baseRate s.baseMetric = some r := by
      cases found : row.baselineFigures.baseRate s.baseMetric with
      | none =>
          rw [found] at nonzero
          cases nonzero
      | some r => exact ⟨r, rfl⟩
    rw [found, Option.any_some] at nonzero
    exact ⟨r, found, fun zero => by rw [zero] at nonzero; cases nonzero⟩
  · obtain ⟨x, found⟩ := Option.isSome_iff_exists.1 changed
    rw [found] at wanted
    refine ⟨x, found, ?_, ?_⟩
    · intro drop
      rw [drop] at wanted
      exact wanted
    · intro increase
      rw [increase] at wanted
      exact wanted
  · exact deltaScore_ne_infinity keyed (share_unsigned ..) (share_unsigned ..)

theorem exists_row_of_mem_keptEntries {dimension : String} {depth : UInt64}
    {filters : List Filter} {rows : List DimensionRow} {e : Evidence}
    (h : e ∈ keptEntries s dimension depth filters rows) :
    ∃ row ∈ rows, isCandidate s dimension filters row ∧
      e = row.evidence s.baseMetric dimension depth (.ofRows rows) := by
  unfold keptEntries at h
  split at h
  · cases h
  · have ranked := (rank_perm _ _ _).mem_iff.1 (List.mem_of_mem_take h)
    obtain ⟨row, member, rfl⟩ := List.mem_map.1 ranked
    obtain ⟨given, candidate⟩ := List.mem_filter.1 member
    exact ⟨row, given, candidate, rfl⟩

end Candidates

section Drill

variable {source : Source} {s : BreakdownSettings} {root : BreakdownQuery}

/-- One level: its query is in the log from then on, and its entries are found. -/
theorem found_of_expand {filters : List Filter} {depth : Nat} {log after : QueryLog}
    {kept : List Evidence} (h : expand source s root filters depth log = (.ok kept, after)) :
    log <+: after ∧ ∀ e ∈ kept, e.Found source s log after := by
  by_cases limit : depth < s.depthLimit
  · have bounds := (expand_bounds h).2
    obtain ⟨below, listed⟩ := Nat.lt_min.1 limit
    have dimension := List.getElem?_eq_getElem listed
    rw [expand_eq log dimension below] at h
    cases answer : source.breakdown log (root.refine s.dimensionList[depth] filters) with
    | error e =>
        rw [answer] at h
        cases h
    | ok rows =>
        rw [answer] at h
        cases h
        refine ⟨List.prefix_append .., ?_⟩
        intro e member
        have depths := (bounds e member).1
        obtain ⟨row, given, candidate, rfl⟩ := exists_row_of_mem_keptEntries member
        have gate : row.passesSessionGate s := by
          unfold isCandidate at candidate
          rw [Bool.and_eq_true, Bool.and_eq_true, Bool.and_eq_true] at candidate
          exact candidate.1.1.2
        have sessions := DimensionRow.passesSessionGate_iff.1 gate
        refine ⟨?_, ?_, ?_, comparable_of_isCandidate candidate _ _⟩
        · rw [depths]
          exact limit
        · rw [depths]
          exact dimension
        · exact ⟨log, _, rows, row, List.prefix_rfl, List.prefix_rfl, rfl, answer, given,
            ⟨rfl, rfl, rfl, rfl, rfl, rfl, rfl⟩, sessions⟩
  · rw [expand_eq_nil log (Nat.not_lt.1 limit)] at h
    cases h
    exact ⟨List.prefix_rfl, fun e none => by cases none⟩

/-- Entries of a level, each followed by what is found below it. -/
theorem found_of_reportEach {below : Evidence → Inquiry (List Evidence)}
    (deeper : ∀ e log after found, below e log = (.ok found, after) →
      log <+: after ∧ ∀ f ∈ found, f.Found source s log after)
    {entries found : List Evidence} {log after : QueryLog}
    (h : reportEach below entries log = (.ok found, after)) :
    log <+: after ∧ ∀ f ∈ found, f ∈ entries ∨ f.Found source s log after := by
  induction entries generalizing log after found with
  | nil =>
      cases h
      exact ⟨List.prefix_rfl, fun f none => by cases none⟩
  | cons e rest ih =>
      obtain ⟨inner, mid, first, h⟩ := Inquiry.bind_eq_ok h
      obtain ⟨others, last, later, h⟩ := Inquiry.bind_eq_ok h
      cases h
      obtain ⟨grown, innerFound⟩ := deeper e log mid inner first
      obtain ⟨grown', othersFound⟩ := ih later
      refine ⟨grown.trans grown', ?_⟩
      intro f member
      rcases List.mem_append.1 member with own | other
      · rcases List.mem_cons.1 own with rfl | under
        · exact .inl List.mem_cons_self
        · exact .inr ((innerFound f under).mono List.prefix_rfl grown')
      · rcases othersFound f other with kept | found
        · exact .inl (List.mem_cons_of_mem e kept)
        · exact .inr (found.mono grown List.prefix_rfl)

/-- A visit finds entries of its level and of the levels below. -/
theorem found_of_visit {filters : List Filter} {depth : Nat} {log after : QueryLog}
    {found : List Evidence} (h : visit source s root filters depth log = (.ok found, after)) :
    log <+: after ∧ ∀ e ∈ found, e.Found source s log after := by
  -- Each level down has one dimension less to go, and starts from the log that it is reached with.
  induction hleft : s.dimensionList.length - depth using Nat.strongRecOn
    generalizing filters depth log after found with
  | ind left ih =>
      rw [visit_eq_expand] at h
      obtain ⟨kept, mid, expanded, h⟩ := Inquiry.bind_eq_ok h
      obtain ⟨grown, keptFound⟩ := found_of_expand expanded
      cases kept with
      | nil =>
          cases h
          exact ⟨grown, fun e none => by cases none⟩
      | cons first rest =>
          have inside := ((expand_bounds expanded).2 first List.mem_cons_self).2
          have listed := (Nat.lt_min.1 inside).2
          have deeper : ∀ (e : Evidence) log after found,
              visit source s root (filters ++ [e.filter]) (depth + 1) log = (.ok found, after) →
              log <+: after ∧ ∀ f ∈ found, f.Found source s log after :=
            fun e log after found below => ih _ (by omega) below rfl
          obtain ⟨grown', others⟩ := found_of_reportEach deeper h
          refine ⟨grown.trans grown', ?_⟩
          intro e member
          rcases others e member with own | deeper
          · exact (keptFound e own).mono List.prefix_rfl grown'
          · exact deeper.mono grown List.prefix_rfl

theorem found_of_walk {log after : QueryLog} {collected : List Evidence}
    (h : walk source s root log = (.ok collected, after)) :
    ∀ e ∈ collected, e.Found source s log after := by
  rw [walk_apply] at h
  exact (found_of_visit h).2

end Drill

section Slots

/-- Deduplicated entries are among the given ones, and no two of them share a slot. -/
theorem dedupe_spec (entries : List Evidence) :
    (∀ e ∈ dedupe entries, e ∈ entries) ∧ ((dedupe entries).map Evidence.slot).Nodup := by
  rw [dedupe_eq_foldl]
  refine List.foldlRecOn
    (motive := fun (out : List Evidence) =>
      (∀ e ∈ out, e ∈ entries) ∧ (out.map Evidence.slot).Nodup)
    entries _ ⟨?_, List.nodup_nil⟩ ?_
  · intro e none
    cases none
  rintro out ⟨known, distinct⟩ e member
  refine ⟨?_, ?_⟩
  · intro f kept
    rcases mem_of_mem_keepLarger kept with rfl | earlier
    · exact member
    · exact known f earlier
  · rw [slots_keepLarger]
    split
    · exact distinct
    · next free =>
      refine List.nodup_append.2 ⟨distinct, List.nodup_singleton _, ?_⟩
      rintro a taken b own rfl
      exact free (List.mem_singleton.1 own ▸ taken)

theorem filter_keepLarger_of_neg {p : Evidence → Bool}
    (slots : ∀ e f, e.sameSlot f → p e = p f) {e : Evidence} (h : ¬p e) (out : List Evidence) :
    (keepLarger e out).filter p = out.filter p := by
  induction out with
  | nil => exact List.filter_cons_of_neg h
  | cons f rest ih =>
      rw [keepLarger_cons]
      by_cases same : e.sameSlot f
      · -- Neither of the two entries that share the slot is wanted.
        have other : ¬p f := slots e f same ▸ h
        rw [if_pos same, List.filter_cons_of_neg other, List.filter_cons_of_neg]
        split
        · exact h
        · exact other
      · rw [if_neg same, List.filter_cons, List.filter_cons, ih]

theorem filter_keepLarger_of_pos {p : Evidence → Bool}
    (slots : ∀ e f, e.sameSlot f → p e = p f) {e : Evidence} (h : p e) (out : List Evidence) :
    (keepLarger e out).filter p = keepLarger e (out.filter p) := by
  induction out with
  | nil => exact List.filter_cons_of_pos h
  | cons f rest ih =>
      rw [keepLarger_cons]
      by_cases same : e.sameSlot f
      · have other : p f := slots e f same ▸ h
        rw [if_pos same, List.filter_cons_of_pos other, keepLarger_cons, if_pos same,
          List.filter_cons_of_pos]
        split
        · exact h
        · exact other
      · rw [if_neg same, List.filter_cons, List.filter_cons, ih]
        split
        · rw [keepLarger_cons, if_neg same]
        · rfl

/-- Slots are filled independently of each other. -/
theorem filter_dedupe {p : Evidence → Bool} (slots : ∀ e f, e.sameSlot f → p e = p f)
    (entries : List Evidence) : (dedupe entries).filter p = dedupe (entries.filter p) := by
  rw [dedupe_eq_foldl, dedupe_eq_foldl]
  rw [List.foldl_filter]
  refine (List.foldl_hom (List.filter p) ?_).symm
  intro out e
  by_cases kept : p e
  · rw [if_pos kept, filter_keepLarger_of_pos slots kept]
  · rw [if_neg kept, filter_keepLarger_of_neg slots kept]

end Slots

/-- Whatever the source answers, a breakdown that passes publishes one list. Each of its entries
comes from a row of an answer and passes the gates, no two are about the same value of the same
dimension at the same depth, and each stands before all behind it in the ranking. -/
theorem Step.published_of_breakdown {source : Source} {step : Step} {s : BreakdownSettings}
    {c : Context} {log after : QueryLog} {delta : Option Delta} {next : Option String}
    (kind : step.settings = .breakdown s)
    (passed : runLeaf source step c log = (.ok (.pass delta next), after)) :
    ∃ d key entries, delta = some d ∧ d.breakdowns = some (.ofList [(key, entries)]) ∧
      (∀ e ∈ entries, e.Found source s log after) ∧
      (entries.map fun e => (e.dimension, e.value, e.depth)).Nodup ∧
      entries.Pairwise (Evidence.RanksBefore s.rankBy s.rankOrder) := by
  unfold runLeaf at passed
  rw [kind] at passed
  obtain ⟨cause, -, failed⟩ | ⟨first, root, collected, walked, published⟩ :=
    runBreakdown_cases passed
  · cases failed
  cases published
  have found := found_of_walk walked
  obtain ⟨known, distinct⟩ := dedupe_spec collected
  have ranked := rank_perm s.rankBy s.rankOrder (dedupe collected)
  refine ⟨_, _, s.published collected, rfl, rfl, ?_, ?_, pairwise_rank _ _ _⟩
  · intro e member
    exact found e (known e (ranked.mem_iff.1 member))
  · exact (ranked.map Evidence.slot).nodup_iff.2 distinct

/-- Two products, of which the first one lost orders and the second one gained some. -/
def Fixture.twoProducts : Fixture where
  totals := none
  breakdowns := [⟨productDimension, [],
    [⟨"p1", none, 100, 100, 20, 25, 8, 10⟩, ⟨"p2", none, 50, 50, 10, 10, 6, 5⟩]⟩]

def BreakdownSettings.productDrops : BreakdownSettings where
  dimension := some productDimension
  dimensions := []
  baseMetric := .orders
  stopConditions := {}
  rankBy := .delta
  rankOrder := .desc
  filterMode := .drop
  minSessionsMode := .bothLow
  outputKey := none

def Step.drill : Step := ⟨"drill", .breakdown .productDrops, none, none⟩

/-- A run after the comparison of its totals. -/
def Context.compared : Context :=
  { Context.ofMeta (.ofTenant "acme") with metrics := .ofList [("cvr_delta_pct", .ofCount 0)] }

theorem Step.published_of_productDrops :
    ∃ d key e next after,
      runLeaf Fixture.twoProducts.source drill .compared [] = (.ok (.pass (some d) next), after) ∧
      d.breakdowns = some (.ofList [(key, [e])]) ∧
      e.Found Fixture.twoProducts.source .productDrops [] after := by
  have counted : (drill.delta? Fixture.twoProducts.source .compared).map
      (fun d => (d.breakdowns.getD ∅).values.flatten.length) = some 1 := by decide +kernel
  obtain ⟨d, given, single⟩ := Option.map_eq_some_iff.1 counted
  obtain ⟨next, after, ran⟩ := exists_runLeaf_of_delta? given
  obtain ⟨d', key, entries, same, published, found, -, -⟩ :=
    published_of_breakdown (s := .productDrops) rfl ran
  cases same
  rw [published] at single
  obtain ⟨e, rfl⟩ : ∃ e, entries = [e] :=
    List.length_eq_one_iff.1 ((congrArg List.length (List.append_nil entries)).symm.trans single)
  exact ⟨d, key, e, next, after, ran, published, found e List.mem_cons_self⟩

end RootCause
