import RootCause.Proofs.Breakdown.Depth
import RootCause.Proofs.Insight.Ranked

/-!
A breakdown that ranks by the change, largest first, and the insight that tells of it. Both go by
the same score, and an insight sorts what is already sorted.
-/

namespace RootCause

section Reading

variable {c : Context} {key : String} {entries : List Evidence}

theorem values_ofList_singleton (key : String) (entries : List Evidence) :
    (Dict.ofList [(key, entries)]).values.flatten = entries :=
  List.append_nil entries

/-- A list that is in order is taken as it is. -/
theorem scoredEvidence_of_sorted (held : c.breakdowns = .ofList [(key, entries)])
    (sorted : entries.Pairwise (Evidence.RanksBefore .delta .desc)) :
    c.scoredEvidence = entries := by
  unfold Context.scoredEvidence
  rw [held, values_ofList_singleton]
  exact rank_eq_self sorted

theorem topFinding?_of_unmatched (unmatched : c.matchedBreakdown? = none) :
    c.topFinding? =
      (c.scoredEvidence.find? (·.dimension == productDimension)).or c.scoredEvidence.head? := by
  unfold Context.topFinding?
  rw [unmatched, head?_selectRanked]
  rfl

end Reading

/-- Under any name but that of the output, the metrics of a breakdown are those of its first
entry. -/
theorem get?_publishedMetrics {s : BreakdownSettings} {name : String}
    (other : s.outputKey ≠ some name) (ranked : List Evidence) :
    (s.publishedMetrics ranked).get? name = ranked.head?.bind (·.topMetrics.get? name) := by
  unfold BreakdownSettings.publishedMetrics
  cases named : s.namedOutput? with
  | none =>
      cases ranked with
      | nil => exact Dict.get?_empty name
      | cons e rest => rw [List.head?_cons, Option.bind_some]
  | some key =>
      have given : s.outputKey = some key := (Option.filter_eq_some_iff.1 named).1
      have free : name ≠ key := fun same => other (same ▸ given)
      dsimp only
      rw [Dict.get?_insert, if_neg free]
      cases ranked with
      | nil => exact Dict.get?_empty name
      | cons e rest => rw [List.head?_cons, Option.bind_some]

/-- Each metric of the top entry holds its field of an entry. -/
structure Evidence.MeasuredBy (e : Evidence) (holds : String → MetricValue → Prop) : Prop where
  dimension : holds "top_dimension" (.text e.dimension)
  value : holds "top_value" (.text e.value)
  displayValue : holds "top_display_value" (.text e.displayValue)
  depth : holds "top_depth" (.ofCount e.depth)
  cvrChange : holds "top_cvr_delta_pct" (.ofOption e.deltas.cvr)
  atcRateChange : holds "top_atc_rate_delta_pct" (.ofOption e.deltas.atcRate)
  atcSessionsChange : holds "top_atc_sessions_delta_pct" (.ofOption e.deltas.atcSessions)
  ordersChange : holds "top_orders_delta_pct" (.ofOption e.deltas.orders)
  sessionsChange : holds "top_sessions_delta_pct" (.ofOption e.deltas.sessions)
  currentSessions : holds "top_current_sessions" (.ofCount e.current.sessions)
  baselineSessions : holds "top_baseline_sessions" (.ofCount e.baseline.sessions)
  currentOrders : holds "top_current_orders" (.ofCount e.current.orders)
  baselineOrders : holds "top_baseline_orders" (.ofCount e.baseline.orders)
  currentAtcSessions : holds "top_current_atc_sessions" (.ofCount e.current.atcSessions)
  baselineAtcSessions : holds "top_baseline_atc_sessions" (.ofCount e.baseline.atcSessions)
  currentCvr : holds "top_current_cvr" (.ofOption e.current.cvr)
  baselineCvr : holds "top_baseline_cvr" (.ofOption e.baseline.cvr)
  currentAtcRate : holds "top_current_atc_rate" (.ofOption e.current.atcRate)
  baselineAtcRate : holds "top_baseline_atc_rate" (.ofOption e.baseline.atcRate)
  sessionShare : holds "top_session_share" (.number e.sessionShare)

theorem Evidence.nodup_names_topFields (e : Evidence) : (e.topFields.map (·.1)).Nodup := by
  simp [topFields]

theorem Evidence.get?_topMetrics_of_mem {e : Evidence} {name : String} {value : MetricValue}
    (member : (name, value) ∈ e.topFields) : e.topMetrics.get? name = some value :=
  Dict.get?_insertAll_of_mem e.nodup_names_topFields member ∅

/-- What holds of every metric of the top entry holds of every field it is made from. -/
theorem Evidence.measuredBy_of_topMetrics {e : Evidence} {holds : String → MetricValue → Prop}
    (all : ∀ name value, e.topMetrics.get? name = some value → holds name value) :
    e.MeasuredBy holds := by
  constructor <;> exact all _ _ (get?_topMetrics_of_mem (by simp [topFields]))

theorem sorted_published {s : BreakdownSettings} (byChange : s.rankBy = .delta)
    (largestFirst : s.rankOrder = .desc) (collected : List Evidence) :
    (s.published collected).Pairwise (Evidence.RanksBefore .delta .desc) := by
  rw [← byChange, ← largestFirst]
  exact pairwise_rank s.rankBy s.rankOrder (dedupe collected)

/-- What an insight makes of the list that a breakdown has published with its metrics. -/
structure BreakdownSettings.Agrees (s : BreakdownSettings) (d : Delta) (entries : List Evidence)
    (c : Context) : Prop where
  scored : c.scoredEvidence = entries
  first : entries.find? (·.dimension == productDimension) = none → c.topFinding? = entries.head?
  told : entries.find? (·.dimension == productDimension) = none →
    ∀ name, s.outputKey ≠ some name →
      (d.metrics.getD ∅).get? name = c.topFinding?.bind (·.topMetrics.get? name)
  measured : entries.find? (·.dimension == productDimension) = none →
    ∀ e, c.topFinding? = some e → e.MeasuredBy fun name value =>
      s.outputKey ≠ some name → (d.metrics.getD ∅).get? name = some value
  product : ∀ p, entries.find? (·.dimension == productDimension) = some p →
    c.topFinding? = some p

/-- A breakdown and an insight agree on the strongest finding, unless a product leads. -/
theorem Step.agrees_of_breakdown {source : Source} {step : Step} {s : BreakdownSettings}
    {c : Context} {log after : QueryLog} {delta : Option Delta} {next : Option String}
    (kind : step.settings = .breakdown s) (byChange : s.rankBy = .delta)
    (largestFirst : s.rankOrder = .desc)
    (passed : runLeaf source step c log = (.ok (.pass delta next), after)) :
    ∃ d key entries, delta = some d ∧ d.breakdowns = some (.ofList [(key, entries)]) ∧
      ∀ c' : Context, c'.breakdowns = .ofList [(key, entries)] → c'.matchedBreakdown? = none →
        s.Agrees d entries c' := by
  unfold runLeaf at passed
  rw [kind] at passed
  obtain ⟨cause, -, failed⟩ | ⟨first, root, collected, -, published⟩ := runBreakdown_cases passed
  · cases failed
  cases published
  refine ⟨_, _, s.published collected, rfl, rfl, ?_⟩
  intro c' held unmatched
  have sorted := sorted_published byChange largestFirst collected
  have scored := scoredEvidence_of_sorted held sorted
  have top := topFinding?_of_unmatched unmatched
  rw [scored] at top
  refine ⟨scored, ?_, ?_, ?_, ?_⟩
  · intro noProduct
    rw [top, noProduct, Option.none_or]
  · intro noProduct name other
    rw [top, noProduct, Option.none_or]
    exact get?_publishedMetrics other _
  · intro noProduct e first
    rw [top, noProduct, Option.none_or] at first
    refine Evidence.measuredBy_of_topMetrics fun name value told other => ?_
    change (s.publishedMetrics (s.published collected)).get? name = some value
    rw [get?_publishedMetrics other, first, Option.bind_some]
    exact told
  · intro p first
    rw [top, first, Option.some_or]

/-- Two sources of visits that have both lost orders, the second one more of them. -/
def Fixture.twoSources : Fixture where
  totals := none
  breakdowns := [⟨"utm_source", [],
    [⟨"mail", none, 100, 100, 20, 20, 8, 10⟩, ⟨"meta", none, 100, 100, 20, 20, 5, 10⟩]⟩]

def BreakdownSettings.sourceDrops : BreakdownSettings :=
  { BreakdownSettings.productDrops with
    dimension := some "utm_source"
    stopConditions := { topK := 2 } }

def Step.drillSources : Step := ⟨"drill", .breakdown .sourceDrops, none, none⟩

/-- What the drill-down by source publishes. -/
theorem exists_published_twoSources :
    ∃ first root worse better,
      BreakdownSettings.sourceDrops.firstQuery .compared = .ok (first, root) ∧
      BreakdownSettings.sourceDrops.published (findings Fixture.twoSources.rows .sourceDrops root
        BreakdownSettings.sourceDrops.dimensionList root.filters 0) = [worse, better] ∧
      worse.value = "meta" ∧
      [worse, better].find? (·.dimension == productDimension) = none := by
  have listed : (BreakdownSettings.sourceDrops.firstQuery .compared).toOption.map
      (fun (_, root) =>
        let entries := BreakdownSettings.sourceDrops.published
          (findings Fixture.twoSources.rows .sourceDrops root
            BreakdownSettings.sourceDrops.dimensionList root.filters 0)
        (entries.map (·.value), entries.any (·.dimension == productDimension))) =
      some (["meta", "mail"], false) := by
    have dimensions : BreakdownSettings.sourceDrops.dimensionList = ["utm_source"] := rfl
    -- A merge sort does not evaluate in the kernel, an insertion sort does.
    simp only [BreakdownSettings.published, dimensions, findings, keptEntries,
      rank_eq_insertionSort]
    decide +kernel
  cases asked : BreakdownSettings.sourceDrops.firstQuery .compared with
  | error cause =>
      rw [asked] at listed
      cases listed
  | ok query =>
      rw [asked] at listed
      obtain ⟨values, noProduct⟩ := Prod.mk.inj (Option.some.inj listed)
      obtain ⟨worse, rest, whole, named, others⟩ := List.map_eq_cons_iff.1 values
      obtain ⟨better, rest, rfl, -, none⟩ := List.map_eq_cons_iff.1 others
      cases List.map_eq_nil_iff.1 none
      rw [whole, List.any_eq_false] at noProduct
      exact ⟨query.1, query.2, worse, better, rfl, whole, named, List.find?_eq_none.2 noProduct⟩

theorem Step.agrees_of_sourceDrops :
    ∃ d key worse better next after,
      runLeaf Fixture.twoSources.source drillSources .compared [] =
        (.ok (.pass (some d) next), after) ∧
      d.breakdowns = some (.ofList [(key, [worse, better])]) ∧
      (d.metrics.getD ∅).get? "top_value" = some (.text "meta") ∧
      Context.scoredEvidence
        { Context.compared with breakdowns := .ofList [(key, [worse, better])] } =
          [worse, better] ∧
      Context.topFinding?
        { Context.compared with breakdowns := .ofList [(key, [worse, better])] } = some worse := by
  obtain ⟨first, root, worse, better, asked, whole, named, noProduct⟩ :=
    exists_published_twoSources
  have answers : ∀ log q,
      Fixture.twoSources.source.breakdown log q = .ok (Fixture.twoSources.rows q) :=
    fun _ _ => rfl
  have kind : drillSources.settings = .breakdown .sourceDrops := rfl
  have come := comesTo_runBreakdown .sourceDrops root answers drillSources asked []
  rw [whole] at come
  obtain ⟨d, key, entries, given, published, agrees⟩ :=
    agrees_of_breakdown kind rfl rfl (Prod.ext come rfl)
  cases given
  obtain ⟨rfl, rfl⟩ := Dict.ofList_singleton_inj (Option.some.inj published)
  obtain ⟨scored, leads, -, measured, -⟩ := agrees
    { Context.compared with breakdowns := .ofList [(_, [worse, better])] } rfl rfl
  have top := leads noProduct
  have value := (measured noProduct worse top).value (by decide)
  rw [named] at value
  exact ⟨_, _, worse, better, _, _, Prod.ext come rfl, rfl, value, scored, top⟩

end RootCause
