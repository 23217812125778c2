import Mathlib.Data.List.Perm.Basic
import RootCause.Proofs.Breakdown.Siblings
import RootCause.Proofs.Step.Asking

/-!
The order of a source's rows. The totals of a level do not depend on it, and the ranking of a level
only where scores tie, so without ties a breakdown asks and comes to the same.
-/

namespace RootCause

section Totals

theorem toNat_addCounts (a b : UInt64) :
    (addCounts a b).toNat = min (a.toNat + b.toNat) (UInt64.size - 1) := by
  unfold addCounts
  split
  · next fits =>
    rw [UInt64.toNat_add, Nat.mod_eq_of_lt fits]
    exact (Nat.min_eq_left (Nat.le_pred_of_lt fits)).symm
  · next held =>
    rw [Nat.min_eq_right (Nat.le_trans (Nat.sub_le ..) (Nat.not_lt.1 held))]
    rfl

/-- A sum that is held at the largest count comes to the same in any order. -/
theorem addCounts_right_comm (a b c : UInt64) :
    addCounts (addCounts a b) c = addCounts (addCounts a c) b := by
  rw [← UInt64.toNat_inj]
  simp only [toNat_addCounts]
  omega

instance : RightCommutative LevelTotals.add where
  right_comm t row row' := by
    simp only [LevelTotals.add, addCounts_right_comm _ row.currentSessions,
      addCounts_right_comm _ row.baselineSessions, addCounts_right_comm _ row.currentOrders,
      addCounts_right_comm _ row.baselineOrders]

theorem LevelTotals.ofRows_perm {rows rows' : List DimensionRow} (h : rows.Perm rows') :
    ofRows rows = ofRows rows' := h.foldl_eq (f := add) {}

end Totals

section Level

variable (s : BreakdownSettings)

/-- The scores of the candidates of a level. At any other depth they would be the same. -/
def BreakdownSettings.scores (q : BreakdownQuery) (rows : List DimensionRow) : List Binary64 :=
  (candidates s q.dimension 0 q.filters rows).map (·.score s.rankBy)

theorem score_evidence (rankBy : RankBy) (base : BaseMetric) (dimension : String)
    (depth depth' : UInt64) (totals : LevelTotals) (row : DimensionRow) :
    (row.evidence base dimension depth totals).score rankBy =
      (row.evidence base dimension depth' totals).score rankBy := by
  cases rankBy <;> rfl

theorem map_score_candidates (q : BreakdownQuery) (depth : UInt64) (rows : List DimensionRow) :
    (candidates s q.dimension depth q.filters rows).map (·.score s.rankBy) = s.scores q rows := by
  unfold BreakdownSettings.scores candidates
  rw [List.map_map, List.map_map]
  exact List.map_congr_left fun row _ => score_evidence s.rankBy s.baseMetric _ depth 0 _ row

theorem candidates_perm {rows rows' : List DimensionRow} (h : rows.Perm rows')
    (dimension : String) (depth : UInt64) (filters : List Filter) :
    (candidates s dimension depth filters rows).Perm
      (candidates s dimension depth filters rows') := by
  unfold candidates
  rw [LevelTotals.ofRows_perm h]
  exact (h.filter _).map _

theorem keptEntries_eq_of_perm {q : BreakdownQuery} {rows rows' : List DimensionRow}
    (h : rows.Perm rows') (untied : (s.scores q rows).Nodup) (depth : UInt64) :
    keptEntries s q.dimension depth q.filters rows =
      keptEntries s q.dimension depth q.filters rows' := by
  rw [← map_score_candidates s q depth] at untied
  unfold keptEntries
  rw [LevelTotals.ofRows_perm h,
    rank_eq_of_perm s.rankBy s.rankOrder (candidates_perm s h q.dimension depth q.filters) untied]

end Level

/-- Answers with the same rows, in any order, or with the same error. -/
inductive SameRows : (answer answer' : Except SourceError (List DimensionRow)) → Prop
  | refused (cause : SourceError) : SameRows (.error cause) (.error cause)
  | reordered {rows rows' : List DimensionRow} (h : rows.Perm rows') :
      SameRows (.ok rows) (.ok rows')

/-- No two candidates of a level that is asked for between two logs have the same score. -/
def BreakdownSettings.Untied (s : BreakdownSettings) (source : Source) (log after : QueryLog) :
    Prop :=
  ∀ before q rows, log <+: before → before ++ [.breakdown q] <+: after →
    source.breakdown before q = .ok rows → (s.scores q rows).Nodup

theorem BreakdownSettings.Untied.mono {s : BreakdownSettings} {source : Source}
    {log log' after after' : QueryLog} (h : s.Untied source log after) (later : log <+: log')
    (earlier : after' <+: after) : s.Untied source log' after' :=
  fun before q rows since sent => h before q rows (later.trans since) (sent.trans earlier)

section Drill

variable {source source' : Source} {s : BreakdownSettings} {root : BreakdownQuery}

theorem grows_reportEach {below : Evidence → Inquiry (List Evidence)}
    (each : ∀ e, Inquiry.Forwards source (below e)) (entries : List Evidence) (log : QueryLog) :
    log <+: (reportEach below entries log).2 :=
  ((Inquiry.closed_forwards fun _ => True).reportEach each entries).grows log

theorem forwards_visit (filters : List Filter) (depth : Nat) :
    Inquiry.Forwards source (visit source s root filters depth) :=
  (Inquiry.closed_forwards fun _ => True).visit (fun _ _ _ => trivial) filters depth

/-- Below each entry the two drill-downs are the same up to where the source refuses. -/
theorem reportEach_eq_of_untied {below below' : Evidence → Inquiry (List Evidence)}
    (each : ∀ e, Inquiry.Forwards source (below e))
    (same : ∀ e log, s.Untied source log (below e log).2 → below' e log = below e log)
    (entries : List Evidence) {log : QueryLog}
    (untied : s.Untied source log (reportEach below entries log).2) :
    reportEach below' entries log = reportEach below entries log := by
  induction entries generalizing log with
  | nil => rfl
  | cons e rest ih =>
      rw [reportEach_cons_apply] at untied ⊢
      rw [reportEach_cons_apply]
      have grown := (each e).grows log
      have first := same e log
      cases ran : below e log with
      | mk answer mid =>
          rw [ran] at untied grown first
          cases answer with
          | error cause => rw [first untied]
          | ok found =>
              have further := grows_reportEach each rest mid
              rw [first (untied.mono List.prefix_rfl further)]
              dsimp only
              rw [ih (untied.mono grown List.prefix_rfl)]

/-- One level keeps the same entries when its rows come in another order. -/
theorem expand_eq_of_untied
    (reordered : ∀ log q, SameRows (source.breakdown log q) (source'.breakdown log q))
    {filters : List Filter} {depth : Nat} {log : QueryLog}
    (untied : s.Untied source log (expand source s root filters depth log).2) :
    expand source' s root filters depth log = expand source s root filters depth log := by
  by_cases limit : depth < s.depthLimit
  · obtain ⟨inside, short⟩ := Nat.lt_min.1 limit
    have listed := List.getElem?_eq_getElem short
    rw [expand_eq log listed inside] at untied ⊢
    rw [expand_eq log listed inside]
    have scored := untied log (root.refine s.dimensionList[depth] filters)
    have answers := reordered log (root.refine s.dimensionList[depth] filters)
    generalize source.breakdown log (root.refine s.dimensionList[depth] filters) = answer
      at scored answers ⊢
    generalize source'.breakdown log (root.refine s.dimensionList[depth] filters) = answer'
      at answers ⊢
    cases answers with
    | refused cause => rfl
    | @reordered rows rows' perm =>
        have kept : keptEntries s s.dimensionList[depth] (UInt64.ofNat depth) filters rows =
            keptEntries s s.dimensionList[depth] (UInt64.ofNat depth) filters rows' :=
          keptEntries_eq_of_perm s perm (scored rows List.prefix_rfl List.prefix_rfl rfl) _
        dsimp only [Except.map]
        rw [kept]
  · rw [expand_eq_nil log (Nat.not_lt.1 limit), expand_eq_nil log (Nat.not_lt.1 limit)]

/-- A visit asks and finds the same when the rows of its levels come in another order. -/
theorem visit_eq_of_untied
    (reordered : ∀ log q, SameRows (source.breakdown log q) (source'.breakdown log q))
    (filters : List Filter) (depth : Nat) {log : QueryLog}
    (untied : s.Untied source log (visit source s root filters depth log).2) :
    visit source' s root filters depth log = visit source s root filters depth log := by
  -- Each level down has one dimension less to go.
  induction hleft : s.dimensionList.length - depth using Nat.strongRecOn
    generalizing filters depth log with
  | ind left ih =>
      rw [visit_eq_expand, Inquiry.bind_apply] at untied ⊢
      rw [visit_eq_expand, Inquiry.bind_apply]
      by_cases limit : depth < s.depthLimit
      · have short := (Nat.lt_min.1 limit).2
        have level : s.Untied source log (expand source s root filters depth log).2 →
            expand source' s root filters depth log = expand source s root filters depth log :=
          expand_eq_of_untied reordered
        cases ran : expand source s root filters depth log with
        | mk answer mid =>
            rw [ran] at untied level
            cases answer with
            | error cause => rw [level untied]
            | ok kept =>
                have forwards : ∀ e : Evidence, Inquiry.Forwards source
                    (visit source s root (filters ++ [e.filter]) (depth + 1)) :=
                  fun e => forwards_visit (filters ++ [e.filter]) (depth + 1)
                have later := grows_reportEach forwards kept mid
                rw [level (untied.mono List.prefix_rfl later)]
                refine reportEach_eq_of_untied forwards ?_ kept
                  (untied.mono (found_of_expand ran).1 List.prefix_rfl)
                intro e now below
                exact ih _ (by omega) (filters ++ [e.filter]) (depth + 1) below rfl
      · rw [expand_eq_nil log (Nat.not_lt.1 limit), expand_eq_nil log (Nat.not_lt.1 limit)]
        rfl

theorem walk_eq_of_untied
    (reordered : ∀ log q, SameRows (source.breakdown log q) (source'.breakdown log q))
    {log : QueryLog} (untied : s.Untied source log (walk source s root log).2) :
    walk source' s root log = walk source s root log := by
  rw [walk_apply] at untied ⊢
  rw [walk_apply]
  exact visit_eq_of_untied reordered root.filters 0 untied

end Drill

/-- Without ties it does not matter to a breakdown in which order a source lists its rows: it
sends the same queries, and its verdict or its error is the same. -/
theorem Step.runLeaf_eq_of_untied {source source' : Source} {step : Step} {s : BreakdownSettings}
    (kind : step.settings = .breakdown s)
    (reordered : ∀ log q, SameRows (source.breakdown log q) (source'.breakdown log q))
    (c : Context) (log : QueryLog) (untied : s.Untied source log (runLeaf source step c log).2) :
    runLeaf source' step c log = runLeaf source step c log := by
  unfold runLeaf at untied ⊢
  rw [kind] at untied ⊢
  dsimp only at untied ⊢
  rw [runBreakdown_eq] at untied ⊢
  rw [runBreakdown_eq]
  cases asked : s.firstQuery c with
  | error cause => rfl
  | ok query =>
      obtain ⟨first, root⟩ := query
      rw [asked] at untied
      dsimp only at untied ⊢
      rw [← map_eq_pure_bind, Inquiry.map_apply] at untied ⊢
      rw [← map_eq_pure_bind, Inquiry.map_apply, walk_eq_of_untied reordered untied]

/-- A source that lists the two products the other way round. -/
def Source.mailForEachReversed : Source where
  totals _ _ := .ok none
  breakdown _ q := .ok q.mailForEachRows.reverse

theorem Step.runLeaf_mailForEachReversed :
    ∃ d, (runLeaf Source.mailForEach drillToMail .compared []).1 = .ok (.pass (some d) none) ∧
      runLeaf Source.mailForEachReversed drillToMail .compared [] =
        runLeaf Source.mailForEach drillToMail .compared [] := by
  obtain ⟨first, root, asked, -, -⟩ := exists_findings_mailForEach
  have answers : ∀ log q, Source.mailForEach.breakdown log q = .ok q.mailForEachRows :=
    fun _ _ => rfl
  have come := comesTo_runBreakdown .productsThenMail root answers drillToMail asked []
  refine ⟨_, come, runLeaf_eq_of_untied rfl (fun log q => ?_) .compared [] ?_⟩
  · exact .reordered (List.reverse_perm _).symm
  · intro before q rows since sent answered
    cases answered
    have among : (BreakdownSettings.productsThenMail.scores q q.mailForEachRows).Sublist
        ((q.mailForEachRows.map (DimensionRow.evidence .orders q.dimension 0
          (.ofRows q.mailForEachRows))).map (·.score .delta)) :=
      (List.filter_sublist.map _).map _
    refine List.Nodup.sublist among ?_
    unfold BreakdownQuery.mailForEachRows
    by_cases product : q.dimension = productDimension
    · rw [product, if_pos rfl]
      decide +kernel
    · rw [if_neg product]
      exact List.nodup_singleton _

end RootCause
