import Mathlib.Algebra.Order.BigOperators.Group.List
import RootCause.Proofs.Binary64.Interval
import RootCause.Proofs.Breakdown.Budget
import RootCause.Proofs.Breakdown.RowOrder

/-!
Shares of a level. The totals of a level are the sums of its counts, held at the largest count, so
that no count is larger than its total and each share is a number from zero to one.
-/

namespace RootCause

section Totals

/-- What counts add up to, held at the largest count. -/
def heldSum (counts : List UInt64) : Nat := min (counts.map UInt64.toNat).sum (UInt64.size - 1)

theorem toNat_foldl_addCounts (counts : List UInt64) (start : UInt64) :
    (counts.foldl addCounts start).toNat =
      min (start.toNat + (counts.map UInt64.toNat).sum) (UInt64.size - 1) := by
  induction counts generalizing start with
  | nil => exact (Nat.min_eq_left (Nat.le_pred_of_lt start.toNat_lt)).symm
  | cons count rest ih =>
      rw [List.foldl_cons, ih, toNat_addCounts, List.map_cons, List.sum_cons]
      omega

theorem toNat_le_heldSum {count : UInt64} {counts : List UInt64} (h : count ∈ counts) :
    count.toNat ≤ heldSum counts :=
  Nat.le_min.2 ⟨List.single_le_sum (fun _ _ => Nat.zero_le _) _ (List.mem_map_of_mem h),
    Nat.le_pred_of_lt count.toNat_lt⟩

/-- A total of a level is what a count of its rows adds up to. -/
def TotalOf (total : UInt64) (count : DimensionRow → UInt64) (rows : List DimensionRow) : Prop :=
  total.toNat = heldSum (rows.map count)

theorem TotalOf.le {total : UInt64} {count : DimensionRow → UInt64} {rows : List DimensionRow}
    (h : TotalOf total count rows) {row : DimensionRow} (member : row ∈ rows) :
    count row ≤ total := by
  rw [UInt64.le_iff_toNat_le, h]
  exact toNat_le_heldSum (List.mem_map_of_mem member)

/-- Each of the totals comes from adding up one of the counts. -/
theorem totalOf_ofRows {total : LevelTotals → UInt64} {count : DimensionRow → UInt64}
    (none : total {} = 0) (added : ∀ t row, total (t.add row) = addCounts (total t) (count row))
    (rows : List DimensionRow) : TotalOf (total (.ofRows rows)) count rows := by
  have folded : total (.ofRows rows) = (rows.map count).foldl addCounts 0 := by
    calc total (rows.foldl LevelTotals.add {})
        = rows.foldl (fun n row => addCounts n (count row)) (total {}) :=
          (List.foldl_hom total fun t row => (added t row).symm).symm
      _ = (rows.map count).foldl addCounts 0 := by rw [none, List.foldl_map]
  unfold TotalOf
  rw [folded, toNat_foldl_addCounts, UInt64.toNat_zero, Nat.zero_add]
  rfl

/-- The totals that shares refer to. -/
structure LevelTotals.Sums (t : LevelTotals) (rows : List DimensionRow) : Prop where
  currentSessions : TotalOf t.currentSessions (·.currentSessions) rows
  baselineSessions : TotalOf t.baselineSessions (·.baselineSessions) rows
  currentOrders : TotalOf t.currentOrders (·.currentOrders) rows
  baselineOrders : TotalOf t.baselineOrders (·.baselineOrders) rows

theorem LevelTotals.sums_ofRows (rows : List DimensionRow) : (ofRows rows).Sums rows where
  currentSessions := totalOf_ofRows rfl (fun _ _ => rfl) rows
  baselineSessions := totalOf_ofRows rfl (fun _ _ => rfl) rows
  currentOrders := totalOf_ofRows rfl (fun _ _ => rfl) rows
  baselineOrders := totalOf_ofRows rfl (fun _ _ => rfl) rows

end Totals

section Shares

open Binary64

theorem magnitude_countDouble_le {a b : UInt64} (h : a ≤ b) :
    (countDouble a).magnitude ≤ (countDouble b).magnitude := by
  unfold countDouble
  rw [magnitude_ofNat, magnitude_ofNat]
  refine nearestMagnitude_mono Nat.one_pos Nat.one_pos ?_
  exact Nat.mul_le_mul_right _ (Nat.mul_le_mul_right _ (UInt64.le_iff_toNat_le.1 h))

theorem countDouble_isFinite (n : UInt64) : (countDouble n).isFinite := by
  have largest : (countDouble (UInt64.ofNat (UInt64.size - 1))).magnitude < infinityMagnitude := by
    decide +kernel
  refine decide_eq_true (Nat.lt_of_le_of_lt (magnitude_countDouble_le ?_) largest)
  exact UInt64.le_iff_toNat_le.2 (Nat.le_pred_of_lt n.toNat_lt)

/-- The share that a count has of a total that it is part of: zero when the total is, else a
quotient whose divisor is not zero. -/
structure IsShare (x : Binary64) (part total : UInt64) : Prop where
  part_le : part ≤ total
  ofNothing : total = 0 → x = .zero false
  quotient : total ≠ 0 → ¬(countDouble total).isZero ∧ x = countDouble part / countDouble total
  finite : x.isFinite
  inUnit : x.InUnit

theorem isShare_share {part total : UInt64} (h : part ≤ total) :
    IsShare (share part total) part total := by
  unfold share rate
  split
  · next none =>
    rw [Option.getD_none]
    exact ⟨h, fun _ => rfl, fun some => absurd none some, rfl, .zero false⟩
  · next some =>
    have divisor : (countDouble total).isZero = false :=
      decide_eq_false fun zero => some ((magnitude_countDouble_eq_zero_iff total).1 zero)
    have unit : (countDouble part / countDouble total).InUnit :=
      .div (countDouble_negative part) (countDouble_negative total) (countDouble_isFinite total)
        divisor (magnitude_countDouble_le h)
    rw [Option.getD_some]
    exact ⟨h, fun none => absurd none some, fun _ => ⟨Bool.eq_false_iff.1 divisor, rfl⟩,
      unit.isFinite, unit⟩

/-- The larger one of a baseline share and the share that a current count has of its total. -/
structure IsLargerShare (x baseline : Binary64) (part total : UInt64) : Prop where
  either : x = baseline ∨ x = share part total
  baseline_le : baseline.le x
  current : IsShare (share part total) part total
  current_le : (share part total).le x
  finite : x.isFinite
  inUnit : x.InUnit

theorem isLargerShare_max {baseline : Binary64} {part total : UInt64} (unit : baseline.InUnit)
    (h : part ≤ total) : IsLargerShare (baseline.max (share part total)) baseline part total := by
  have current := isShare_share h
  obtain ⟨either, baseline_le, current_le⟩ := max_spec unit.isNaN current.inUnit.isNaN
  have both : (baseline.max (share part total)).InUnit := by
    rcases either with same | same
    · rwa [same]
    · rw [same]
      exact current.inUnit
  exact ⟨either, baseline_le, current, current_le, both.isFinite, both⟩

/-- The shares of an entry are those that a row has of the totals of its level. -/
structure Evidence.SharesOf (e : Evidence) (row : DimensionRow) (rows : List DimensionRow) :
    Prop where
  totals : (LevelTotals.ofRows rows).Sums rows
  baselineSession : IsShare e.baselineSessionShare row.baselineSessions
    (LevelTotals.ofRows rows).baselineSessions
  baselineOrder : IsShare e.baselineOrderShare row.baselineOrders
    (LevelTotals.ofRows rows).baselineOrders
  session : IsLargerShare e.sessionShare e.baselineSessionShare row.currentSessions
    (LevelTotals.ofRows rows).currentSessions
  order : IsLargerShare e.orderShare e.baselineOrderShare row.currentOrders
    (LevelTotals.ofRows rows).currentOrders

theorem sharesOf_evidence {rows : List DimensionRow} {row : DimensionRow} (h : row ∈ rows)
    (base : BaseMetric) (dimension : String) (depth : UInt64) :
    (row.evidence base dimension depth (.ofRows rows)).SharesOf row rows := by
  have totals := LevelTotals.sums_ofRows rows
  have session := isShare_share (totals.baselineSessions.le h)
  have order := isShare_share (totals.baselineOrders.le h)
  exact ⟨totals, session, order, isLargerShare_max session.inUnit (totals.currentSessions.le h),
    isLargerShare_max order.inUnit (totals.currentOrders.le h)⟩

end Shares

/-- An entry of one of the rows of a level, with the shares that the row has of the level. -/
def Evidence.SharesIn (e : Evidence) (rows : List DimensionRow) : Prop :=
  ∃ row ∈ rows, e.OfRow row ∧ e.SharesOf row rows

theorem sharesIn_evidence {rows : List DimensionRow} {row : DimensionRow} (h : row ∈ rows)
    (base : BaseMetric) (dimension : String) (depth : UInt64) :
    (row.evidence base dimension depth (.ofRows rows)).SharesIn rows :=
  ⟨row, h, ⟨rfl, rfl, rfl, rfl, rfl, rfl, rfl⟩, sharesOf_evidence h base dimension depth⟩

section Drill

variable {source : Source} {s : BreakdownSettings} {root : BreakdownQuery} {log : QueryLog}

/-- The answer to each level is the one to its own query, after those of the earlier levels. -/
theorem Explored.answer_of_mem {levels : List AskedLevel}
    (h : Explored source s root log levels) {l : AskedLevel} (asked : l ∈ levels) :
    ∃ earlier, earlier ++ [l] <+: levels ∧
      l.answer = source.breakdown (log ++ sentFor earlier) l.query := by
  induction h with
  | start => cases asked
  | @ask levels position filters dimension before opens listed inside ih =>
      rcases List.mem_append.1 asked with earlier | last
      · obtain ⟨first, through, answered⟩ := ih earlier
        exact ⟨first, through.trans (List.prefix_append ..), answered⟩
      · cases List.mem_singleton.1 last
        exact ⟨levels, List.prefix_rfl, rfl⟩

/-- Each entry that a walk collects is kept from an answer to one of its queries. -/
theorem exists_level_of_mem_walk {after : QueryLog} {collected : List Evidence}
    (walked : walk source s root log = (.ok collected, after)) {e : Evidence}
    (member : e ∈ collected) :
    ∃ sent q rows depth, log <+: sent ∧ sent ++ [.breakdown q] <+: after ∧
      source.breakdown sent q = .ok rows ∧ e ∈ keptEntries s q.dimension depth q.filters rows := by
  obtain ⟨levels, survey⟩ := exists_surveys_walk source s root log
  rw [walked] at survey
  have found := (survey.collected collected rfl).mem_iff.1 member
  rw [List.nil_append] at found
  obtain ⟨l, asked, kept⟩ := List.mem_flatMap.1 found
  obtain ⟨earlier, through, answered⟩ := survey.explored.answer_of_mem asked
  unfold AskedLevel.kept at kept
  split at kept
  · next rows given =>
    refine ⟨log ++ sentFor earlier, l.query, rows, _, List.prefix_append .., ?_,
      answered.symm.trans given, kept⟩
    have sent : after = log ++ sentFor ([] ++ levels) := survey.sent
    have within : sentFor (earlier ++ [l]) <+: sentFor ([] ++ levels) := through.map _
    rw [sentFor_append] at within
    rw [sent, List.append_assoc, List.prefix_append_right_inj]
    exact within
  · cases kept

end Drill

/-- Whatever counts the rows of a level have, each candidate has the shares of one of the rows. A
breakdown that passes publishes entries of the rows that the source has answered with, each with
the shares of its row. -/
theorem Step.levelShares_of_breakdown (source : Source) {step : Step} {s : BreakdownSettings}
    (kind : step.settings = .breakdown s) (c : Context) (log : QueryLog) :
    (∀ (rows : List DimensionRow) dimension depth filters,
      ∀ e ∈ candidates s dimension depth filters rows, e.SharesIn rows) ∧
    ∀ delta next after, runLeaf source step c log = (.ok (.pass delta next), after) →
      ∃ d key entries, delta = some d ∧ d.breakdowns = some (.ofList [(key, entries)]) ∧
        ∀ e ∈ entries, ∃ sent q rows, log <+: sent ∧ sent ++ [.breakdown q] <+: after ∧
          source.breakdown sent q = .ok rows ∧ e.SharesIn rows := by
  refine ⟨?_, ?_⟩
  · intro rows dimension depth filters e member
    obtain ⟨row, given, rfl⟩ := List.mem_map.1 member
    exact sharesIn_evidence (List.mem_of_mem_filter given) ..
  · intro delta next after passed
    unfold runLeaf at passed
    rw [kind] at passed
    obtain ⟨cause, -, failed⟩ | ⟨first, root, collected, walked, published⟩ :=
      runBreakdown_cases passed
    · cases failed
    cases published
    refine ⟨_, _, s.published collected, rfl, rfl, ?_⟩
    intro e member
    have ranked := (rank_perm s.rankBy s.rankOrder (dedupe collected)).mem_iff.1 member
    have found := (dedupe_spec collected).1 e ranked
    obtain ⟨sent, q, rows, depth, start, stop, answered, kept⟩ :=
      exists_level_of_mem_walk walked found
    obtain ⟨row, given, -, rfl⟩ := exists_row_of_mem_keptEntries kept
    exact ⟨sent, q, rows, start, stop, answered, sharesIn_evidence given ..⟩

/-- Two products that have the largest count of sessions each. -/
def DimensionRow.crowded : List DimensionRow :=
  [⟨"p1", none, 0xFFFFFFFFFFFFFFFF, 0xFFFFFFFFFFFFFFFF, 20, 25, 8, 10⟩,
    ⟨"p2", none, 0xFFFFFFFFFFFFFFFF, 0xFFFFFFFFFFFFFFFF, 10, 10, 6, 5⟩]

def Source.crowdedProducts : Source where
  totals _ _ := .ok none
  breakdown _ _ := .ok DimensionRow.crowded

/-- The total is held at what either product has, so that the share of the one that lost orders is
one and not a half. -/
theorem Step.levelShares_of_crowdedProducts :
    ∃ d key e next after,
      runLeaf Source.crowdedProducts drill .compared [] = (.ok (.pass (some d) next), after) ∧
      d.breakdowns = some (.ofList [(key, [e])]) ∧ e.SharesIn DimensionRow.crowded ∧
      e.sessionShare = .ofNat 1 ∧
      UInt64.size ≤ (DimensionRow.crowded.map (·.currentSessions.toNat)).sum := by
  have counted : (drill.delta? Source.crowdedProducts .compared).map
      (fun d => (d.breakdowns.getD ∅).values.flatten.map (·.sessionShare)) =
        some [.ofNat 1] := by decide +kernel
  obtain ⟨d, given, single⟩ := Option.map_eq_some_iff.1 counted
  obtain ⟨next, after, ran⟩ := exists_runLeaf_of_delta? given
  have kind : drill.settings = .breakdown .productDrops := rfl
  obtain ⟨-, passing⟩ := levelShares_of_breakdown .crowdedProducts kind .compared []
  obtain ⟨d', key, entries, same, published, shares⟩ := passing _ _ _ ran
  cases same
  rw [published] at single
  have listed : (Dict.ofList [(key, entries)]).values.flatten = entries := List.append_nil entries
  have alone : entries.map (·.sessionShare) = [.ofNat 1] := by
    rwa [Option.getD_some, listed] at single
  obtain ⟨e, rfl, whole⟩ := List.map_eq_singleton_iff.1 alone
  obtain ⟨sent, q, rows, -, -, answered, share⟩ := shares e List.mem_cons_self
  cases answered
  exact ⟨d, key, e, next, after, ran, published, share, whole, by decide⟩

end RootCause
