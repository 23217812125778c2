import RootCause.Proofs.Breakdown.Queries

/-!
Drill-downs that differ in their depth limit. When a source answers every query, and by the query
alone, a deeper drill-down publishes the findings of a shallower one and others below them.
-/

namespace RootCause

/-- Settings with another depth limit. -/
def BreakdownSettings.upTo (s : BreakdownSettings) (m : UInt64) : BreakdownSettings :=
  { s with stopConditions := { s.stopConditions with maxDepth := m } }

@[simp] theorem BreakdownSettings.maxDepth_upTo (s : BreakdownSettings) (m : UInt64) :
    (s.upTo m).stopConditions.maxDepth = m := rfl

@[simp] theorem BreakdownSettings.dimensionList_upTo (s : BreakdownSettings) (m : UInt64) :
    (s.upTo m).dimensionList = s.dimensionList := rfl

/-- The levels of a drill-down do not depend on how many of them there are. -/
@[simp] theorem keptEntries_upTo (s : BreakdownSettings) (m : UInt64) :
    keptEntries (s.upTo m) = keptEntries s := rfl

/-- What a drill-down finds through dimensions that are left, the first of them at a depth, when
`answer` is the answer to each query. -/
def findings (answer : BreakdownQuery → List DimensionRow) (s : BreakdownSettings)
    (root : BreakdownQuery) : List String → List Filter → (depth : Nat) → List Evidence
  | [], _, _ => []
  | dimension :: rest, filters, depth =>
    if depth < s.stopConditions.maxDepth.toNat then
      (keptEntries s dimension (UInt64.ofNat depth) filters
        (answer (root.refine dimension filters))).flatMap fun e =>
          e :: findings answer s root rest (filters ++ [e.filter]) (depth + 1)
    else []

theorem getElem?_of_drop_eq_cons {α : Type} {l rest : List α} {a : α} {i : Nat}
    (h : l.drop i = a :: rest) : l[i]? = some a ∧ l.drop (i + 1) = rest := by
  rw [← List.head?_drop, ← List.tail_drop, h]
  exact ⟨rfl, rfl⟩

section Answered

variable {source : Source} {answer : BreakdownQuery → List DimensionRow}

theorem comesTo_reportEach {below : Evidence → Inquiry (List Evidence)}
    {found : Evidence → List Evidence} (h : ∀ e, (below e).ComesTo (found e))
    (entries : List Evidence) :
    (reportEach below entries).ComesTo (entries.flatMap fun e => e :: found e) := by
  induction entries with
  | nil => exact .pure []
  | cons e rest ih => exact (h e).bind (ih.bind (.pure _))

variable (s : BreakdownSettings) (root : BreakdownQuery)

theorem comesTo_visit_of_limit_le (filters : List Filter) {depth : Nat}
    (beyond : s.depthLimit ≤ depth) : (visit source s root filters depth).ComesTo [] := by
  intro log
  rw [visit_eq_expand, Inquiry.bind_apply, expand_eq_nil log beyond]
  rfl

variable (answered : ∀ log q, source.breakdown log q = .ok (answer q))

include answered

/-- A visit goes through the dimensions from its depth on. -/
theorem comesTo_visit {dimensions : List String} {depth : Nat}
    (left : s.dimensionList.drop depth = dimensions) (filters : List Filter) :
    (visit source s root filters depth).ComesTo
      (findings answer s root dimensions filters depth) := by
  induction dimensions generalizing depth filters with
  | nil =>
      apply comesTo_visit_of_limit_le
      exact Nat.le_trans (Nat.min_le_right ..) (List.drop_eq_nil_iff.1 left)
  | cons dimension rest ih =>
      obtain ⟨listed, later⟩ := getElem?_of_drop_eq_cons left
      rw [visit_eq_expand, findings]
      by_cases inside : depth < s.stopConditions.maxDepth.toNat
      · rw [if_pos inside]
        refine Inquiry.ComesTo.bind (fun log => ?_) (comesTo_reportEach (fun e => ?_) _)
        · rw [expand_eq log listed inside, answered]
          rfl
        · exact ih later (filters ++ [e.filter])
      · rw [if_neg inside, ← visit_eq_expand]
        apply comesTo_visit_of_limit_le
        exact Nat.le_trans (Nat.min_le_left ..) (Nat.not_lt.1 inside)

theorem comesTo_walk :
    (walk source s root).ComesTo (findings answer s root s.dimensionList root.filters 0) := by
  intro log
  rw [walk_apply]
  exact comesTo_visit s root answered List.drop_zero root.filters log

theorem comesTo_runBreakdown (step : Step) {c : Context} {first : String}
    (asked : s.firstQuery c = .ok (first, root)) :
    (runBreakdown source step s c).ComesTo (.pass (some (s.publish first (s.published
      (findings answer s root s.dimensionList root.filters 0)))) step.next) := by
  rw [runBreakdown_eq, asked]
  exact (comesTo_walk s root answered).bind (.pure _)

end Answered

section Restriction

variable (answer : BreakdownQuery → List DimensionRow) (s : BreakdownSettings)
  (root : BreakdownQuery)

/-- Nothing is found above the depth that a drill-down starts at. -/
theorem le_depth_of_mem_findings {dimensions : List String} {filters : List Filter} {depth : Nat}
    {e : Evidence} (h : e ∈ findings answer s root dimensions filters depth) :
    depth ≤ e.depth.toNat := by
  induction dimensions generalizing filters depth with
  | nil => cases h
  | cons dimension rest ih =>
      unfold findings at h
      split at h
      · next inside =>
        obtain ⟨top, kept, here | deeper⟩ :
            ∃ top ∈ keptEntries s dimension (UInt64.ofNat depth) filters
                (answer (root.refine dimension filters)),
              e = top ∨ e ∈ findings answer s root rest (filters ++ [top.filter]) (depth + 1) := by
          simpa only [List.mem_flatMap, List.mem_cons] using h
        · have bound := s.stopConditions.maxDepth.toNat_lt
          rw [here, depth_of_mem_keptEntries kept,
            UInt64.toNat_ofNat_of_lt' (Nat.lt_trans inside bound)]
        · exact Nat.le_of_succ_le (ih deeper)
      · cases h

/-- A lower limit cuts off what is found at it and beyond. Above it each level is the same. -/
theorem findings_upTo {m : UInt64} (h : m ≤ s.stopConditions.maxDepth) (dimensions : List String)
    (filters : List Filter) (depth : Nat) :
    findings answer (s.upTo m) root dimensions filters depth =
      (findings answer s root dimensions filters depth).filter fun e => e.depth < m := by
  induction dimensions generalizing filters depth with
  | nil => rfl
  | cons dimension rest ih =>
      rw [findings, BreakdownSettings.maxDepth_upTo, keptEntries_upTo]
      by_cases inside : depth < m.toNat
      · have insideDeeper : depth < s.stopConditions.maxDepth.toNat :=
          Nat.lt_of_lt_of_le inside (UInt64.le_iff_toNat_le.1 h)
        rw [findings, if_pos inside, if_pos insideDeeper, List.filter_flatMap]
        refine List.flatMap_congr fun e kept => ?_
        have above : decide (e.depth < m) := by
          rw [decide_eq_true_iff, UInt64.lt_iff_toNat_lt, depth_of_mem_keptEntries kept,
            UInt64.toNat_ofNat_of_lt' (Nat.lt_trans inside m.toNat_lt)]
          exact inside
        rw [List.filter_cons, if_pos above, ih]
      · have cut : ∀ e ∈ findings answer s root (dimension :: rest) filters depth,
            ¬decide (e.depth < m) := by
          intro e found
          rw [decide_eq_true_iff, UInt64.lt_iff_toNat_lt, Nat.not_lt]
          exact Nat.le_trans (Nat.not_lt.1 inside) (le_depth_of_mem_findings answer s root found)
        rw [if_neg inside, List.filter_eq_nil_iff.2 cut]

theorem published_filter (m : UInt64) (collected : List Evidence) :
    (s.upTo m).published (collected.filter fun e => e.depth < m) =
      (s.published collected).filter fun e => e.depth < m := by
  have slots : ∀ e f : Evidence, e.sameSlot f → decide (e.depth < m) = decide (f.depth < m) := by
    intro e f same
    have shared := (e.sameSlot_iff f).1 same
    simp only [Evidence.slot, Prod.mk.injEq] at shared
    rw [shared.2.2]
  unfold BreakdownSettings.published
  rw [filter_rank, filter_dedupe slots]
  rfl

end Restriction

/-- A breakdown of lower depth is refused for the same cause as a deeper one, or both pass. Then
the deeper one publishes the same entries as the other, in the same order, and none but those that
are too deep for it in between. -/
theorem Step.published_of_shallower {source : Source} {step : Step} {s : BreakdownSettings}
    {m : UInt64} (kind : step.settings = .breakdown s) (stateless : source.Stateless)
    (answers : ∀ log q, ∃ rows, source.breakdown log q = .ok rows)
    (shallower : m ≤ s.stopConditions.maxDepth) (c : Context) (log log' : QueryLog) :
    (∃ cause, runLeaf source step c log = (.ok (.fail cause), log) ∧
      runLeaf source { step with settings := .breakdown (s.upTo m) } c log' =
        (.ok (.fail cause), log')) ∨
    ∃ d d' key entries, (runLeaf source step c log).1 = .ok (.pass (some d) step.next) ∧
      d.breakdowns = some (.ofList [(key, entries)]) ∧
      (runLeaf source { step with settings := .breakdown (s.upTo m) } c log').1 =
        .ok (.pass (some d') step.next) ∧
      d'.breakdowns = some (.ofList [(key, entries.filter fun e => e.depth < m)]) := by
  choose answer answered using answers []
  have each : ∀ log q, source.breakdown log q = .ok (answer q) := fun log q =>
    (stateless.breakdown log [] q).trans (answered q)
  unfold runLeaf
  rw [kind]
  dsimp only
  have asks : (s.upTo m).firstQuery c = s.firstQuery c := rfl
  cases asked : s.firstQuery c with
  | error cause =>
      rw [runBreakdown_eq, runBreakdown_eq, asks, asked]
      exact .inl ⟨cause, rfl, rfl⟩
  | ok query =>
      obtain ⟨first, root⟩ := query
      have deep := comesTo_runBreakdown s root each step asked
      have shallow := comesTo_runBreakdown (s.upTo m) root each
        { step with settings := .breakdown (s.upTo m) } (asks.trans asked)
      rw [BreakdownSettings.dimensionList_upTo, findings_upTo answer s root shallower,
        published_filter] at shallow
      exact .inr ⟨_, _, _, _, deep log, rfl, shallow log', rfl⟩

theorem Step.published_of_shallower_sameProduct :
    ∃ d d' key entries,
      (runLeaf Source.sameProduct drillThrice .comparedMail []).1 = .ok (.pass (some d) none) ∧
      d.breakdowns = some (.ofList [(key, entries)]) ∧
      (runLeaf Source.sameProduct
        { drillThrice with settings := .breakdown (BreakdownSettings.thriceByProduct.upTo 1) }
        .comparedMail []).1 = .ok (.pass (some d') none) ∧
      d'.breakdowns = some (.ofList [(key, entries.filter fun e => e.depth < 1)]) ∧
      entries.length = 2 ∧ (entries.filter fun e => e.depth < 1).length = 1 := by
  have counted : ((BreakdownSettings.thriceByProduct.firstQuery .comparedMail).toOption.map
      fun (_, root) =>
        let found := dedupe (findings BreakdownQuery.sameProductRows .thriceByProduct root
          BreakdownSettings.thriceByProduct.dimensionList root.filters 0)
        (found.length, (found.filter fun e => e.depth < 1).length)) = some (2, 1) := by
    decide +kernel
  cases asked : BreakdownSettings.thriceByProduct.firstQuery .comparedMail with
  | error cause =>
      rw [asked] at counted
      cases counted
  | ok query =>
      obtain ⟨first, root⟩ := query
      rw [asked] at counted
      obtain ⟨all, shallow⟩ := Prod.mk.inj (Option.some.inj counted)
      have answers : ∀ log q, Source.sameProduct.breakdown log q = .ok q.sameProductRows :=
        fun _ _ => rfl
      have come := comesTo_runBreakdown .thriceByProduct root answers drillThrice asked []
      have kind : drillThrice.settings = .breakdown .thriceByProduct := rfl
      have shallower : 1 ≤ BreakdownSettings.thriceByProduct.stopConditions.maxDepth := by decide
      obtain ⟨cause, failed, -⟩ | ⟨d, d', key, entries, ran, published, cut, restricted⟩ :=
        published_of_shallower kind ⟨fun _ _ _ => rfl, fun _ _ _ => rfl⟩
          (fun log q => ⟨_, answers log q⟩) shallower .comparedMail [] []
      · cases come.symm.trans (congrArg Prod.fst failed)
      · cases come.symm.trans ran
        cases published
        have ranked := rank_perm .delta .desc (dedupe
          (findings BreakdownQuery.sameProductRows .thriceByProduct root
            BreakdownSettings.thriceByProduct.dimensionList root.filters 0))
        exact ⟨_, d', _, _, ran, rfl, cut, restricted, ranked.length_eq.trans all,
          (ranked.filter _).length_eq.trans shallow⟩

end RootCause
