import RootCause.Proofs.Breakdown.Published

/-!
The queries of a breakdown. Each one asks for the level below a trail of entries, under the
filters of the context and those of the trail, in which no filter occurs twice.
-/

namespace RootCause

/-- The entries that a drill-down goes through, from the first level on, on its way to another
level. Each was kept under the filters of those above it, from an answer that the source gave
between two logs. `level` is the query for a dimension under filters. -/
inductive Trail (source : Source) (s : BreakdownSettings)
    (level : String → List Filter → BreakdownQuery) (base : List Filter) (log now : QueryLog) :
    List Evidence → Prop
  | top : Trail source s level base log now []
  | down {path : List Evidence} {dimension : String} {sent : QueryLog}
      {rows : List DimensionRow} {e : Evidence}
      (above : Trail source s level base log now path)
      (listed : s.dimensionList[path.length]? = some dimension)
      (inside : path.length < s.stopConditions.maxDepth.toNat) (since : log <+: sent)
      (asked : sent ++ [.breakdown (level dimension (base ++ path.map (·.filter)))] <+: now)
      (answered : source.breakdown sent (level dimension (base ++ path.map (·.filter))) = .ok rows)
      (kept : e ∈ keptEntries s dimension (UInt64.ofNat path.length)
        (base ++ path.map (·.filter)) rows) :
      Trail source s level base log now (path ++ [e])

/-- A row of a segment that is filtered on already is not kept. -/
theorem filter_notMem_of_mem_keptEntries {s : BreakdownSettings} {dimension : String}
    {depth : UInt64} {filters : List Filter} {rows : List DimensionRow} {e : Evidence}
    (h : e ∈ keptEntries s dimension depth filters rows) : e.filter ∉ filters := by
  obtain ⟨row, -, candidate, rfl⟩ := exists_row_of_mem_keptEntries h
  simp only [isCandidate, Bool.and_eq_true, Bool.not_eq_true', List.contains_eq_mem,
    decide_eq_false_iff_not] at candidate
  exact candidate.1.1.1

namespace Trail

variable {source : Source} {s : BreakdownSettings}
  {level : String → List Filter → BreakdownQuery} {base : List Filter} {log now now' : QueryLog}
  {path : List Evidence}

theorem mono (h : Trail source s level base log now path) (later : now <+: now') :
    Trail source s level base log now' path := by
  induction h with
  | top => exact .top
  | down above listed inside since asked answered kept ih =>
      exact .down ih listed inside since (asked.trans later) answered kept

/-- The entry in each place of a trail is of the depth and the dimension of that place. -/
theorem depth_and_dimension (h : Trail source s level base log now path) :
    ∀ (i : Nat) (e : Evidence), path[i]? = some e →
      e.depth.toNat = i ∧ s.dimensionList[i]? = some e.dimension := by
  induction h with
  | top => simp
  | @down path dimension sent rows e above listed inside since asked answered kept ih =>
      intro i f found
      rcases Nat.lt_trichotomy i path.length with earlier | rfl | beyond
      · rw [List.getElem?_append_left earlier] at found
        exact ih i f found
      · rw [List.getElem?_concat_length, Option.some.injEq] at found
        subst found
        have bound := s.stopConditions.maxDepth.toNat_lt
        obtain ⟨row, -, -, rfl⟩ := exists_row_of_mem_keptEntries kept
        exact ⟨UInt64.toNat_ofNat_of_lt' (Nat.lt_trans inside bound), listed⟩
      · rw [List.getElem?_eq_none (by simp; omega)] at found
        cases found

/-- Along a trail no filter is set twice, nor one that the drill-down started with. -/
theorem fresh (h : Trail source s level base log now path) :
    (path.map (·.filter)).Nodup ∧ ∀ f ∈ path.map (·.filter), f ∉ base := by
  induction h with
  | top => simp
  | @down path dimension sent rows e above listed inside since asked answered kept ih =>
      obtain ⟨distinct, apart⟩ := ih
      have new := filter_notMem_of_mem_keptEntries kept
      simp only [List.mem_append, not_or] at new
      rw [List.map_append, List.map_singleton]
      constructor
      · rw [List.nodup_append]
        refine ⟨distinct, List.nodup_singleton _, ?_⟩
        rintro f earlier g last rfl
        exact new.2 (List.mem_singleton.1 last ▸ earlier)
      · intro f member
        rcases List.mem_append.1 member with earlier | last
        · exact apart f earlier
        · rw [List.mem_singleton.1 last]
          exact new.1

end Trail

/-- A query for the level below a trail that the drill-down had come to when it sent the query. -/
def AsksBelow (source : Source) (s : BreakdownSettings)
    (level : String → List Filter → BreakdownQuery) (base : List Filter) (log before : QueryLog)
    (q : Query) : Prop :=
  ∃ path dimension, Trail source s level base log before path ∧
    path.length < min s.stopConditions.maxDepth.toNat s.dimensionList.length ∧
    s.dimensionList[path.length]? = some dimension ∧
    q = .breakdown (level dimension (base ++ path.map (·.filter)))

section Drill

open Inquiry

variable {source : Source} {s : BreakdownSettings} {root : BreakdownQuery} {base : List Filter}
  {log now : QueryLog} {path : List Evidence}

theorem sent_of_reportEach {P : QueryLog → Query → Prop} {entries : List Evidence}
    {below : Evidence → Inquiry (List Evidence)}
    (deeper : ∀ e ∈ entries, ∀ later, now <+: later → Sent P later (below e later).2) :
    Sent P now (reportEach below entries now).2 := by
  induction entries generalizing now with
  | nil => exact .refl now
  | cons e rest ih =>
      have first := deeper e List.mem_cons_self now List.prefix_rfl
      refine sent_bind first fun found mid inner => ?_
      rw [inner] at first
      refine sent_bind (ih fun f member later since => ?_) fun others after _ => .refl after
      exact deeper f (List.mem_cons_of_mem e member) later (first.grown.trans since)

/-- A visit asks below the trail that it has come by, and nothing else. -/
theorem sent_of_visit (since : log <+: now)
    (trail : Trail source s root.refine base log now path) :
    Sent (AsksBelow source s root.refine base log) now
      (visit source s root (base ++ path.map (·.filter)) path.length now).2 := by
  -- Each level down has one dimension less to go, and a trail that is longer by one entry.
  induction hleft : s.dimensionList.length - path.length using Nat.strongRecOn
    generalizing path now with
  | ind left ih =>
      rw [visit_eq_expand]
      by_cases limit : path.length < s.depthLimit
      · obtain ⟨inside, listed⟩ := Nat.lt_min.1 limit
        have dimension := List.getElem?_eq_getElem listed
        have asked : Sent (AsksBelow source s root.refine base log) now
            (expand source s root (base ++ path.map (·.filter)) path.length now).2 := by
          rw [expand_eq now dimension inside]
          exact .single ⟨path, _, trail, limit, dimension, rfl⟩
        refine sent_bind asked fun kept mid expanded => ?_
        refine sent_of_reportEach fun e member later grown => ?_
        rw [expand_eq now dimension inside] at expanded
        cases answer : source.breakdown now
            (root.refine s.dimensionList[path.length] (base ++ path.map (·.filter))) with
        | error cause =>
            rw [answer] at expanded
            cases expanded
        | ok rows =>
            rw [answer] at expanded
            cases expanded
            have longer : Trail source s root.refine base log later (path ++ [e]) :=
              .down (trail.mono ((List.prefix_append ..).trans grown)) dimension inside since grown
                answer member
            have deeper := ih (s.dimensionList.length - (path ++ [e]).length)
              (by simp only [List.length_append, List.length_singleton]; omega)
              (since.trans ((List.prefix_append ..).trans grown)) longer rfl
            simpa only [List.map_append, List.map_singleton, List.append_assoc, List.length_append,
              List.length_singleton] using deeper
      · rw [bind_apply, expand_eq_nil now (Nat.not_lt.1 limit)]
        exact .refl now

theorem sent_of_walk (log : QueryLog) :
    Sent (AsksBelow source s root.refine root.filters log) log (walk source s root log).2 := by
  rw [walk_apply]
  have start : Trail source s root.refine root.filters log log [] := .top
  have sent := sent_of_visit List.prefix_rfl start
  simpa only [List.map_nil, List.append_nil, List.length_nil] using sent

end Drill

/-- A query of a drill-down: tenant and windows are those of the context's meta, and it asks for
the level below a trail, under the context's filters and then those of the trail. -/
structure BreakdownQuery.Drills (q : BreakdownQuery) (source : Source) (s : BreakdownSettings)
    (c : Context) (log before : QueryLog) : Prop where
  about : ∃ m, c.runMeta = some m ∧ q.tenantId = m.tenantId ∧
    m.window.bind TimeWindow.bounds = some (q.window.start, q.window.stop) ∧
    m.baselineWindow.bind TimeWindow.bounds =
      some (q.baselineWindow.start, q.baselineWindow.stop)
  below : ∃ path, Trail source s q.refine c.filters log before path ∧
    path.length < min s.stopConditions.maxDepth.toNat s.dimensionList.length ∧
    s.dimensionList[path.length]? = some q.dimension ∧
    q.filters = c.filters ++ path.map (·.filter) ∧
    (∀ (i : Nat) (e : Evidence), path[i]? = some e →
      e.depth.toNat = i ∧ s.dimensionList[i]? = some e.dimension) ∧
    (path.map (·.filter)).Nodup ∧ ∀ f ∈ path.map (·.filter), f ∉ c.filters

theorem RunMeta.bounds_of_windows {m : RunMeta} {window baseline : WindowRange}
    (h : m.windows = .ok (window, baseline)) :
    m.window.bind TimeWindow.bounds = some (window.start, window.stop) ∧
      m.baselineWindow.bind TimeWindow.bounds = some (baseline.start, baseline.stop) := by
  unfold windows at h
  split at h
  · cases h
  · split at h
    · cases h
    · next start stop current =>
      split at h
      · cases h
      · next baselineStart baselineStop earlier =>
        cases h
        exact ⟨current, earlier⟩

/-- The first query of a breakdown is about the context's meta and filters. -/
theorem BreakdownSettings.firstQuery_eq_ok {s : BreakdownSettings} {c : Context} {first : String}
    {root : BreakdownQuery} (h : s.firstQuery c = .ok (first, root)) :
    root.filters = c.filters ∧ ∃ m, c.runMeta = some m ∧ root.tenantId = m.tenantId ∧
      m.window.bind TimeWindow.bounds = some (root.window.start, root.window.stop) ∧
      m.baselineWindow.bind TimeWindow.bounds =
        some (root.baselineWindow.start, root.baselineWindow.stop) := by
  unfold firstQuery at h
  split at h
  · cases h
  · split at h
    · cases h
    · split at h
      · cases h
      · split at h
        · cases h
        · next m given =>
          unfold BreakdownQuery.ofMeta at h
          cases bounded : m.windows with
          | error e =>
              rw [bounded] at h
              cases h
          | ok windows =>
              rw [bounded] at h
              cases h
              exact ⟨rfl, m, given, rfl, RunMeta.bounds_of_windows bounded⟩

/-- Every query that a breakdown sends, whatever it comes to, drills down from the context. -/
theorem Step.drills_of_breakdown {source : Source} {step : Step} {s : BreakdownSettings}
    {c : Context} {log before : QueryLog} {q : Query} (kind : step.settings = .breakdown s)
    (since : log <+: before) (sent : before ++ [q] <+: (runLeaf source step c log).2) :
    ∃ b, q = .breakdown b ∧ b.Drills source s c log before := by
  unfold runLeaf at sent
  rw [kind] at sent
  dsimp only at sent
  rw [runBreakdown_eq] at sent
  cases asked : s.firstQuery c with
  | error cause =>
      rw [asked] at sent
      cases (Inquiry.Sent.refl (P := fun _ _ => False) log).each before q since sent
  | ok query =>
      obtain ⟨first, root⟩ := query
      obtain ⟨filters, about⟩ := s.firstQuery_eq_ok asked
      rw [asked] at sent
      dsimp only at sent
      rw [← map_eq_pure_bind, Inquiry.map_apply] at sent
      obtain ⟨path, dimension, trail, inside, listed, rfl⟩ :=
        (sent_of_walk log).each before q since sent
      rw [filters] at trail
      exact ⟨_, rfl, about, path, trail, inside, listed, by rw [filters]; rfl,
        trail.depth_and_dimension, trail.fresh⟩

/-- One product over and over, and a second one below it. -/
def BreakdownQuery.sameProductRows (q : BreakdownQuery) : List DimensionRow :=
  ⟨"p1", none, 100, 100, 20, 25, 5, 10⟩ ::
    if q.filters.contains ⟨productDimension, "p1"⟩ then [⟨"p2", none, 100, 100, 20, 25, 8, 10⟩]
    else []

def Source.sameProduct : Source where
  totals _ _ := .ok none
  breakdown _ q := .ok q.sameProductRows

def BreakdownSettings.thriceByProduct : BreakdownSettings :=
  { BreakdownSettings.productDrops with
    dimension := none
    dimensions := [productDimension, productDimension, productDimension]
    stopConditions := { maxDepth := 5 } }

def Step.drillThrice : Step := ⟨"drill", .breakdown .thriceByProduct, none, none⟩

def Context.comparedMail : Context := { Context.compared with filters := [⟨"utm_source", "mail"⟩] }

/-- The filters of a breakdown query; the totals are asked for without any. -/
def Query.filters : Query → List Filter
  | .breakdown b => b.filters
  | .totals _ => []

theorem Step.drills_of_sameProduct :
    ∃ before b, (runLeaf Source.sameProduct drillThrice .comparedMail []).2 =
        before ++ [.breakdown b] ∧
      b.filters = [⟨"utm_source", "mail"⟩, ⟨productDimension, "p1"⟩, ⟨productDimension, "p2"⟩] ∧
      b.Drills Source.sameProduct .thriceByProduct .comparedMail [] before := by
  have last : (runLeaf Source.sameProduct drillThrice .comparedMail []).2.getLast?.map
      Query.filters =
      some [⟨"utm_source", "mail"⟩, ⟨productDimension, "p1"⟩, ⟨productDimension, "p2"⟩] := by
    decide +kernel
  obtain ⟨q, final, filters⟩ := Option.map_eq_some_iff.1 last
  obtain ⟨before, whole⟩ := List.getLast?_eq_some_iff.1 final
  have sent : before ++ [q] <+: (runLeaf Source.sameProduct drillThrice .comparedMail []).2 :=
    whole ▸ List.prefix_rfl
  obtain ⟨b, rfl, drills⟩ := drills_of_breakdown rfl List.nil_prefix sent
  exact ⟨before, b, whole, filters, drills⟩

end RootCause
