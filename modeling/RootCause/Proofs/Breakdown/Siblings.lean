import Mathlib.Data.List.Flatten
import RootCause.Proofs.Breakdown.Depth
import RootCause.Proofs.Breakdown.Slots

/-!
Drill-downs that keep different numbers of entries at each level. When a source answers every
query, and by the query alone, a drill-down that keeps more of them finds all that another one finds
and publishes every segment that the other one publishes.
-/

namespace RootCause

/-- Settings that keep another number of entries at each level. -/
def BreakdownSettings.keeping (s : BreakdownSettings) (k : UInt64) : BreakdownSettings :=
  { s with stopConditions := { s.stopConditions with topK := k } }

/-- The entries of a level are ranked before they are cut, so fewer are the first ones of more. -/
theorem keptEntries_keeping {s : BreakdownSettings} {k : UInt64}
    (fewer : k ≤ s.stopConditions.topK) (dimension : String) (depth : UInt64)
    (filters : List Filter) (rows : List DimensionRow) :
    keptEntries (s.keeping k) dimension depth filters rows =
      (keptEntries s dimension depth filters rows).take k.toNat := by
  unfold keptEntries
  split
  · exact List.take_nil.symm
  · rw [List.take_take, Nat.min_eq_left (UInt64.le_iff_toNat_le.1 fewer)]
    rfl

section Findings

variable (answer : BreakdownQuery → List DimensionRow) {s : BreakdownSettings}
  (root : BreakdownQuery) {k : UInt64}

/-- Entries that are left out leave out what is found below them and change nothing else. -/
theorem findings_keeping (fewer : k ≤ s.stopConditions.topK) (dimensions : List String)
    (filters : List Filter) (depth : Nat) :
    (findings answer (s.keeping k) root dimensions filters depth).Sublist
      (findings answer s root dimensions filters depth) := by
  induction dimensions generalizing filters depth with
  | nil => exact .slnil
  | cons dimension rest ih =>
      rw [findings, findings, show (s.keeping k).stopConditions.maxDepth =
        s.stopConditions.maxDepth from rfl]
      split
      · rw [keptEntries_keeping fewer]
        -- First each entry that is left has fewer entries below it, then all of them come back.
        refine (List.Sublist.flatMap_right _ ?_).trans ((List.take_sublist ..).flatMap _)
        intro e _
        exact (ih (filters ++ [e.filter]) (depth + 1)).cons_cons e
      · exact .slnil

end Findings

/-- Deduplication gives up no slot. -/
theorem mem_slots_published (s : BreakdownSettings) {place : String × String × UInt64}
    (collected : List Evidence) :
    place ∈ (s.published collected).map Evidence.slot ↔ place ∈ collected.map Evidence.slot := by
  have ranked := (rank_perm s.rankBy s.rankOrder (dedupe collected)).map Evidence.slot
  exact ranked.mem_iff.trans ((firstOccurrences_dedupe collected).mem_iff place)

/-- A breakdown that keeps fewer siblings is refused for the same cause as one that keeps more, or
both pass. Then the other one collects all that it collects, in the same order, and publishes each
segment that it publishes at the same depth. -/
theorem Step.published_subset_of_fewer {source : Source} {step : Step} {s : BreakdownSettings}
    {k : UInt64} (kind : step.settings = .breakdown s) (stateless : source.Stateless)
    (answers : ∀ log q, ∃ rows, source.breakdown log q = .ok rows)
    (fewer : k ≤ s.stopConditions.topK) (c : Context) (log log' : QueryLog) :
    (∃ cause, runLeaf source step c log = (.ok (.fail cause), log) ∧
      runLeaf source { step with settings := .breakdown (s.keeping k) } c log' =
        (.ok (.fail cause), log')) ∨
    ∃ first root more less, s.firstQuery c = .ok (first, root) ∧
      (walk source s root log).1 = .ok more ∧ (walk source (s.keeping k) root log').1 = .ok less ∧
      (runLeaf source step c log).1 =
        .ok (.pass (some (s.publish first (s.published more))) step.next) ∧
      (runLeaf source { step with settings := .breakdown (s.keeping k) } c log').1 =
        .ok (.pass (some ((s.keeping k).publish first ((s.keeping k).published less))) step.next) ∧
      less.Sublist more ∧
      ∀ e ∈ (s.keeping k).published less, ∃ f ∈ s.published more,
        f.dimension = e.dimension ∧ f.value = e.value ∧ f.depth = e.depth := by
  choose answer answered using answers []
  have each : ∀ log q, source.breakdown log q = .ok (answer q) := fun log q =>
    (stateless.breakdown log [] q).trans (answered q)
  unfold runLeaf
  rw [kind]
  dsimp only
  have asks : (s.keeping k).firstQuery c = s.firstQuery c := rfl
  cases asked : s.firstQuery c with
  | error cause =>
      rw [runBreakdown_eq, runBreakdown_eq, asks, asked]
      exact .inl ⟨cause, rfl, rfl⟩
  | ok query =>
      obtain ⟨first, root⟩ := query
      have sublist := findings_keeping answer root fewer s.dimensionList root.filters 0
      refine .inr ⟨first, root, _, _, rfl, comesTo_walk s root each log,
        comesTo_walk (s.keeping k) root each log', comesTo_runBreakdown s root each step asked log,
        comesTo_runBreakdown (s.keeping k) root each
          { step with settings := .breakdown (s.keeping k) } (asks.trans asked) log',
        sublist, ?_⟩
      intro e published
      have place := (mem_slots_published (s.keeping k) _).1 (List.mem_map_of_mem published)
      have kept := (mem_slots_published s _).2 ((sublist.map Evidence.slot).subset place)
      obtain ⟨f, member, same⟩ := List.mem_map.1 kept
      simp only [Evidence.slot, Prod.mk.injEq] at same
      exact ⟨f, member, same⟩

/-- Two products, and one source of visits below each of them. -/
def BreakdownQuery.mailForEachRows (q : BreakdownQuery) : List DimensionRow :=
  if q.dimension = productDimension then
    [⟨"p2", none, 100, 100, 20, 25, 8, 10⟩, ⟨"p1", none, 100, 100, 20, 25, 5, 10⟩]
  else [⟨"mail", none, 50, 50, 10, 12, 4, 5⟩]

def Source.mailForEach : Source where
  totals _ _ := .ok none
  breakdown _ q := .ok q.mailForEachRows

def BreakdownSettings.productsThenMail : BreakdownSettings :=
  { BreakdownSettings.productDrops with
    dimensions := [productDimension, "utm_source"]
    stopConditions := { maxDepth := 2, topK := 2 } }

def Step.drillToMail : Step := ⟨"drill", .breakdown .productsThenMail, none, none⟩

/-- The first product with its visits by mail, and the other one when two are kept. -/
theorem exists_findings_mailForEach :
    ∃ first root, BreakdownSettings.productsThenMail.firstQuery .compared = .ok (first, root) ∧
      (findings BreakdownQuery.mailForEachRows .productsThenMail root
        [productDimension, "utm_source"] root.filters 0).map (·.value) =
        ["p1", "mail", "p2", "mail"] ∧
      (findings BreakdownQuery.mailForEachRows (BreakdownSettings.productsThenMail.keeping 1) root
        [productDimension, "utm_source"] root.filters 0).map (·.value) = ["p1", "mail"] := by
  have listed : (BreakdownSettings.productsThenMail.firstQuery .compared).toOption.map
      (fun (_, root) =>
        let values (s : BreakdownSettings) := (findings BreakdownQuery.mailForEachRows s root
          [productDimension, "utm_source"] root.filters 0).map (·.value)
        (values .productsThenMail, values (BreakdownSettings.productsThenMail.keeping 1))) =
      some (["p1", "mail", "p2", "mail"], ["p1", "mail"]) := by
    -- A merge sort does not evaluate in the kernel, an insertion sort does.
    simp only [findings, keptEntries, rank_eq_insertionSort]
    decide +kernel
  cases asked : BreakdownSettings.productsThenMail.firstQuery .compared with
  | error cause =>
      rw [asked] at listed
      cases listed
  | ok query =>
      rw [asked] at listed
      obtain ⟨all, best⟩ := Prod.mk.inj (Option.some.inj listed)
      exact ⟨query.1, query.2, rfl, all, best⟩

theorem Step.published_subset_of_mailForEach :
    ∃ first root more less,
      BreakdownSettings.productsThenMail.firstQuery .compared = .ok (first, root) ∧
      (walk Source.mailForEach .productsThenMail root []).1 = .ok more ∧
      (walk Source.mailForEach (BreakdownSettings.productsThenMail.keeping 1) root []).1 =
        .ok less ∧
      more.map (·.value) = ["p1", "mail", "p2", "mail"] ∧ less.map (·.value) = ["p1", "mail"] ∧
      less.Sublist more ∧
      ∀ e ∈ (BreakdownSettings.productsThenMail.keeping 1).published less,
        ∃ f ∈ BreakdownSettings.productsThenMail.published more,
          f.dimension = e.dimension ∧ f.value = e.value ∧ f.depth = e.depth := by
  have answers : ∀ log q, Source.mailForEach.breakdown log q = .ok q.mailForEachRows :=
    fun _ _ => rfl
  obtain ⟨first, root, asked, all, best⟩ := exists_findings_mailForEach
  have come := comesTo_runBreakdown .productsThenMail root answers drillToMail asked []
  have kind : drillToMail.settings = .breakdown .productsThenMail := rfl
  have fewer : 1 ≤ BreakdownSettings.productsThenMail.stopConditions.topK := by decide
  obtain ⟨cause, failed, -⟩ | ⟨first', root', more, less, asked', wide, narrow, -, -, kept⟩ :=
    published_subset_of_fewer kind ⟨fun _ _ _ => rfl, fun _ _ _ => rfl⟩
      (fun log q => ⟨_, answers log q⟩) fewer .compared [] []
  · cases come.symm.trans (congrArg Prod.fst failed)
  · cases asked.symm.trans asked'
    cases (comesTo_walk .productsThenMail root answers []).symm.trans wide
    cases (comesTo_walk (BreakdownSettings.productsThenMail.keeping 1) root answers []).symm.trans
      narrow
    exact ⟨first, root, _, _, asked, wide, narrow, all, best, kept⟩

end RootCause
