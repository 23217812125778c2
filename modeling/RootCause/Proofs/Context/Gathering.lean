import RootCause.Proofs.Context.Merge

/-!
Lists of deltas as one. Merging accepted deltas one after another is merging what they gather to,
so what a list does to a context, once or twice, is read off field by field.
-/

namespace RootCause

namespace Metrics

theorem override_self (a : Metrics) : a.override a = a := by
  apply Dict.ext_get?
  intro name
  rw [get?_override, Option.or_self]

theorem override_override (a b : Metrics) : (a.override b).override b = a.override b := by
  rw [override_assoc, override_self]

end Metrics

namespace Breakdowns

/-- The evidence under a key, none when there is no such key. -/
def under (b : Breakdowns) (key : String) : List Evidence := (b.get? key).getD []

theorem under_append (a b : Breakdowns) (key : String) :
    (a.append b).under key = a.under key ++ b.under key := by
  unfold under
  rw [get?_append]
  cases b.get? key with
  | none => exact (List.append_nil _).symm
  | some entries => rfl

end Breakdowns

namespace Delta

/-- A delta without meta, which every context takes. -/
def Accepted (d : Delta) : Prop := d.runMeta = none

/-- A delta as steps give it. Filters and path are left to whoever starts the run. -/
structure FromStep (d : Delta) : Prop where
  accepted : d.Accepted
  filters : d.filters = none
  rootCausePath : d.rootCausePath = none

/-- The evidence that a delta puts under a key. -/
def under (d : Delta) (key : String) : List Evidence := (d.breakdowns.getD ∅).under key

/-- The one delta that accepted deltas come to. -/
def gather (deltas : List Delta) : Delta := deltas.foldl absorbOrKeep .empty

theorem absorbOrKeep_of_accepted (acc : Delta) {d : Delta} (h : d.Accepted) :
    acc.absorbOrKeep d = {
      runMeta := acc.runMeta
      filters := joinWith (· ++ ·) [] acc.filters d.filters
      metrics := joinWith Metrics.override ∅ acc.metrics d.metrics
      rootCausePath := joinWith (· ++ ·) [] acc.rootCausePath d.rootCausePath
      scratch := d.scratch <|> acc.scratch
      breakdowns := joinWith Breakdowns.append ∅ acc.breakdowns d.breakdowns } := by
  unfold absorbOrKeep
  rw [absorbInto_of_accepted acc h]

theorem under_joinWith (a b : Option Breakdowns) (key : String) :
    ((joinWith Breakdowns.append ∅ a b).getD ∅).under key =
      (a.getD ∅).under key ++ (b.getD ∅).under key := by
  cases b with
  | none => exact (List.append_nil _).symm
  | some b => exact Breakdowns.under_append _ b key

section Fold

variable {deltas : List Delta}

theorem scratch_foldl_absorbOrKeep (accepted : ∀ d ∈ deltas, d.Accepted) (acc : Delta) :
    (deltas.foldl absorbOrKeep acc).scratch =
      ((deltas.filterMap (·.scratch)).getLast?).or acc.scratch := by
  induction deltas generalizing acc with
  | nil => rfl
  | cons d rest ih =>
      obtain ⟨first, later⟩ := List.forall_mem_cons.1 accepted
      rw [List.foldl_cons, ih later, absorbOrKeep_of_accepted acc first]
      cases hd : d.scratch with
      | none =>
          rw [List.filterMap_cons_none hd]
          rfl
      | some scratch =>
          rw [List.filterMap_cons_some hd, List.getLast?_cons]
          cases (rest.filterMap (·.scratch)).getLast? <;> rfl

theorem under_foldl_absorbOrKeep (accepted : ∀ d ∈ deltas, d.Accepted) (acc : Delta)
    (key : String) :
    (deltas.foldl absorbOrKeep acc).under key =
      acc.under key ++ deltas.flatMap (·.under key) := by
  induction deltas generalizing acc with
  | nil => exact (List.append_nil _).symm
  | cons d rest ih =>
      obtain ⟨first, later⟩ := List.forall_mem_cons.1 accepted
      have joined : (acc.absorbOrKeep d).under key = acc.under key ++ d.under key := by
        rw [absorbOrKeep_of_accepted acc first]
        exact under_joinWith acc.breakdowns d.breakdowns key
      rw [List.foldl_cons, ih later, joined, List.flatMap_cons, List.append_assoc]

/-- The last scratch written is the one that a list of deltas writes. -/
theorem scratch_gather (accepted : ∀ d ∈ deltas, d.Accepted) :
    (gather deltas).scratch = (deltas.filterMap (·.scratch)).getLast? := by
  unfold gather
  rw [scratch_foldl_absorbOrKeep accepted]
  exact Option.or_none

theorem under_gather (accepted : ∀ d ∈ deltas, d.Accepted) (key : String) :
    (gather deltas).under key = deltas.flatMap (·.under key) := by
  unfold gather
  rw [under_foldl_absorbOrKeep accepted]
  exact List.nil_append _

theorem fromStep_foldl_absorbOrKeep {acc : Delta} (start : acc.FromStep)
    (steps : ∀ d ∈ deltas, d.FromStep) : (deltas.foldl absorbOrKeep acc).FromStep := by
  refine List.foldlRecOn deltas absorbOrKeep start ?_
  intro acc holds d member
  have own := steps d member
  rw [absorbOrKeep_of_accepted acc own.accepted, own.filters, own.rootCausePath]
  exact ⟨holds.accepted, holds.filters, holds.rootCausePath⟩

/-- A property that joining keeps and the empty delta has is one of what is gathered. -/
theorem gather_keeps {P : Delta → Prop} (start : P .empty)
    (kept : ∀ acc d, P acc → d ∈ deltas → P (acc.absorbOrKeep d)) : P (gather deltas) := by
  unfold gather
  exact List.foldlRecOn deltas absorbOrKeep start fun acc holds d member => kept acc d holds member

end Fold

end Delta

namespace Context

variable {deltas : List Delta}

theorem foldlM_merge (c : Context) (accepted : ∀ d ∈ deltas, d.Accepted) :
    deltas.foldlM merge c = .ok (deltas.foldl mergeOrKeep c) := by
  induction deltas generalizing c with
  | nil => rfl
  | cons d rest ih =>
      obtain ⟨first, later⟩ := List.forall_mem_cons.1 accepted
      rw [List.foldlM_cons, merge_eq_mergeOrKeep c first, List.foldl_cons]
      exact ih (c.mergeOrKeep d) later

theorem accepted_gather (accepted : ∀ d ∈ deltas, d.Accepted) :
    (Delta.gather deltas).Accepted := by
  refine Delta.gather_keeps rfl ?_
  intro acc d holds member
  rw [Delta.absorbOrKeep_of_accepted acc (accepted d member)]
  exact holds

theorem fromStep_gather (steps : ∀ d ∈ deltas, d.FromStep) : (Delta.gather deltas).FromStep := by
  unfold Delta.gather
  exact Delta.fromStep_foldl_absorbOrKeep ⟨rfl, rfl, rfl⟩ steps

/-- Each field after a list of deltas, by the rule of that field. -/
theorem foldl_mergeOrKeep (c : Context) (accepted : ∀ d ∈ deltas, d.Accepted) :
    deltas.foldl mergeOrKeep c = { c with
      filters := changeBy (· ++ ·) c.filters (Delta.gather deltas).filters
      metrics := changeBy Metrics.override c.metrics (Delta.gather deltas).metrics
      rootCausePath := changeBy (· ++ ·) c.rootCausePath (Delta.gather deltas).rootCausePath
      scratch := (Delta.gather deltas).scratch.getD c.scratch
      breakdowns :=
        changeBy Breakdowns.append c.breakdowns (Delta.gather deltas).breakdowns } := by
  have gathered := mergeInto_foldl_absorbOrKeep (mergeInto_empty c) deltas
  rw [show deltas.foldl Delta.absorbOrKeep .empty = Delta.gather deltas from rfl,
    Delta.mergeInto_of_accepted c (accepted_gather accepted)] at gathered
  exact (Prod.mk.inj gathered).2.symm

theorem under_foldl_mergeOrKeep (c : Context) (accepted : ∀ d ∈ deltas, d.Accepted)
    (key : String) :
    (deltas.foldl mergeOrKeep c).breakdowns.under key =
      c.breakdowns.under key ++ deltas.flatMap (·.under key) := by
  rw [foldl_mergeOrKeep c accepted, ← Delta.under_gather accepted key]
  unfold Delta.under
  cases (Delta.gather deltas).breakdowns with
  | none => exact (List.append_nil _).symm
  | some found => exact Breakdowns.under_append c.breakdowns found key

theorem scratch_foldl_mergeOrKeep (c : Context) (accepted : ∀ d ∈ deltas, d.Accepted)
    (untold : ∀ d ∈ deltas, d.scratch = none) :
    (deltas.foldl mergeOrKeep c).scratch = c.scratch := by
  rw [foldl_mergeOrKeep c accepted, Delta.scratch_gather accepted,
    List.filterMap_eq_nil_iff.2 untold]
  rfl

/-- Metrics merged a second time stay what they are. -/
theorem metrics_foldl_twice (c : Context) (scratch : Dict Json)
    (accepted : ∀ d ∈ deltas, d.Accepted) :
    (deltas.foldl mergeOrKeep { deltas.foldl mergeOrKeep c with scratch }).metrics =
      (deltas.foldl mergeOrKeep c).metrics := by
  rw [foldl_mergeOrKeep _ accepted, foldl_mergeOrKeep c accepted]
  cases (Delta.gather deltas).metrics with
  | none => rfl
  | some ms => exact Metrics.override_override c.metrics ms

/-- Steps change metrics, breakdowns and scratch only. -/
theorem foldl_mergeOrKeep_of_steps (c : Context) (steps : ∀ d ∈ deltas, d.FromStep) :
    (deltas.foldl mergeOrKeep c).runMeta = c.runMeta ∧
      (deltas.foldl mergeOrKeep c).filters = c.filters ∧
      (deltas.foldl mergeOrKeep c).rootCausePath = c.rootCausePath := by
  have gathered := fromStep_gather steps
  rw [foldl_mergeOrKeep c fun d member => (steps d member).accepted, gathered.filters,
    gathered.rootCausePath]
  exact ⟨rfl, rfl, rfl⟩

end Context

end RootCause
