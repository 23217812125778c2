import RootCause.Proofs.Breakdown.Preorder
import RootCause.Proofs.Step.Checks

/-!
Steps as computations that ask. A comparison asks one query and a breakdown asks for dimensions of
its list; all other steps ask nothing. What holds of values and of these queries, and is kept when
one computation follows another, holds of a step that is run as a leaf.
-/

namespace RootCause

/-- The queries that a step may send in a context. -/
inductive Step.Asks (step : Step) (c : Context) : Query → Prop
  | totals {settings : CompareSettings} {q : MetricQuery}
      (kind : step.settings = .metricCompare settings) (checked : settings.query c = .ok q) :
      Asks step c (.totals q)
  | breakdown {settings : BreakdownSettings} {first dimension : String} {root : BreakdownQuery}
      (kind : step.settings = .breakdown settings)
      (checked : settings.firstQuery c = .ok (first, root))
      (listed : dimension ∈ settings.dimensionList) (filters : List Filter) :
      Asks step c (.breakdown (root.refine dimension filters))

namespace Inquiry.Closed

variable {source : Source} {asked : Query → Prop} {K : {α : Type} → Inquiry α → Prop}
  (closed : Closed source asked K)
include closed

theorem reportEach {below : Evidence → Inquiry (List Evidence)} (each : ∀ e, K (below e))
    (entries : List Evidence) : K (reportEach below entries) := by
  induction entries with
  | nil => exact closed.pure []
  | cons e rest ih =>
      exact closed.bind (each e) fun found => closed.bind ih fun others => closed.pure _

theorem visit {s : BreakdownSettings} {root : BreakdownQuery}
    (own : ∀ dimension ∈ s.dimensionList, ∀ filters,
      asked (.breakdown (root.refine dimension filters)))
    (filters : List Filter) (depth : Nat) : K (visit source s root filters depth) := by
  -- Each level down has one dimension less to go.
  induction hleft : s.dimensionList.length - depth using Nat.strongRecOn
    generalizing filters depth with
  | ind left ih =>
      rw [RootCause.visit]
      split
      · next inside =>
        have listed : s.dimensionList[depth] ∈ s.dimensionList := List.getElem_mem _
        refine closed.bind (closed.askBreakdown (own _ listed filters)) fun rows => ?_
        split
        · exact closed.pure []
        · refine closed.reportEach (fun e => ?_) _
          exact ih _ (by omega) (filters ++ [e.filter]) (depth + 1) rfl
      · exact closed.pure []

theorem walk {s : BreakdownSettings} {root : BreakdownQuery}
    (own : ∀ dimension ∈ s.dimensionList, ∀ filters,
      asked (.breakdown (root.refine dimension filters))) : K (walk source s root) := by
  rw [show RootCause.walk source s root = _ from funext (walk_apply source s root)]
  exact closed.visit own root.filters 0

theorem runComparison {step : Step} {s : CompareSettings} {c : Context}
    (kind : step.settings = .metricCompare s) (own : ∀ q, step.Asks c q → asked q) :
    K (runComparison source step s c) := by
  rw [runComparison_eq]
  cases checked : s.query c with
  | error cause => exact closed.pure _
  | ok q =>
      refine closed.bind (closed.askTotals (own _ (.totals kind checked))) fun answer => ?_
      cases comparableTotals answer with
      | error cause => exact closed.pure _
      | ok row => exact closed.pure _

theorem runBreakdown {step : Step} {s : BreakdownSettings} {c : Context}
    (kind : step.settings = .breakdown s) (own : ∀ q, step.Asks c q → asked q) :
    K (runBreakdown source step s c) := by
  rw [runBreakdown_eq]
  cases checked : s.firstQuery c with
  | error cause => exact closed.pure _
  | ok query =>
      refine closed.bind (closed.walk fun dimension listed filters => ?_) fun collected =>
        closed.pure _
      exact own _ (.breakdown kind checked listed filters)

theorem runLeaf {step : Step} {c : Context} (own : ∀ q, step.Asks c q → asked q) :
    K (runLeaf source step c) := by
  unfold RootCause.runLeaf
  cases kind : step.settings with
  | validation s => exact closed.pure _
  | metricCompare s => exact closed.runComparison kind own
  | branch s => exact closed.pure _
  | breakdown s => exact closed.runBreakdown kind own
  | composite s => exact closed.pure _
  | insight s => exact closed.pure _

end Inquiry.Closed

section Leaf

variable {source : Source} {step : Step} {c : Context}

/-- Over a stateless source it does not matter to a step what was asked before. -/
theorem steady_runLeaf (stateless : source.Stateless) (step : Step) (c : Context) :
    (runLeaf source step c).Steady :=
  (Inquiry.closed_steady (step.Asks c) stateless).runLeaf fun _ own => own

theorem sends_runLeaf (source : Source) (step : Step) (c : Context) :
    Inquiry.Sends (step.Asks c) (runLeaf source step c) :=
  (Inquiry.closed_sends _).runLeaf fun _ own => own

/-- A step has no verdict only when the source gives no answer to the query sent last. -/
theorem forwards_runLeaf (source : Source) (step : Step) (c : Context) :
    Inquiry.Forwards source (runLeaf source step c) :=
  (Inquiry.closed_forwards (step.Asks c)).runLeaf fun _ own => own

end Leaf

end RootCause
