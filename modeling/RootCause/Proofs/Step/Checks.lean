import RootCause.Proofs.Inquiry
import RootCause.Step.Dispatch

/-!
What validations, comparisons and breakdowns check before they ask or pass. The checks of each
are one function of its settings and the context, and the step is what follows from them.
-/

namespace RootCause

/-- The kind of step that fails for a cause. -/
def StepFailure.kind : StepFailure → StepKind
  | .missingMeta => .validation
  | .missingTenant => .validation
  | .missingMetric => .validation
  | .missingWindow => .validation
  | .compareWithoutMeta => .metricCompare
  | .compareIntent _ => .metricCompare
  | .compareWithoutData => .metricCompare
  | .compareWithoutSessions => .metricCompare
  | .noRoute => .branch
  | .invalidDimension => .breakdown
  | .breakdownBeforeCompare => .breakdown
  | .breakdownWithoutMeta => .breakdown
  | .breakdownIntent _ => .breakdown
  | .nestedComposite _ => .composite
  | .emptyComposite => .composite
  | .subStepNotFound _ => .composite
  | .subStepFailed _ _ => .composite

/-- A check whose failures are those of one kind of step. -/
def FailsAs {α : Type} (kind : StepKind) (check : Except StepFailure α) : Prop :=
  ∀ cause, check = .error cause → cause.kind = kind

namespace FailsAs

variable {α : Type} {kind : StepKind}

theorem ok (value : α) : FailsAs kind (.ok value : Except StepFailure α) := by
  intro cause failed
  cases failed

theorem error {cause : StepFailure} (own : cause.kind = kind) :
    FailsAs kind (.error cause : Except StepFailure α) := by
  intro cause' failed
  cases failed
  exact own

end FailsAs

/-- The checks of a validation, and whether there is a baseline. -/
def Context.checkMeta (c : Context) : Except StepFailure Bool :=
  match c.runMeta with
  | none => .error .missingMeta
  | some m =>
    if isBlankText m.tenantId then .error .missingTenant
    else if isBlankText m.metric then .error .missingMetric
    else if !m.window.any TimeWindow.isComplete then .error .missingWindow
    else .ok (m.baselineWindow.any TimeWindow.isComplete)

theorem failsAs_checkMeta (c : Context) : FailsAs .validation c.checkMeta := by
  unfold Context.checkMeta
  split
  · exact .error rfl
  · split
    · exact .error rfl
    · split
      · exact .error rfl
      · split
        · exact .error rfl
        · exact .ok _

theorem runValidation_eq (step : Step) (c : Context) :
    runValidation step c =
      match c.checkMeta with
      | .error cause => .fail cause
      | .ok baseline => .pass (some (.ofMetrics (validationMetrics baseline))) step.next := by
  unfold runValidation Context.checkMeta
  cases c.runMeta with
  | none => rfl
  | some m =>
      dsimp only
      cases isBlankText m.tenantId with
      | true => rfl
      | false =>
          cases isBlankText m.metric with
          | true => rfl
          | false =>
              cases m.window.any TimeWindow.isComplete with
              | false => rfl
              | true => rfl

/-- A meta with all that is checked for: a day and the day before it. -/
def RunMeta.ofTenant (tenantId : String) : RunMeta where
  tenantId := tenantId
  metric := "cvr"
  triggeredAt := none
  window := some ⟨DateTime.ofFields? 2026 1 18 0 0 0 0, DateTime.ofFields? 2026 1 19 0 0 0 0⟩
  baselineWindow :=
    some ⟨DateTime.ofFields? 2026 1 17 0 0 0 0, DateTime.ofFields? 2026 1 18 0 0 0 0⟩

/-- The query of a comparison, if its checks pass. -/
def CompareSettings.query (s : CompareSettings) (c : Context) : Except StepFailure MetricQuery :=
  match c.runMeta with
  | none => .error .compareWithoutMeta
  | some m => (MetricQuery.ofMeta m s.metrics).mapError .compareIntent

/-- The totals of a comparison, if they can be compared. -/
def comparableTotals : Option TotalsRow → Except StepFailure TotalsRow
  | none => .error .compareWithoutData
  | some row =>
    if row.currentSessions = 0 ∨ row.baselineSessions = 0 then .error .compareWithoutSessions
    else .ok row

theorem CompareSettings.failsAs_query (s : CompareSettings) (c : Context) :
    FailsAs .metricCompare (s.query c) := by
  unfold query
  split
  · exact .error rfl
  · next m _ =>
    cases MetricQuery.ofMeta m s.metrics with
    | error e => exact .error rfl
    | ok q => exact .ok q

theorem failsAs_comparableTotals (answer : Option TotalsRow) :
    FailsAs .metricCompare (comparableTotals answer) := by
  unfold comparableTotals
  split
  · exact .error rfl
  · split
    · exact .error rfl
    · exact .ok _

theorem runComparison_eq (source : Source) (step : Step) (s : CompareSettings) (c : Context) :
    runComparison source step s c =
      match s.query c with
      | .error cause => return .fail cause
      | .ok q => do
        match comparableTotals (← source.askTotals q) with
        | .error cause => return .fail cause
        | .ok row => return .pass (some (.ofMetrics row.metrics)) step.next := by
  unfold runComparison CompareSettings.query
  cases c.runMeta with
  | none => rfl
  | some m =>
      dsimp only
      cases MetricQuery.ofMeta m s.metrics with
      | error e => rfl
      | ok q =>
          refine bind_congr fun answer => ?_
          cases answer with
          | none => rfl
          | some row =>
              unfold comparableTotals
              dsimp only
              by_cases empty : row.currentSessions = 0 ∨ row.baselineSessions = 0
              · rw [if_pos empty, if_pos empty]
              · rw [if_neg empty, if_neg empty]

/-- The first dimension and the first query of a breakdown, if its checks pass. -/
def BreakdownSettings.firstQuery (s : BreakdownSettings) (c : Context) :
    Except StepFailure (String × BreakdownQuery) :=
  match s.dimensionList with
  | [] => .error .invalidDimension
  | first :: rest =>
    if (first :: rest).any isBlankText then .error .invalidDimension
    else if (c.metricDouble? "cvr_delta_pct").isNone then .error .breakdownBeforeCompare
    else match c.runMeta with
      | none => .error .breakdownWithoutMeta
      | some m =>
        match BreakdownQuery.ofMeta m first c.filters with
        | .error e => .error (.breakdownIntent e)
        | .ok root => .ok (first, root)

theorem BreakdownSettings.failsAs_firstQuery (s : BreakdownSettings) (c : Context) :
    FailsAs .breakdown (s.firstQuery c) := by
  unfold firstQuery
  split
  · exact .error rfl
  · split
    · exact .error rfl
    · split
      · exact .error rfl
      · split
        · exact .error rfl
        · split
          · exact .error rfl
          · exact .ok _

theorem runBreakdown_eq (source : Source) (step : Step) (s : BreakdownSettings) (c : Context) :
    runBreakdown source step s c =
      match s.firstQuery c with
      | .error cause => return .fail cause
      | .ok (first, root) => do
        let collected ← walk source s root
        return .pass (some (s.publish first (s.published collected))) step.next := by
  unfold runBreakdown BreakdownSettings.firstQuery
  cases s.dimensionList with
  | nil => rfl
  | cons first rest =>
      dsimp only
      cases (first :: rest).any isBlankText with
      | true => rfl
      | false =>
          cases (c.metricDouble? "cvr_delta_pct").isNone with
          | true => rfl
          | false =>
              cases c.runMeta with
              | none => rfl
              | some m =>
                  dsimp only
                  cases BreakdownQuery.ofMeta m first c.filters with
                  | error e => rfl
                  | ok root => rfl

end RootCause
