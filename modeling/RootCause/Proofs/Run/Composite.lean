import RootCause.Proofs.Run.Course
import RootCause.Proofs.Step.Composite
import RootCause.Time.Unix

/-!
Composite steps in a run. Sub-steps see each delta as soon as it is there, and the run merges all
of them once more when the composite passes: metrics are overwritten with what they are, evidence
is appended a second time, and scratch is what the sub-steps wrote last or nothing.
-/

namespace RootCause

/-- What a composite with these deltas makes of a context, the merge by the run included. -/
structure Context.ComposedFrom (after before : Context) (deltas : List Delta) : Prop where
  metrics : ∃ once, deltas.foldlM Context.merge before = .ok once ∧ after.metrics = once.metrics
  breakdowns : ∀ key, after.breakdowns.under key =
    before.breakdowns.under key ++ deltas.flatMap (·.under key) ++ deltas.flatMap (·.under key)
  scratch : after.scratch = ((deltas.filterMap (·.scratch)).getLast?).getD ∅
  filters : after.filters = before.filters
  rootCausePath : after.rootCausePath = before.rootCausePath
  runMeta : after.runMeta = before.runMeta

/-- Merging accepted deltas a second time, from an empty scratch on. -/
theorem Context.composedFrom_merged_twice (before : Context) {deltas : List Delta}
    (steps : ∀ d ∈ deltas, d.FromStep) :
    (deltas.foldl mergeOrKeep
      { deltas.foldl mergeOrKeep before with scratch := ∅ }).ComposedFrom before deltas := by
  have accepted : ∀ d ∈ deltas, d.Accepted := fun d member => (steps d member).accepted
  obtain ⟨firstMeta, firstFilters, firstPath⟩ := foldl_mergeOrKeep_of_steps before steps
  obtain ⟨secondMeta, secondFilters, secondPath⟩ :=
    foldl_mergeOrKeep_of_steps { deltas.foldl mergeOrKeep before with scratch := ∅ } steps
  refine ⟨⟨_, foldlM_merge before accepted, metrics_foldl_twice before ∅ accepted⟩, ?_, ?_,
    secondFilters.trans firstFilters, secondPath.trans firstPath, secondMeta.trans firstMeta⟩
  · intro key
    rw [under_foldl_mergeOrKeep _ accepted]
    exact congrArg (· ++ _) (under_foldl_mergeOrKeep before accepted key)
  · rw [foldl_mergeOrKeep _ accepted, Delta.scratch_gather accepted]

namespace Run

variable {r : Run} {s : RunState} {step : Step} {settings : CompositeSettings}
  {deltas : List Delta} {mid : Context} {log after : QueryLog}

/-- The context that a step is dispatched in. -/
def contextAt (r : Run) (s : RunState) (step : Step) : Context :=
  s.context.traced step (r.clock s.records.length)

theorem dispatchAt_composite (kind : step.settings = .composite settings)
    (filled : settings.steps ≠ []) :
    r.dispatchAt s step = runSubSteps r.source r.registry step.next settings.steps
      (.ofScratch ∅) (r.contextAt s step) s.log := by
  unfold dispatchAt
  rw [dispatch_of_composite kind, runComposite, List.isEmpty_eq_false_iff.2 filled]
  rfl

/-- A composite whose sub-steps pass is done with what they left behind. -/
theorem dispatchAt_of_pass (kind : step.settings = .composite settings)
    (filled : settings.steps ≠ [])
    (passed : SubStepsPass r.source r.registry settings.steps (r.contextAt s step) s.log deltas
      mid after) :
    r.dispatchAt s step = ⟨.ok (.pass (some (deltas.foldl Delta.absorbOrKeep (.ofScratch ∅)))
      step.next), mid, after⟩ := by
  have ended : runSubSteps r.source r.registry step.next (settings.steps ++ []) (.ofScratch ∅)
      (r.contextAt s step) s.log = _ := passed.runSubSteps_append [] (.ofScratch ∅)
  rw [List.append_nil] at ended
  rw [dispatchAt_composite kind filled, ended]
  rfl

theorem merge_composite (passed : SubStepsPass r.source r.registry settings.steps
      (r.contextAt s step) s.log deltas mid after) :
    mid.merge? (some (deltas.foldl Delta.absorbOrKeep (.ofScratch ∅))) =
      .ok (deltas.foldl Context.mergeOrKeep
        { deltas.foldl Context.mergeOrKeep (r.contextAt s step) with scratch := ∅ }) := by
  rw [← passed.context_eq]
  -- The gathered delta starts with an empty scratch, so its merge starts with clearing the scratch.
  exact Context.merge_foldl_absorbOrKeep (mid.merge_ofScratch ∅) deltas

/-- Once the first sub-steps have passed, the composite is where the others lead from there. -/
theorem dispatchAt_of_prefix {done rest : List String} (kind : step.settings = .composite settings)
    (split : settings.steps = done ++ rest) (filled : rest ≠ [])
    (passed : SubStepsPass r.source r.registry done (r.contextAt s step) s.log deltas mid after) :
    r.dispatchAt s step = runSubSteps r.source r.registry step.next rest
      (deltas.foldl Delta.absorbOrKeep (.ofScratch ∅)) mid after := by
  have listed : settings.steps ≠ [] := by
    rw [split]
    exact List.append_ne_nil_of_right_ne_nil done filled
  rw [dispatchAt_composite kind listed, split, passed.runSubSteps_append]

/-- A composite without sub-steps fails, and nothing has changed then. When its sub-steps pass the
run goes on at the step after the composite, with each delta merged twice. When one fails the
composite fails with it, and without a verdict of one it has none either: the context has the
deltas up to there once, and the queries are those sent up to there. -/
theorem composite_of_dispatches (dispatched : r.Dispatches s step)
    (kind : step.settings = .composite settings) :
    (settings.steps = [] →
      r.dispatchAt s step = ⟨.ok (.fail .emptyComposite), r.contextAt s step, s.log⟩) ∧
    (∀ deltas mid after, settings.steps ≠ [] →
      SubStepsPass r.source r.registry settings.steps (r.contextAt s step) s.log deltas mid
        after →
      ∃ t, r.Advances s t ∧ r.followFrom s = r.followFrom t ∧ t.pointer = step.next ∧
        t.log = after ∧ t.context.ComposedFrom (r.contextAt s step) deltas) ∧
    ∀ done id rest deltas mid log, settings.steps = done ++ id :: rest →
      SubStepsPass r.source r.registry done (r.contextAt s step) s.log deltas mid log →
      (∀ cause after, SubStepFails r.source r.registry id mid log cause after →
        r.dispatchAt s step = ⟨.ok (.fail cause), mid, after⟩) ∧
      (∀ e after, SubStepUnanswered r.source r.registry id mid log e after →
        r.dispatchAt s step = ⟨.error (.source e), mid, after⟩) ∧
      deltas.foldlM Context.merge (r.contextAt s step) = .ok mid := by
  refine ⟨?_, ?_, ?_⟩
  · intro none
    unfold dispatchAt
    rw [dispatch_of_composite kind, runComposite, none]
    rfl
  · intro deltas mid after filled passed
    have advances := Advances.of_dispatchAt dispatched (dispatchAt_of_pass kind filled passed)
      (merge_composite passed)
    exact ⟨_, advances, followFrom_of_advances advances, rfl, rfl,
      Context.composedFrom_merged_twice (r.contextAt s step) passed.fromStep⟩
  · intro done id rest deltas mid log split passed
    have stopped := dispatchAt_of_prefix kind split (List.cons_ne_nil id rest) passed
    refine ⟨?_, ?_, ?_⟩
    · intro cause after fails
      rw [stopped, fails.runSubSteps_cons]
    · intro e after unanswered
      rw [stopped, unanswered.runSubSteps_cons]
    · rw [Context.foldlM_merge _ passed.accepted, ← passed.context_eq]

end Run

def Registry.checkAndTell : Registry where
  steps := [
    ⟨"both", .composite ⟨["check", "tell"]⟩, none, none⟩,
    ⟨"check", .validation ⟨[]⟩, none, none⟩,
    ⟨"tell", .insight ⟨⟨"checked", []⟩⟩, none, none⟩]
  ids_nodup := by decide

def Run.checkAndTell : Run where
  source := .silent
  registry := .checkAndTell
  clock _ := .epoch

theorem Run.composite_of_checkAndTell :
    (∃ t deltas, checkAndTell.Advances ⟨some "both", [], .ofMeta (.ofTenant "acme"), []⟩ t ∧
      deltas.length = 2 ∧
      t.context.ComposedFrom (.traced (.ofMeta (.ofTenant "acme"))
        ⟨"both", .composite ⟨["check", "tell"]⟩, none, none⟩ .epoch) deltas) ∧
    (checkAndTell.dispatchAt ⟨some "both", [], .ofMeta (.ofTenant ""), []⟩
      ⟨"both", .composite ⟨["check", "tell"]⟩, none, none⟩).outcome =
      .ok (.fail (.subStepFailed .missingTenant none)) := by
  have dispatched (tenantId : String) : checkAndTell.Dispatches
      ⟨some "both", [], .ofMeta (.ofTenant tenantId), []⟩
      ⟨"both", .composite ⟨["check", "tell"]⟩, none, none⟩ :=
    ⟨rfl, Nat.zero_lt_succ 99, List.not_mem_nil, rfl⟩
  refine ⟨?_, ?_⟩
  · obtain ⟨-, passes, -⟩ := composite_of_dispatches (dispatched "acme") rfl
    obtain ⟨t, advances, -, -, -, composed⟩ := passes _ _ _ (List.cons_ne_nil _ _)
      (.first rfl rfl rfl (.first rfl rfl rfl .none))
    exact ⟨t, _, advances, rfl, composed⟩
  · obtain ⟨-, -, fails⟩ := composite_of_dispatches (dispatched "") rfl
    exact congrArg Dispatch.outcome
      ((fails [] "check" ["tell"] [] _ _ rfl .none).1 _ _ (.failed rfl rfl))

end RootCause
