import RootCause.Proofs.Run.Composite
import RootCause.Proofs.Step.Gathering
import RootCause.Proofs.Workflow.Validation

/-!
Runs that complete. Each step that such a run goes to is the declared one of its id and passes,
and an insight at the end tells of the context that it is dispatched in.
-/

namespace RootCause

open Relation (ReflTransGen)

namespace Registry

/-- Ids are distinct, so a step is found under its own. -/
theorem get?_of_mem {registry : Registry} {step : Step} (member : step ∈ registry.steps) :
    registry.get? step.id = some step := by
  obtain ⟨other, found⟩ := exists_of_mem_ids (List.mem_map_of_mem member)
  obtain ⟨declared, same⟩ := mem_of_get?_eq_some found
  rw [found, List.inj_on_of_nodup_map registry.ids_nodup declared member same]

end Registry

namespace Run

variable {r : Run} {s t : RunState} {step tell : Step} {o : RunOutcome}

theorem length_records {ids : List String} (h : s.records.map (·.stepId) = ids) :
    s.records.length = ids.length := by
  rw [← h, List.length_map]

/-- From this state on the run completes with this outcome. -/
def CompletesWith (r : Run) (s : RunState) (o : RunOutcome) : Prop :=
  (r.followFrom s).1 = .ok o ∧ o.status = .completed

theorem followFrom_of_arrived (h : s.pointer = none) :
    r.followFrom s = (.ok ⟨.completed, none, s.context, s.records⟩, s.log) := by
  unfold followFrom
  rw [h, follow]

theorem followFrom_of_reflTransGen (h : ReflTransGen r.Advances s t) :
    r.followFrom s = r.followFrom t := by
  induction h with
  | refl => rfl
  | tail _ advanced ih => exact ih.trans (followFrom_of_advances advanced)

/-- A run that completes and still has a step to go to passes that step. -/
theorem CompletesWith.advances (h : r.CompletesWith s o) {id : String}
    (pointer : s.pointer = some id) : ∃ t, r.Advances s t ∧ r.CompletesWith t o := by
  obtain ⟨result, completed⟩ := h
  rcases r.ends_or_advances s with ended | ⟨t, advanced, same⟩
  · rw [result] at ended
    generalize (r.followFrom s).2 = after at ended
    cases ended with
    | completed arrived =>
        rw [arrived] at pointer
        cases pointer
    | terminated => cases completed
  · exact ⟨t, advanced, same ▸ result, completed⟩

theorem dispatches_of_mem {id : String} (declared : step ∈ r.registry.steps)
    (named : step.id = id) (pointer : s.pointer = some id)
    (room : s.records.length < maxDispatchedSteps) (fresh : id ∉ s.records.map (·.stepId)) :
    r.Dispatches s step := by
  subst named
  exact ⟨pointer, room, fresh, Registry.get?_of_mem declared⟩

/-- The step that a run dispatches is the declared one of that id. -/
theorem Advances.dispatched (h : r.Advances s t) (declared : step ∈ r.registry.steps)
    (pointer : s.pointer = some step.id) :
    ∃ delta next c, (r.dispatchAt s step).outcome = .ok (.pass delta next) ∧
      (r.dispatchAt s step).context.merge? delta = .ok c ∧
      t = ⟨next, s.records ++ [.ofVerdict step (.pass delta next)], c,
        (r.dispatchAt s step).log⟩ := by
  cases h with
  | @pass step' delta next c dispatched passed merged =>
      have found := dispatched.found
      rw [show step'.id = step.id from
        Option.some.inj (dispatched.pointer.symm.trans pointer),
        Registry.get?_of_mem declared] at found
      cases found
      exact ⟨delta, next, c, passed, merged, rfl⟩

end Run

/-- A completed outcome that publishes the insight of a context and has its facts. -/
structure RunOutcome.Tells (o : RunOutcome) (template : InsightTemplate) (c : Context) : Prop where
  completed : o.status = .completed
  scratch : o.context.scratch =
    .ofList [(Insight.scratchKey, (Insight.ofContext template c).toJson)]
  metrics : o.context.metrics = c.metrics
  breakdowns : o.context.breakdowns = c.breakdowns

/-- An insight passes and is all that is in scratch then. -/
theorem Run.advances_of_insight {r : Run} {s : RunState} {tell : Step}
    {settings : InsightSettings} (dispatched : r.Dispatches s tell)
    (telling : tell.settings = .insight settings) :
    ∃ t, r.Advances s t ∧ t.pointer = tell.next ∧
      t.context = { r.contextAt s tell with scratch := .ofList [(Insight.scratchKey,
        (Insight.ofContext settings.template (r.contextAt s tell)).toJson)] } := by
  have kind : tell.kind = .insight := kind_of_settings telling
  have leaf : tell.kind ≠ .composite := by rw [kind]; exact StepKind.noConfusion
  have ran := runLeaf_insight telling r.source (r.contextAt s tell) s.log
  exact ⟨_, .of_dispatchAt dispatched (dispatch_of_runLeaf leaf ran)
    (Context.merge_ofScratch (r.contextAt s tell) _), rfl, rfl⟩

/-- An insight at the end of a run tells of the context that it is dispatched in. -/
theorem Run.tells_of_dispatches {r : Run} {s : RunState} {tell : Step}
    {settings : InsightSettings} (dispatched : r.Dispatches s tell)
    (telling : tell.settings = .insight settings) (last : tell.next = none) :
    ∃ o, (r.followFrom s).1 = .ok o ∧ o.Tells settings.template s.context.untraced := by
  obtain ⟨t, advanced, pointer, told⟩ := advances_of_insight dispatched telling
  rw [followFrom_of_advances advanced, followFrom_of_arrived (pointer.trans last), told]
  exact ⟨_, rfl, rfl, rfl, rfl, rfl⟩

namespace Workflow

variable {w : Workflow} {source : Source} {clock : Nat → Instant} {c : Context} {log : QueryLog}

/-- A run of the workflow has this outcome, and it is completed. -/
def Completes (w : Workflow) (source : Source) (clock : Nat → Instant) (c : Context)
    (log : QueryLog) (o : RunOutcome) : Prop :=
  (w.run source clock c log).1 = .ok o ∧ o.status = .completed

theorem exists_completes
    (h : (w.run source clock c log).1.toOption.map (·.status) = some .completed) :
    ∃ o, w.Completes source clock c log o := by
  unfold Completes
  cases result : (w.run source clock c log).1 with
  | error e =>
      rw [result] at h
      cases h
  | ok o =>
      rw [result] at h
      exact ⟨o, rfl, Option.some.inj h⟩

theorem run_eq_followFrom {registry : Registry} (built : Registry.ofWorkflow w = .ok registry)
    (hasMeta : c.runMeta.isSome) :
    w.run source clock c log =
      (Run.mk source registry clock).followFrom ⟨w.entry?, [], c, log⟩ := by
  unfold run
  rw [built]
  dsimp only
  unfold Run.start
  rw [Option.isNone_eq_false_iff.2 hasMeta]
  rfl

theorem Completes.completesWith {registry : Registry} {o : RunOutcome}
    (h : w.Completes source clock c log o) (built : Registry.ofWorkflow w = .ok registry)
    (hasMeta : c.runMeta.isSome) :
    (Run.mk source registry clock).CompletesWith ⟨w.entry?, [], c, log⟩ o := by
  unfold Completes at h
  rw [run_eq_followFrom built hasMeta] at h
  exact h

end Workflow

end RootCause
