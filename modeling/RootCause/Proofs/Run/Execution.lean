import RootCause.Proofs.Run.Growth
import RootCause.Proofs.Run.Resolution
import RootCause.Proofs.Step.Asking

/-!
The steps that a run executes: those that it dispatches and the sub-steps of composites, each at its
turn. The queries of a run are those of its executed steps, and where it fails or breaks off, one
of these does.
-/

namespace RootCause

open Inquiry (Sent)

/-- The cause that a failing sub-step has handed to its composite. -/
def StepFailure.origin : StepFailure → StepFailure
  | .subStepFailed cause _ => cause.origin
  | cause => cause

theorem Step.Yields.origin_eq {step : Step} {c : Context} {cause : StepFailure}
    (h : step.Yields c (.fail cause)) : cause.origin = cause := by
  obtain ⟨own, leaf⟩ | ⟨-, rfl⟩ := h.fail_cases
  · cases cause with
    | subStepFailed inner reason => exact absurd own.symm leaf
    | _ => rfl
  · rfl

/-- The steps that a dispatch runs as leaves: the dispatched step itself, or a sub-step of a
composite in the context and after the queries of those that have passed before it. -/
inductive Step.Executes (top : Step) (source : Source) (registry : Registry) (c : Context)
    (log : QueryLog) : Step → Context → QueryLog → Prop
  | itself (leaf : top.kind ≠ .composite) : Executes top source registry c log top c log
  | subStep {settings : CompositeSettings} {done rest : List String} {id : String} {sub : Step}
      {deltas : List Delta} {mid : Context} {now : QueryLog}
      (kind : top.settings = .composite settings) (turn : settings.steps = done ++ id :: rest)
      (passed : SubStepsPass source registry done c log deltas mid now)
      (found : registry.get? id = some sub) : Executes top source registry c log sub mid now

section Dispatch

variable {source : Source} {registry : Registry} {top step : Step} {c c' : Context}
  {log log' : QueryLog} {P : QueryLog → Query → Prop}

theorem SubStepsPass.extends {ids : List String} {deltas : List Delta}
    (h : SubStepsPass source registry ids c log deltas c' log') : c'.Extends c := by
  induction h with
  | none => exact .refl _
  | @first id sub c mid log now delta next rest deltas last after found passed merged later ih =>
      refine ih.trans (Context.extends_of_merge? ?_ merged)
      rintro d rfl
      exact (yields_of_runLeaf passed).fromStep

theorem SubStepsPass.sent {ids : List String} {deltas : List Delta} {last : Context}
    {after : QueryLog} (h : SubStepsPass source registry ids c log deltas last after)
    (each : ∀ done id rest sub deltas mid now, ids = done ++ id :: rest →
      SubStepsPass source registry done c log deltas mid now → registry.get? id = some sub →
      Sent P now (runLeaf source sub mid now).2) : Sent P log after := by
  -- The first sub-step has nothing before it, and it is before all others.
  induction h with
  | none => exact .refl _
  | @first id sub c c' log mid delta next rest deltas last after found passed merged later ih =>
      have own := each [] id rest sub [] c log rfl .none found
      rw [passed] at own
      refine own.trans (ih fun done id' rest' sub' deltas' mid' now split passes found' => ?_)
      exact each (id :: done) id' rest' sub' _ mid' now (congrArg (id :: ·) split)
        (.first found passed merged passes) found'

theorem Step.Executes.extends (h : top.Executes source registry c log step c' log') :
    c'.Extends c := by
  cases h with
  | itself leaf => exact .refl c
  | subStep kind turn passed found => exact passed.extends

theorem Step.Executes.mem_steps (h : top.Executes source registry c log step c' log')
    (declared : top ∈ registry.steps) : step ∈ registry.steps := by
  cases h with
  | itself leaf => exact declared
  | subStep kind turn passed found => exact (Registry.mem_of_get?_eq_some found).1

/-- A dispatch sends what the steps that it executes send. -/
theorem sent_of_dispatch
    (each : ∀ step c' log', top.Executes source registry c log step c' log' →
      Sent P log' (runLeaf source step c' log').2) :
    Sent P log (dispatch source registry top c log).log := by
  have before {settings : CompositeSettings} {done rest : List String} {deltas : List Delta}
      {mid : Context} {now : QueryLog} (kind : top.settings = .composite settings)
      (turn : settings.steps = done ++ rest)
      (passes : SubStepsPass source registry done c log deltas mid now) : Sent P log now := by
    refine passes.sent fun done' id rest' sub deltas' mid' now' turn' passed found => ?_
    rw [turn', List.append_assoc, List.cons_append] at turn
    exact each sub mid' now' (.subStep kind turn passed found)
  have came := top.comesTo_dispatch source registry c log
  generalize dispatch source registry top c log = d at came ⊢
  cases came with
  | leaf leaf ran =>
      have own := each top c log (.itself leaf)
      rwa [ran] at own
  | empty => exact .refl log
  | passed kind passes => exact before kind (List.append_nil _).symm passes
  | failed kind turn passes fails =>
      obtain ⟨-, -, rfl⟩ | ⟨sub, own, found, ran, -⟩ := fails.unknown_or_failed
      · exact before kind turn passes
      · have last := each sub _ _ (.subStep kind turn passes found)
        rw [ran] at last
        exact (before kind turn passes).trans last
  | unanswered kind turn passes unanswered =>
      obtain ⟨sub, found, ran⟩ := unanswered
      have last := each sub _ _ (.subStep kind turn passes found)
      rw [ran] at last
      exact (before kind turn passes).trans last

/-- A dispatch that fails does so as a step that it executes, or for its list of sub-steps. -/
theorem exists_executes_of_fail {cause : StepFailure}
    (failed : (dispatch source registry top c log).outcome = .ok (.fail cause)) :
    (∃ step c' log', top.Executes source registry c log step c' log' ∧
      (runLeaf source step c' log').1 = .ok (.fail cause.origin)) ∨
    cause = .emptyComposite ∨ ∃ id, cause = .subStepNotFound id := by
  have came := top.comesTo_dispatch source registry c log
  generalize dispatch source registry top c log = d at came failed
  cases came with
  | @leaf answer after leaf ran =>
      cases answer with
      | error e => cases failed
      | ok v =>
          cases failed
          refine .inl ⟨top, c, log, .itself leaf, ?_⟩
          rw [ran, (yields_of_runLeaf ran).origin_eq]
  | empty =>
      cases failed
      exact .inr (.inl rfl)
  | passed => cases failed
  | @failed settings done rest id deltas mid now after cause kind turn passes fails =>
      cases failed
      obtain ⟨-, rfl, -⟩ | ⟨sub, own, found, ran, rfl⟩ := fails.unknown_or_failed
      · exact .inr (.inr ⟨id, rfl⟩)
      · refine .inl ⟨sub, mid, now, .subStep kind turn passes found, ?_⟩
        rw [ran, StepFailure.origin, (yields_of_runLeaf ran).origin_eq]
  | unanswered => cases failed

theorem exists_executes_of_error {e : StepError}
    (broke : (dispatch source registry top c log).outcome = .error e) :
    ∃ step c' log' cause, top.Executes source registry c log step c' log' ∧
      (runLeaf source step c' log').1 = .error cause ∧ e = .source cause := by
  have came := top.comesTo_dispatch source registry c log
  generalize dispatch source registry top c log = d at came broke
  cases came with
  | @leaf answer after leaf ran =>
      cases answer with
      | error cause =>
          cases broke
          exact ⟨top, c, log, cause, .itself leaf, by rw [ran], rfl⟩
      | ok v => cases broke
  | empty => cases broke
  | passed => cases broke
  | failed => cases broke
  | @unanswered settings done rest id deltas mid now after cause kind turn passes unanswered =>
      cases broke
      obtain ⟨sub, found, ran⟩ := unanswered
      exact ⟨sub, mid, now, cause, .subStep kind turn passes found, by rw [ran], rfl⟩

/-- A step without a verdict has sent a query that the source does not answer. -/
theorem exists_asks_of_error {e : SourceError} (broke : (runLeaf source step c log).1 = .error e) :
    ∃ before q, step.Asks c q ∧ Inquiry.errorOf? source before q = some e := by
  obtain ⟨before, q, since, after, answer⟩ :=
    (forwards_runLeaf source step c).breaks log e _ (Prod.ext broke rfl)
  exact ⟨before, q, (sends_runLeaf source step c log).each before q since
    (after ▸ List.prefix_rfl), answer⟩

end Dispatch

namespace Run

variable {r : Run} {entry : Option String} {c : Context} {log : QueryLog} {s : RunState}
  {top step : Step} {c' : Context} {log' : QueryLog} {P : QueryLog → Query → Prop}

/-- The steps that a run executes: those of its dispatches. -/
def Executes (r : Run) (entry : Option String) (c : Context) (log : QueryLog) (step : Step)
    (c' : Context) (log' : QueryLog) : Prop :=
  ∃ s top, r.Reaches entry c log s ∧ r.Dispatches s top ∧
    top.Executes r.source r.registry (r.contextAt s top) s.log step c' log'

theorem Executes.mem_steps (h : r.Executes entry c log step c' log') :
    step ∈ r.registry.steps := by
  obtain ⟨s, top, -, dispatched, executed⟩ := h
  exact executed.mem_steps dispatched.mem_steps

theorem Executes.extends (h : r.Executes entry c log step c' log') : c'.Extends c := by
  obtain ⟨s, top, reached, -, executed⟩ := h
  exact executed.extends.trans ((Context.extends_traced ..).trans (extends_of_reaches reached))

section Sent

variable (each : ∀ step c' log', r.Executes entry c log step c' log' →
  Sent P log' (runLeaf r.source step c' log').2)
include each

theorem sent_of_dispatchAt (reached : r.Reaches entry c log s) (dispatched : r.Dispatches s top) :
    Sent P s.log (r.dispatchAt s top).log :=
  sent_of_dispatch fun step c' log' executed =>
    each step c' log' ⟨s, top, reached, dispatched, executed⟩

theorem sent_of_reaches (reached : r.Reaches entry c log s) : Sent P log s.log := by
  have kept : r.Reaches entry c log s ∧ Sent P log s.log := by
    refine reached.keeps (P := fun s => r.Reaches entry c log s ∧ Sent P log s.log)
      ⟨.refl, .refl log⟩ ?_
    rintro s t ⟨reached, sent⟩ advanced
    refine ⟨reached.tail advanced, sent.trans ?_⟩
    cases advanced with
    | pass dispatched passed merged => exact sent_of_dispatchAt each reached dispatched
  exact kept.2

theorem Ends.sent {result : Except RunError RunOutcome} {after : QueryLog}
    (reached : r.Reaches entry c log s) (h : r.Ends s result after) : Sent P log after := by
  have before := sent_of_reaches each reached
  cases h with
  | completed => exact before
  | exceeded => exact before
  | repeated => exact before
  | dangling => exact before
  | errored dispatched broke => exact before.trans (sent_of_dispatchAt each reached dispatched)
  | terminated dispatched failed policy =>
      exact before.trans (sent_of_dispatchAt each reached dispatched)
  | failed dispatched failed policy =>
      exact before.trans (sent_of_dispatchAt each reached dispatched)
  | rejected dispatched passed refused =>
      exact before.trans (sent_of_dispatchAt each reached dispatched)

end Sent

theorem exists_executes_of_fail (reached : r.Reaches entry c log s)
    (dispatched : r.Dispatches s top) {cause : StepFailure}
    (failed : (r.dispatchAt s top).outcome = .ok (.fail cause)) :
    (∃ step c' log', r.Executes entry c log step c' log' ∧
      (runLeaf r.source step c' log').1 = .ok (.fail cause.origin)) ∨
    cause = .emptyComposite ∨ ∃ id, cause = .subStepNotFound id := by
  obtain ⟨step, c', log', executed, ran⟩ | list := RootCause.exists_executes_of_fail failed
  · exact .inl ⟨step, c', log', ⟨s, top, reached, dispatched, executed⟩, ran⟩
  · exact .inr list

theorem Ends.exists_executes_of_error {id : String} {e : StepError} {after : QueryLog}
    (reached : r.Reaches entry c log s) (h : r.Ends s (.error (.step id e)) after) :
    ∃ step c' log' cause, r.Executes entry c log step c' log' ∧
      (runLeaf r.source step c' log').1 = .error cause ∧ e = .source cause := by
  cases h with
  | @errored top e dispatched broke =>
      obtain ⟨step, c', log', cause, executed, ran, rfl⟩ := RootCause.exists_executes_of_error broke
      exact ⟨step, c', log', cause, ⟨s, top, reached, dispatched, executed⟩, ran, rfl⟩

end Run

namespace Workflow

variable {w : Workflow} {source : Source} {clock : Nat → Instant} {c : Context} {log : QueryLog}

/-- A run sends what its executed steps send. -/
theorem sent_of_run {P : QueryLog → Query → Prop}
    (each : ∀ registry, Registry.ofWorkflow w = .ok registry → ∀ step c' log',
      (Run.mk source registry clock).Executes w.entry? c log step c' log' →
        Sent P log' (runLeaf source step c' log').2) :
    Sent P log (w.run source clock c log).2 := by
  rcases w.run_cases source clock c log with
    ⟨e, -, refused⟩ | ⟨-, refused⟩ | ⟨registry, s, built, reached, ended⟩
  · rw [refused]
    exact .refl log
  · rw [refused]
    exact .refl log
  · exact Run.Ends.sent (each registry built) reached ended

end Workflow

end RootCause
