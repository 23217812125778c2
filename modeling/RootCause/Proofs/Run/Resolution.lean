import RootCause.Proofs.Run.Course
import RootCause.Proofs.Step.Composite
import RootCause.Proofs.Workflow.Validation
import RootCause.Time.Unix

/-!
Runs of a validated workflow find every step that they look up. A run goes only to ids that a
declared step refers to, and validation has checked that these are declared.
-/

namespace RootCause

/-- A composite without sub-steps, or with one that is missing, is to blame. -/
def StepFailure.IsUnresolved : StepFailure → Prop
  | .emptyComposite => True
  | .subStepNotFound _ => True
  | .subStepFailed cause _ => cause.IsUnresolved
  | _ => False

theorem StepFailure.kind_of_isUnresolved {cause : StepFailure} (h : cause.IsUnresolved) :
    cause.kind = .composite := by
  cases cause with
  | emptyComposite => rfl
  | subStepNotFound id => rfl
  | subStepFailed own reason => rfl
  | _ => exact h.elim

/-- A leaf looks nothing up. -/
theorem Step.Yields.not_isUnresolved {step : Step} {c : Context} {cause : StepFailure}
    (h : step.Yields c (.fail cause)) : ¬cause.IsUnresolved := by
  obtain ⟨own, leaf⟩ | ⟨-, rfl⟩ := h.fail_cases
  · exact fun unresolved => leaf (own.symm.trans (StepFailure.kind_of_isUnresolved unresolved))
  · exact fun unresolved => unresolved

section WellFormed

variable {w : Workflow} {registry : Registry} {source : Source} {step : Step}

theorem Registry.exists_of_mem_stepIds (steps : registry.steps = w.steps) {id : String}
    (declared : id ∈ w.stepIds) : ∃ step, registry.get? id = some step :=
  exists_of_mem_ids (by rw [steps]; exact declared)

theorem Step.mem_references_of_composite {settings : CompositeSettings} {id : String}
    (kind : step.settings = .composite settings) (h : id ∈ settings.steps) :
    id ∈ step.references := by
  unfold references
  rw [kind]
  exact List.mem_append_right _ h

/-- No step of a well-formed workflow fails for what it refers to, in any context. -/
theorem not_isUnresolved_of_dispatch (wellFormed : w.WellFormed)
    (steps : registry.steps = w.steps) (declared : step ∈ w.steps) {c : Context}
    {log : QueryLog} {cause : StepFailure}
    (failed : (dispatch source registry step c log).outcome = .ok (.fail cause)) :
    ¬cause.IsUnresolved := by
  have came := step.comesTo_dispatch source registry c log
  generalize dispatch source registry step c log = d at came failed
  cases came with
  | @leaf answer after leaf ran =>
      cases answer with
      | error e => cases failed
      | ok v =>
          cases failed
          exact (yields_of_runLeaf ran).not_isUnresolved
  | empty kind none =>
      exact absurd none (step.steps_ne_nil_of_settled (wellFormed.settled step declared) kind)
  | passed => cases failed
  | @failed settings done rest id deltas mid now after own kind turn passes fails =>
      cases failed
      obtain ⟨missing, -⟩ | ⟨sub, own, found, ran, rfl⟩ := fails.unknown_or_failed
      · have listed : id ∈ settings.steps := by
          rw [turn]
          exact List.mem_append_right done List.mem_cons_self
        have target : id ∈ w.stepIds :=
          wellFormed.closed step declared id (Step.mem_references_of_composite kind listed)
        obtain ⟨sub, found⟩ := Registry.exists_of_mem_stepIds steps target
        rw [found] at missing
        cases missing
      · exact (yields_of_runLeaf ran).not_isUnresolved
  | unanswered => cases failed

namespace Run

variable {r : Run} {s t : RunState} {c : Context} {log : QueryLog}

/-- The pointer of a state is a declared id. -/
def Resolved (w : Workflow) (s : RunState) : Prop := ∀ id, s.pointer = some id → id ∈ w.stepIds

theorem Resolved.entry : Resolved w ⟨w.entry?, [], c, log⟩ := by
  intro id entry
  obtain ⟨first, head, rfl⟩ := Option.map_eq_some_iff.1 entry
  exact List.mem_map.2 ⟨first, List.mem_of_head? head, rfl⟩

/-- A step that passes refers to where it goes. -/
theorem Advances.resolved (wellFormed : w.WellFormed) (steps : r.registry.steps = w.steps)
    (h : r.Advances s t) : Resolved w t := by
  cases h with
  | @pass step delta next c dispatched passed merged =>
      rintro id rfl
      exact wellFormed.closed step (steps ▸ dispatched.mem_steps) id
        (mem_references_of_dispatch passed)

theorem resolved_of_reaches (wellFormed : w.WellFormed) (steps : r.registry.steps = w.steps)
    (h : r.Reaches w.entry? c log s) : Resolved w s :=
  h.keeps .entry fun _ _ _ advanced => advanced.resolved wellFormed steps

/-- A run that stops at a declared id stops for its length or for coming back. -/
theorem Ends.graph (steps : r.registry.steps = w.steps) (resolved : Resolved w s)
    {e : GraphError} {after : QueryLog} (h : r.Ends s (.error (.graph e)) after) :
    (∃ id, e = .cycleDetected id) ∨ e = .stepLimitExceeded maxDispatchedSteps := by
  cases h with
  | exceeded pointer full => exact .inr rfl
  | repeated pointer room seen => exact .inl ⟨_, rfl⟩
  | dangling pointer missing =>
      obtain ⟨step, found⟩ := Registry.exists_of_mem_stepIds steps (resolved _ pointer)
      rw [found] at missing
      cases missing

theorem Dispatches.not_isUnresolved (wellFormed : w.WellFormed)
    (steps : r.registry.steps = w.steps) (dispatched : r.Dispatches s step)
    {cause : StepFailure} (failed : (r.dispatchAt s step).outcome = .ok (.fail cause)) :
    ¬cause.IsUnresolved :=
  not_isUnresolved_of_dispatch wellFormed steps (steps ▸ dispatched.mem_steps) failed

theorem Ends.failure (wellFormed : w.WellFormed) (steps : r.registry.steps = w.steps)
    {id : String} {cause : StepFailure} {after : QueryLog}
    (h : r.Ends s (.error (.stepFailed id cause)) after) : ¬cause.IsUnresolved := by
  cases h with
  | failed dispatched failed policy =>
      exact dispatched.not_isUnresolved wellFormed steps failed

end Run

end WellFormed

theorem Workflow.ends_of_run_eq_error {w : Workflow} {registry : Registry} {source : Source}
    {clock : Nat → Instant} {c : Context} {log : QueryLog} {e : RunError}
    (built : Registry.ofWorkflow w = .ok registry)
    (h : (w.run source clock c log).1 = .error e) :
    e = .missingContext ∨ ∃ s after, (Run.mk source registry clock).Reaches w.entry? c log s ∧
      (Run.mk source registry clock).Ends s (.error e) after := by
  rcases w.run_cases source clock c log with
    ⟨e', refused, -⟩ | ⟨-, result⟩ | ⟨registry', s, built', reached, ended⟩
  · rw [built] at refused
    cases refused
  · rw [result] at h
    cases h
    exact .inl rfl
  · rw [built] at built'
    cases built'
    rw [h] at ended
    exact .inr ⟨s, _, reached, ended⟩

/-- A run has its registry, comes to no id that is missing there, and no composite that it
dispatches fails for its list of sub-steps. -/
structure Workflow.Resolves (w : Workflow) (source : Source) (clock : Nat → Instant)
    (c : Context) (log : QueryLog) : Prop where
  registered : ∃ registry, Registry.ofWorkflow w = .ok registry
  graph : ∀ e, (w.run source clock c log).1 = .error (.graph e) →
    (∃ id, e = .cycleDetected id) ∨ e = .stepLimitExceeded maxDispatchedSteps
  failure : ∀ id cause, (w.run source clock c log).1 = .error (.stepFailed id cause) →
    ¬cause.IsUnresolved
  dispatched : ∀ registry s step cause, Registry.ofWorkflow w = .ok registry →
    (Run.mk source registry clock).Reaches w.entry? c log s →
    (Run.mk source registry clock).Dispatches s step →
    ((Run.mk source registry clock).dispatchAt s step).outcome = .ok (.fail cause) →
    ¬cause.IsUnresolved

/-- What validation accepts is resolved throughout, in every run from any context. -/
theorem Workflow.resolves_of_validate {w : Workflow} (valid : w.validate = .ok ())
    (source : Source) (clock : Nat → Instant) (c : Context) (log : QueryLog) :
    w.Resolves source clock c log := by
  have wellFormed := validate_eq_ok_iff.1 valid
  obtain ⟨registry, built⟩ := Registry.exists_ofWorkflow wellFormed.filled wellFormed.distinct
  have steps := (Registry.steps_of_ofWorkflow built).1
  refine ⟨⟨registry, built⟩, ?_, ?_, ?_⟩
  · intro e graph
    obtain missing | ⟨s, after, reached, ended⟩ := ends_of_run_eq_error built graph
    · cases missing
    · exact ended.graph steps (Run.resolved_of_reaches wellFormed steps reached)
  · intro id cause failed
    obtain missing | ⟨s, after, -, ended⟩ := ends_of_run_eq_error built failed
    · cases missing
    · exact ended.failure wellFormed steps
  · intro registry s step cause built _ dispatched failed
    exact dispatched.not_isUnresolved wellFormed (Registry.steps_of_ofWorkflow built).1 failed

/-- A composite with a branch that names it again and a validation. -/
def Workflow.grouped : Workflow where
  id := "grouped"
  version := "1"
  description := none
  steps := [
    ⟨"group", .composite ⟨["choice", "tenant"]⟩, none, none⟩,
    ⟨"choice", .branch ⟨[], some ⟨some "group"⟩⟩, some "tenant", none⟩,
    ⟨"tenant", .validation ⟨[]⟩, none, none⟩]
  metadata := ∅

theorem Workflow.resolves_grouped :
    grouped.Resolves .silent (fun _ => .epoch) (.ofMeta ⟨"", "cvr", none, none, none⟩) [] := by
  have valid : grouped.validate = .ok () := rfl
  exact resolves_of_validate valid _ _ _ _

end RootCause
