import Mathlib.Logic.Relation
import RootCause.Run

/-!
The course of a run as a relation on its states: `Advances` leads from one dispatch to the
next, `Ends` says how a run stops at a state. Every run reaches a state at which it ends, so
what holds at the start and is kept by `Advances` holds of every run.
-/

namespace RootCause

open Relation (ReflTransGen)

/-- Where a run stands between two dispatches. -/
structure RunState where
  pointer : Option String
  records : List StepRecord
  context : Context
  log : QueryLog

namespace Registry

theorem mem_of_get?_eq_some {registry : Registry} {id : String} {step : Step}
    (h : registry.get? id = some step) : step ∈ registry.steps ∧ step.id = id :=
  have hid := List.find?_some (p := fun s : Step => s.id == id) h
  ⟨List.mem_of_find?_eq_some h, beq_iff_eq.1 hid⟩

end Registry

namespace Run

/-- The dispatch of a step at a state. The step is in the trace by then. -/
def dispatchAt (r : Run) (s : RunState) (step : Step) : Dispatch :=
  dispatch r.source r.registry step (s.context.traced step (r.clock s.records.length)) s.log

/-- The step that a run dispatches at a state: within the limit, not dispatched before, and
in the registry. -/
structure Dispatches (r : Run) (s : RunState) (step : Step) : Prop where
  pointer : s.pointer = some step.id
  room : s.records.length < maxDispatchedSteps
  fresh : step.id ∉ s.records.map (·.stepId)
  found : r.registry.get? step.id = some step

theorem Dispatches.mem_steps {r : Run} {s : RunState} {step : Step}
    (h : r.Dispatches s step) : step ∈ r.registry.steps :=
  (Registry.mem_of_get?_eq_some h.found).1

/-- The step passes, its delta is merged and control goes where it says. -/
inductive Advances (r : Run) (s : RunState) : RunState → Prop
  | pass {step : Step} {delta : Option Delta} {next : Option String} {c : Context}
      (dispatched : r.Dispatches s step)
      (passed : (r.dispatchAt s step).outcome = .ok (.pass delta next))
      (merged : (r.dispatchAt s step).context.merge? delta = .ok c) :
      Advances r s ⟨next, s.records ++ [.ofVerdict step (.pass delta next)], c,
        (r.dispatchAt s step).log⟩

theorem Advances.of_dispatchAt {r : Run} {s : RunState} {step : Step} {delta : Option Delta}
    {next : Option String} {left c : Context} {after : QueryLog}
    (dispatched : r.Dispatches s step)
    (done : r.dispatchAt s step = ⟨.ok (.pass delta next), left, after⟩)
    (merged : left.merge? delta = .ok c) :
    r.Advances s ⟨next, s.records ++ [.ofVerdict step (.pass delta next)], c, after⟩ := by
  have advanced : r.Advances s _ :=
    .pass dispatched (congrArg Dispatch.outcome done) (by rw [done]; exact merged)
  rw [done] at advanced
  exact advanced

/-- The ways a run stops at a state, with its result and the queries sent by then. -/
inductive Ends (r : Run) (s : RunState) : Except RunError RunOutcome → QueryLog → Prop
  | completed (arrived : s.pointer = none) :
      Ends r s (.ok ⟨.completed, none, s.context, s.records⟩) s.log
  | exceeded {id : String} (pointer : s.pointer = some id)
      (full : maxDispatchedSteps ≤ s.records.length) :
      Ends r s (.error (.graph (.stepLimitExceeded maxDispatchedSteps))) s.log
  | repeated {id : String} (pointer : s.pointer = some id)
      (room : s.records.length < maxDispatchedSteps)
      (seen : id ∈ s.records.map (·.stepId)) :
      Ends r s (.error (.graph (.cycleDetected id))) s.log
  | dangling {id : String} (pointer : s.pointer = some id)
      (missing : r.registry.get? id = none) :
      Ends r s (.error (.graph (.stepNotFound id))) s.log
  | errored {step : Step} {e : StepError} (dispatched : r.Dispatches s step)
      (broke : (r.dispatchAt s step).outcome = .error e) :
      Ends r s (.error (.step step.id e)) (r.dispatchAt s step).log
  | terminated {step : Step} {cause : StepFailure} (dispatched : r.Dispatches s step)
      (failed : (r.dispatchAt s step).outcome = .ok (.fail cause))
      (policy : step.terminatesOnFail) :
      Ends r s (.ok ⟨.terminated, some (step.terminationReason?.getD cause.message),
        (r.dispatchAt s step).context, s.records ++ [.ofVerdict step (.fail cause)]⟩)
        (r.dispatchAt s step).log
  | failed {step : Step} {cause : StepFailure} (dispatched : r.Dispatches s step)
      (failed : (r.dispatchAt s step).outcome = .ok (.fail cause))
      (policy : ¬step.terminatesOnFail) :
      Ends r s (.error (.stepFailed step.id cause)) (r.dispatchAt s step).log
  | rejected {step : Step} {delta : Option Delta} {next : Option String} {e : MergeError}
      (dispatched : r.Dispatches s step)
      (passed : (r.dispatchAt s step).outcome = .ok (.pass delta next))
      (refused : (r.dispatchAt s step).context.merge? delta = .error e) :
      Ends r s (.error (.immutableField e)) (r.dispatchAt s step).log

/-- What following the pointer of a state comes to. -/
def followFrom (r : Run) (s : RunState) : Except RunError RunOutcome × QueryLog :=
  r.follow (maxDispatchedSteps - s.records.length) s.pointer s.records s.context s.log

/-- One round of a run either ends it or advances it. -/
theorem ends_or_advances (r : Run) (s : RunState) :
    r.Ends s (r.followFrom s).1 (r.followFrom s).2 ∨
      ∃ t, r.Advances s t ∧ r.followFrom s = r.followFrom t := by
  unfold followFrom
  cases hp : s.pointer with
  | none =>
      rw [follow]
      exact .inl (.completed hp)
  | some id =>
      cases hleft : maxDispatchedSteps - s.records.length with
      | zero =>
          rw [follow]
          exact .inl (.exceeded hp (Nat.sub_eq_zero_iff_le.1 hleft))
      | succ left =>
          have room : s.records.length < maxDispatchedSteps := by omega
          rw [follow]
          split
          · next seen =>
            obtain ⟨record, hrecord, same⟩ := List.any_eq_true.1 seen
            exact .inl (.repeated hp room
              (List.mem_map.2 ⟨record, hrecord, beq_iff_eq.1 same⟩))
          · next unseen =>
            split
            · next missing => exact .inl (.dangling hp missing)
            · next step found =>
              obtain ⟨-, rfl⟩ := Registry.mem_of_get?_eq_some found
              have dispatched : r.Dispatches s step := by
                refine ⟨hp, room, ?_, found⟩
                intro seen
                obtain ⟨record, hrecord, same⟩ := List.mem_map.1 seen
                exact unseen (List.any_eq_true.2 ⟨record, hrecord, beq_iff_eq.2 same⟩)
              dsimp only
              split
              · next e broke => exact .inl (.errored dispatched broke)
              · next v verdict =>
                split
                · next cause =>
                  split
                  · next policy => exact .inl (.terminated dispatched verdict policy)
                  · next policy => exact .inl (.failed dispatched verdict policy)
                · next delta next =>
                  split
                  · next e refused => exact .inl (.rejected dispatched verdict refused)
                  · next c merged =>
                    refine .inr ⟨_, .pass dispatched verdict merged, ?_⟩
                    have spent : maxDispatchedSteps - (s.records.length + 1) = left := by omega
                    rw [List.length_append, List.length_singleton, spent]
                    rfl

/-- A run that advances comes to what the run from the next state comes to. -/
theorem followFrom_of_advances {r : Run} {s t : RunState} (h : r.Advances s t) :
    r.followFrom s = r.followFrom t := by
  cases h with
  | @pass step delta next c dispatched passed merged =>
      obtain ⟨pointer, room, fresh, found⟩ := dispatched
      obtain ⟨left, hleft⟩ : ∃ left, maxDispatchedSteps - s.records.length = left + 1 :=
        ⟨maxDispatchedSteps - s.records.length - 1, by omega⟩
      have spent : maxDispatchedSteps - (s.records.length + 1) = left := by omega
      have unseen : s.records.any (·.stepId == step.id) = false := by
        refine Bool.eq_false_iff.2 fun seen => fresh ?_
        obtain ⟨record, hrecord, same⟩ := List.any_eq_true.1 seen
        exact List.mem_map.2 ⟨record, hrecord, beq_iff_eq.1 same⟩
      have dispatched : dispatch r.source r.registry step
          (s.context.traced step (r.clock s.records.length)) s.log = r.dispatchAt s step := rfl
      unfold followFrom
      rw [pointer, hleft, follow, unseen, found]
      simp only [Bool.false_eq_true, ↓reduceIte, dispatched, passed, merged,
        List.length_append, List.length_singleton, spent]

/-- Every run reaches a state at which it ends. Each round uses up room for one record. -/
theorem exists_reaches_ends (r : Run) (s : RunState) :
    ∃ t, ReflTransGen r.Advances s t ∧ r.Ends t (r.followFrom s).1 (r.followFrom s).2 := by
  induction hleft : maxDispatchedSteps - s.records.length using Nat.strongRecOn
    generalizing s with
  | ind left ih =>
      rcases r.ends_or_advances s with ended | ⟨t, advanced, same⟩
      · exact ⟨s, .refl, ended⟩
      · have fewer : maxDispatchedSteps - t.records.length < left := by
          cases advanced with
          | pass dispatched passed merged =>
              have room := dispatched.room
              rw [← hleft, List.length_append, List.length_singleton]
              omega
        obtain ⟨u, reached, ended⟩ := ih _ fewer t rfl
        rw [same]
        exact ⟨u, .head advanced reached, ended⟩

/-- A run that starts at an entry step with nothing recorded comes to a state. -/
def Reaches (r : Run) (entry : Option String) (c : Context) (log : QueryLog) (s : RunState) :
    Prop :=
  ReflTransGen r.Advances ⟨entry, [], c, log⟩ s

/-- What holds before the first dispatch and is kept by each holds at every state. -/
theorem Reaches.keeps {r : Run} {entry : Option String} {c : Context} {log : QueryLog}
    {s : RunState} (reached : r.Reaches entry c log s) {P : RunState → Prop}
    (start : P ⟨entry, [], c, log⟩) (kept : ∀ s t, P s → r.Advances s t → P t) : P s := by
  induction reached with
  | refl => exact start
  | tail _ advanced ih => exact kept _ _ ih advanced

theorem start_cases (r : Run) (entry : Option String) (c : Context) (log : QueryLog) :
    (c.runMeta = none ∧ r.start entry c log = (.error .missingContext, log)) ∨
      ∃ s, r.Reaches entry c log s ∧
        r.Ends s (r.start entry c log).1 (r.start entry c log).2 := by
  unfold start
  split
  · next missing => exact .inl ⟨Option.isNone_iff_eq_none.1 missing, rfl⟩
  · exact .inr (r.exists_reaches_ends ⟨entry, [], c, log⟩)

end Run

namespace Registry

/-- A registry holds the steps of its workflow, of which there is at least one. -/
theorem steps_of_ofWorkflow {w : Workflow} {registry : Registry}
    (h : ofWorkflow w = .ok registry) : registry.steps = w.steps ∧ w.steps ≠ [] := by
  unfold ofWorkflow at h
  split at h
  · cases h
  · next filled =>
    split at h
    · cases h
    · cases h
      exact ⟨rfl, fun none => filled (List.isEmpty_iff.2 none)⟩

end Registry

/-- A run of a workflow is refused at once or ends at a state that it reaches. -/
theorem Workflow.run_cases (w : Workflow) (source : Source) (clock : Nat → Instant)
    (c : Context) (log : QueryLog) :
    (∃ e, Registry.ofWorkflow w = .error e ∧
      w.run source clock c log = (.error (.graph e), log)) ∨
    (c.runMeta = none ∧ w.run source clock c log = (.error .missingContext, log)) ∨
    ∃ registry s, Registry.ofWorkflow w = .ok registry ∧
      (Run.mk source registry clock).Reaches w.entry? c log s ∧
      (Run.mk source registry clock).Ends s (w.run source clock c log).1
        (w.run source clock c log).2 := by
  unfold Workflow.run
  cases built : Registry.ofWorkflow w with
  | error e => exact .inl ⟨e, rfl, rfl⟩
  | ok registry =>
      rcases (Run.mk source registry clock).start_cases w.entry? c log with missing | ends
      · exact .inr (.inl missing)
      · obtain ⟨s, reached, ended⟩ := ends
        exact .inr (.inr ⟨registry, s, rfl, reached, ended⟩)

end RootCause
