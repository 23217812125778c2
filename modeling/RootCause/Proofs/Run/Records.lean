import Mathlib.Data.List.Chain
import Mathlib.Data.List.Nodup
import RootCause.Proofs.Context.Merge
import RootCause.Proofs.Run.Course
import RootCause.Proofs.Step.Verdict
import RootCause.Time.Unix

/-!
The records of a run: one walk through the declared steps, which the trace follows entry by
entry and whose last record tells how the run came to its status.
-/

namespace RootCause

namespace StepRecord

/-- A pass that names the step of the other record as the next one. -/
def HandsTo (a b : StepRecord) : Prop := a.status = .pass ∧ a.next = some b.stepId

/-- The record is of a step, and names none as the next one that the step does not refer to. -/
structure IsOf (record : StepRecord) (step : Step) : Prop where
  stepId : record.stepId = step.id
  stepType : record.stepType = step.typeName
  next : ∀ id, record.next = some id → id ∈ step.references

end StepRecord

/-- The trace has one more entry for each record, of the same id and type. -/
def Context.TracedFrom (after before : Context) (records : List StepRecord) : Prop :=
  ∃ entries, after.executionTrace = before.executionTrace ++ entries ∧
    entries.map (fun t => (t.stepId, t.stepType)) =
      records.map (fun r => (r.stepId, r.stepType))

/-- Control enters at an entry, goes from record to record and comes out at a pointer. -/
inductive Handover (entry : Option String) : List StepRecord → Option String → Prop
  | enter : Handover entry [] entry
  | pass {records : List StepRecord} {record : StepRecord}
      (arrived : Handover entry records (some record.stepId))
      (passed : record.status = .pass) : Handover entry (records ++ [record]) record.next

namespace Handover

variable {entry pointer : Option String} {records : List StepRecord} {last : StepRecord}

theorem isChain (h : Handover entry records pointer) (arrived : pointer = some last.stepId) :
    (records ++ [last]).IsChain StepRecord.HandsTo := by
  induction h generalizing last with
  | enter => exact List.isChain_singleton last
  | @pass records record _ passed ih =>
      refine List.IsChain.append (ih rfl) (List.isChain_singleton last) ?_
      intro a ha b hb
      rw [List.getLast?_concat] at ha
      cases ha
      cases hb
      exact ⟨passed, arrived⟩

theorem head? (h : Handover entry records pointer) (arrived : pointer = some last.stepId) :
    (records ++ [last]).head?.map (·.stepId) = entry := by
  induction h generalizing last with
  | enter => exact arrived.symm
  | @pass records record _ _ ih =>
      rw [← ih rfl, List.append_assoc]
      cases records <;> rfl

end Handover

/-- What holds at every state of a run. -/
structure RunState.OnCourse (registry : Registry) (entry : Option String) (start : Context)
    (s : RunState) : Prop where
  handover : Handover entry s.records s.pointer
  distinct : (s.records.map (·.stepId)).Nodup
  bounded : s.records.length ≤ maxDispatchedSteps
  declared : ∀ record ∈ s.records, ∃ step ∈ registry.steps, record.IsOf step
  traced : s.context.TracedFrom start s.records

/-- The sub-steps of a composite leave no trace. -/
theorem executionTrace_of_dispatch (source : Source) (registry : Registry) (step : Step)
    (c : Context) (log : QueryLog) :
    (dispatch source registry step c log).context.executionTrace = c.executionTrace := by
  apply context_of_dispatch (P := fun c' => c'.executionTrace = c.executionTrace)
  · intro before after sub d target same _ merged
    rw [Context.executionTrace_of_merge merged]
    exact same
  · rfl

theorem Context.executionTrace_of_merge? {c c' : Context} {delta : Option Delta}
    (h : c.merge? delta = .ok c') : c'.executionTrace = c.executionTrace := by
  cases delta with
  | none => cases h; rfl
  | some d => exact executionTrace_of_merge h

namespace Run

variable {r : Run} {s t : RunState} {registry : Registry} {entry : Option String}
  {start : Context}

/-- A dispatched step is traced right away, whatever it comes to. -/
theorem tracedFrom_dispatchAt (traced : s.context.TracedFrom start s.records) (step : Step)
    (v : Verdict) :
    (r.dispatchAt s step).context.TracedFrom start (s.records ++ [.ofVerdict step v]) := by
  obtain ⟨entries, grown, matched⟩ := traced
  refine ⟨entries ++ [⟨step.id, step.typeName, r.clock s.records.length⟩], ?_, ?_⟩
  · unfold dispatchAt
    rw [executionTrace_of_dispatch, Context.traced, grown, List.append_assoc]
  · rw [List.map_append, List.map_append, matched]
    cases v <;> rfl

theorem isOf_of_dispatchAt {step : Step} {v : Verdict}
    (h : (r.dispatchAt s step).outcome = .ok v) : (StepRecord.ofVerdict step v).IsOf step := by
  cases v with
  | pass delta next =>
      refine ⟨rfl, rfl, ?_⟩
      rintro id rfl
      exact mem_references_of_dispatch h
  | fail cause =>
      refine ⟨rfl, rfl, ?_⟩
      intro id h
      cases h

/-- The records with one more of a step that is dispatched now. -/
theorem records_of_dispatches {step : Step} {v : Verdict}
    (course : s.OnCourse r.registry entry start) (dispatched : r.Dispatches s step)
    (h : (r.dispatchAt s step).outcome = .ok v) :
    ((s.records ++ [StepRecord.ofVerdict step v]).map (·.stepId)).Nodup ∧
      (s.records ++ [StepRecord.ofVerdict step v]).length ≤ maxDispatchedSteps ∧
      ∀ record ∈ s.records ++ [StepRecord.ofVerdict step v],
        ∃ step ∈ r.registry.steps, record.IsOf step := by
  have own := isOf_of_dispatchAt h
  refine ⟨?_, ?_, ?_⟩
  · rw [List.map_append, List.nodup_append]
    refine ⟨course.distinct, List.nodup_singleton _, ?_⟩
    intro a ha b hb same
    rw [List.map_singleton, List.mem_singleton, own.stepId] at hb
    rw [same, hb] at ha
    exact dispatched.fresh ha
  · rw [List.length_append, List.length_singleton]
    exact dispatched.room
  · intro record member
    rcases List.mem_append.1 member with earlier | now
    · exact course.declared record earlier
    · rw [List.mem_singleton.1 now]
      exact ⟨step, dispatched.mem_steps, own⟩

theorem onCourse_of_advances (course : s.OnCourse r.registry entry start)
    (h : r.Advances s t) : t.OnCourse r.registry entry start := by
  cases h with
  | @pass step delta next c dispatched passed merged =>
      obtain ⟨distinct, bounded, declared⟩ := records_of_dispatches course dispatched passed
      refine ⟨?_, distinct, bounded, declared, ?_⟩
      · have arrived := course.handover
        rw [dispatched.pointer] at arrived
        have handed : Handover entry (s.records ++ [.ofVerdict step (.pass delta next)])
            (StepRecord.ofVerdict step (.pass delta next)).next := .pass arrived rfl
        exact handed
      · obtain ⟨entries, grown, matched⟩ :=
          tracedFrom_dispatchAt (r := r) course.traced step (.pass delta next)
        refine ⟨entries, ?_, matched⟩
        rw [← grown]
        exact Context.executionTrace_of_merge? merged

theorem onCourse_of_reaches {c : Context} {log : QueryLog} (h : r.Reaches entry c log s) :
    s.OnCourse r.registry entry c := by
  refine h.keeps ⟨.enter, List.nodup_nil, Nat.zero_le _, ?_, ⟨[], ?_, rfl⟩⟩ ?_
  · intro record none
    cases none
  · exact (List.append_nil _).symm
  · intro s t course advanced
    exact onCourse_of_advances course advanced

end Run

/-- The record is of a failure of the step, and the step's own policy is to terminate. -/
structure StepRecord.Terminates (record : StepRecord) (step : Step) (policy : FailPolicy) :
    Prop where
  failed : record.status = .fail
  stepId : record.stepId = step.id
  onFail : step.onFail = some policy
  action : policy.action = .terminate

/-- The records of an outcome are one walk through the declared steps, and status and reason
are what the last record says. -/
structure RunOutcome.IsWalk (w : Workflow) (start : Context) (o : RunOutcome) : Prop where
  nonempty : o.steps ≠ []
  bounded : o.steps.length ≤ maxDispatchedSteps
  distinct : (o.steps.map (·.stepId)).Nodup
  entered : o.steps.head?.map (·.stepId) = w.steps.head?.map (·.id)
  chained : o.steps.IsChain StepRecord.HandsTo
  declared : ∀ record ∈ o.steps, ∃ step ∈ w.steps, record.IsOf step
  traced : o.context.TracedFrom start o.steps
  completed_iff : o.status = .completed ↔
    ∃ last, o.steps.getLast? = some last ∧ last.status = .pass ∧ last.next = none
  completed_reason : o.status = .completed → o.reason = none
  terminated_iff : o.status = .terminated ↔
    ∃ last step policy, o.steps.getLast? = some last ∧ step ∈ w.steps ∧
      last.Terminates step policy
  terminated_reason : o.status = .terminated →
    ∃ last step policy reason, o.steps.getLast? = some last ∧ step ∈ w.steps ∧
      last.Terminates step policy ∧ last.reason = some reason ∧
      o.reason = some (policy.reason.getD reason)

theorem Step.exists_policy {step : Step} (h : step.terminatesOnFail) :
    ∃ policy, step.onFail = some policy ∧ policy.action = .terminate ∧
      step.terminationReason? = policy.reason := by
  unfold terminationReason?
  rw [if_pos h]
  unfold terminatesOnFail at h
  split at h
  · next policy own =>
    refine ⟨policy, own, beq_iff_eq.1 h, ?_⟩
    rw [own]
    rfl
  · cases h

theorem isWalk_of_completed {w : Workflow} {registry : Registry} {start : Context}
    {s : RunState} (steps : registry.steps = w.steps) (filled : w.steps ≠ [])
    (course : s.OnCourse registry w.entry? start) (arrived : s.pointer = none) :
    RunOutcome.IsWalk w start ⟨.completed, none, s.context, s.records⟩ := by
  obtain ⟨handover, distinct, bounded, declared, traced⟩ := course
  rw [steps] at declared
  obtain ⟨pointer, records, c, log⟩ := s
  dsimp only at arrived handover distinct bounded declared traced ⊢
  cases handover with
  | enter =>
      cases hs : w.steps with
      | nil => exact absurd hs filled
      | cons first rest =>
          unfold Workflow.entry? at arrived
          rw [hs] at arrived
          cases arrived
  | @pass records last handed passed =>
      have final : (records ++ [last]).getLast? = some last := List.getLast?_concat
      refine ⟨List.concat_ne_nil last records, bounded, distinct, handed.head? rfl,
        handed.isChain rfl, declared, traced, ?_, fun _ => rfl, ?_, ?_⟩
      · exact ⟨fun _ => ⟨last, final, passed, arrived⟩, fun _ => rfl⟩
      · refine ⟨fun h => (by cases h), ?_⟩
        rintro ⟨other, step, policy, same, -, terminates⟩
        rw [final] at same
        cases same
        rw [terminates.failed] at passed
        cases passed
      · intro h
        cases h

theorem Run.isWalk_of_terminated {r : Run} {w : Workflow} {start : Context} {s : RunState}
    {step : Step} {cause : StepFailure} (steps : r.registry.steps = w.steps)
    (course : s.OnCourse r.registry w.entry? start) (dispatched : r.Dispatches s step)
    (failed : (r.dispatchAt s step).outcome = .ok (.fail cause))
    (terminates : step.terminatesOnFail) :
    RunOutcome.IsWalk w start ⟨.terminated, some (step.terminationReason?.getD cause.message),
      (r.dispatchAt s step).context, s.records ++ [.ofVerdict step (.fail cause)]⟩ := by
  obtain ⟨distinct, bounded, declared⟩ := records_of_dispatches course dispatched failed
  have traced := tracedFrom_dispatchAt (r := r) course.traced step (.fail cause)
  obtain ⟨policy, own, action, reason⟩ := step.exists_policy terminates
  have member : step ∈ w.steps := steps ▸ dispatched.mem_steps
  have handover := course.handover
  rw [dispatched.pointer] at handover
  have last : (StepRecord.ofVerdict step (.fail cause)).Terminates step policy :=
    ⟨rfl, rfl, own, action⟩
  have final : (s.records ++ [StepRecord.ofVerdict step (.fail cause)]).getLast? =
      some (.ofVerdict step (.fail cause)) := List.getLast?_concat
  rw [steps] at declared
  refine ⟨List.concat_ne_nil _ _, bounded, distinct, handover.head? rfl, handover.isChain rfl,
    declared, traced, ?_, fun h => (by cases h), ?_, fun _ => ?_⟩
  · refine ⟨fun h => (by cases h), ?_⟩
    rintro ⟨other, same, passed, -⟩
    rw [final] at same
    cases same
    cases passed
  · exact ⟨fun _ => ⟨_, step, policy, final, member, last⟩, fun _ => rfl⟩
  · refine ⟨_, step, policy, cause.message, final, member, last, rfl, ?_⟩
    rw [reason]

/-- Whenever a run has an outcome, its records are one walk through the workflow. -/
theorem Workflow.isWalk_of_run {w : Workflow} {source : Source} {clock : Nat → Instant}
    {c : Context} {log : QueryLog} {o : RunOutcome}
    (h : (w.run source clock c log).1 = .ok o) : o.IsWalk w c := by
  rcases w.run_cases source clock c log with
    ⟨e, -, refused⟩ | ⟨-, refused⟩ | ⟨registry, s, built, reached, ended⟩
  · rw [refused] at h
    cases h
  · rw [refused] at h
    cases h
  · obtain ⟨steps, filled⟩ := Registry.steps_of_ofWorkflow built
    have course := Run.onCourse_of_reaches reached
    rw [h] at ended
    generalize (w.run source clock c log).2 = after at ended
    cases ended with
    | completed arrived => exact isWalk_of_completed steps filled course arrived
    | terminated dispatched failed terminates =>
        exact Run.isWalk_of_terminated steps course dispatched failed terminates

/-- A branch that routes to a validation, which terminates the run on a failure. -/
def Workflow.routeToTenant : Workflow where
  id := "tenant-route"
  version := "1"
  description := none
  steps := [
    ⟨"route", .branch ⟨[], some ⟨some "tenant"⟩⟩, none, none⟩,
    ⟨"tenant", .validation ⟨[]⟩, none, some ⟨.terminate, some "no tenant"⟩⟩]
  metadata := ∅

/-- What its run comes to without a tenant. -/
def RunOutcome.withoutTenant (c : Context) : RunOutcome where
  status := .terminated
  reason := some "no tenant"
  context := { c with
    executionTrace := c.executionTrace ++
      [⟨"route", "branch", .epoch⟩, ⟨"tenant", "validation", .epoch⟩] }
  steps := [
    ⟨"route", "branch", .pass, some "tenant", none⟩,
    ⟨"tenant", "validation", .fail, none, some StepFailure.missingTenant.message⟩]

theorem RunOutcome.isWalk_withoutTenant :
    (withoutTenant (.ofMeta ⟨"", "cvr", none, none, none⟩)).IsWalk .routeToTenant
      (.ofMeta ⟨"", "cvr", none, none, none⟩) := by
  have ran : (Workflow.routeToTenant.run .silent (fun _ => .epoch)
      (.ofMeta ⟨"", "cvr", none, none, none⟩) []).1 =
      .ok (withoutTenant (.ofMeta ⟨"", "cvr", none, none, none⟩)) := rfl
  exact Workflow.isWalk_of_run ran

end RootCause
