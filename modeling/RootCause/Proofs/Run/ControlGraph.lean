import Mathlib.Data.List.Perm.Subperm
import Mathlib.Logic.Relation
import RootCause.Proofs.Run.Records
import RootCause.Proofs.Run.Resolution

/-!
The control graph of a workflow, and the graph errors of its runs. The dispatched ids are a way
through the graph, so an id that comes up again lies on a cycle, and as many distinct ids as a
run may dispatch need as many steps.
-/

namespace RootCause

open Relation (TransGen)

namespace Workflow

/-- A step of the first id can hand control to the second. -/
def Leads (w : Workflow) (a b : String) : Prop :=
  ∃ step ∈ w.steps, step.id = a ∧ b ∈ step.targets

/-- No way through the control graph comes back to where it started. -/
def IsAcyclic (w : Workflow) : Prop := ∀ id, ¬TransGen w.Leads id id

theorem isAcyclic_of_ascending {w : Workflow} (level : String → Nat)
    (up : ∀ step ∈ w.steps, ∀ id ∈ step.targets, level step.id < level id) : w.IsAcyclic := by
  have ascends : ∀ a b, TransGen w.Leads a b → level a < level b := by
    intro a b way
    induction way with
    | single edge =>
        obtain ⟨step, member, rfl, target⟩ := edge
        exact up step member _ target
    | tail _ edge ih =>
        obtain ⟨step, member, rfl, target⟩ := edge
        exact Nat.lt_trans ih (up step member _ target)
  intro id cycle
  exact Nat.lt_irrefl _ (ascends id id cycle)

end Workflow

namespace Run

variable {r : Run} {s t : RunState} {w : Workflow} {entry : Option String} {c : Context}
  {log : QueryLog}

/-- The run came to the state by way of a dispatch of this id. -/
def HasDispatched (r : Run) (entry : Option String) (c : Context) (log : QueryLog)
    (s : RunState) (id : String) : Prop :=
  ∃ earlier step, r.Reaches entry c log earlier ∧ r.Dispatches earlier step ∧ step.id = id ∧
    TransGen r.Advances earlier s

/-- One round records the step that it dispatches and goes where this step can hand control. -/
theorem Advances.exists_dispatches (h : r.Advances s t) :
    ∃ step, r.Dispatches s step ∧
      t.records.map (·.stepId) = s.records.map (·.stepId) ++ [step.id] ∧
      ∀ id, t.pointer = some id → id ∈ step.targets := by
  cases h with
  | @pass step delta next c dispatched passed merged =>
      refine ⟨step, dispatched, ?_, ?_⟩
      · rw [List.map_append]
        rfl
      · rintro id rfl
        exact mem_targets_of_dispatch passed

/-- From every recorded id a way through the control graph leads to the pointer. -/
theorem leads_to_pointer (steps : r.registry.steps = w.steps) (h : r.Reaches entry c log s) :
    ∀ id ∈ s.records.map (·.stepId), ∀ pointer, s.pointer = some pointer →
      TransGen w.Leads id pointer := by
  refine h.keeps (P := fun s => ∀ id ∈ s.records.map (·.stepId), ∀ pointer,
    s.pointer = some pointer → TransGen w.Leads id pointer) ?_ ?_
  · intro id member
    cases member
  · -- The ids recorded so far lead to the step dispatched now, and this one to the new pointer.
    intro s t ways advanced id member pointer arrived
    obtain ⟨step, dispatched, records, targets⟩ := advanced.exists_dispatches
    have edge : w.Leads step.id pointer :=
      ⟨step, steps ▸ dispatched.mem_steps, rfl, targets pointer arrived⟩
    rw [records] at member
    rcases List.mem_append.1 member with earlier | now
    · exact (ways id earlier step.id dispatched.pointer).tail edge
    · rw [List.mem_singleton.1 now]
      exact .single edge

theorem hasDispatched_of_mem_records (h : r.Reaches entry c log s) :
    ∀ id ∈ s.records.map (·.stepId), r.HasDispatched entry c log s id := by
  have kept : r.Reaches entry c log s ∧
      ∀ id ∈ s.records.map (·.stepId), r.HasDispatched entry c log s id := by
    refine h.keeps (P := fun s => r.Reaches entry c log s ∧
      ∀ id ∈ s.records.map (·.stepId), r.HasDispatched entry c log s id) ⟨.refl, ?_⟩ ?_
    · intro id member
      cases member
    · rintro s t ⟨reached, known⟩ advanced
      refine ⟨reached.tail advanced, ?_⟩
      intro id member
      obtain ⟨step, dispatched, records, -⟩ := advanced.exists_dispatches
      rw [records] at member
      rcases List.mem_append.1 member with recorded | now
      · obtain ⟨earlier, past, first, then', same, way⟩ := known id recorded
        exact ⟨earlier, past, first, then', same, way.tail advanced⟩
      · exact ⟨s, step, reached, dispatched, (List.mem_singleton.1 now).symm, .single advanced⟩
  exact kept.2

/-- The records of a run are of distinct declared steps. -/
theorem subperm_stepIds (steps : r.registry.steps = w.steps) (h : r.Reaches entry c log s) :
    (s.records.map (·.stepId)).Subperm w.stepIds := by
  have course := onCourse_of_reaches h
  refine List.subperm_of_subset course.distinct ?_
  intro id member
  obtain ⟨record, recorded, rfl⟩ := List.mem_map.1 member
  obtain ⟨step, declared, own⟩ := course.declared record recorded
  rw [own.stepId]
  exact List.mem_map_of_mem (steps ▸ declared)

theorem stepLimit_le_length (steps : r.registry.steps = w.steps) (h : r.Reaches entry c log s)
    (full : maxDispatchedSteps ≤ s.records.length) : maxDispatchedSteps ≤ w.steps.length := by
  have fits := (subperm_stepIds steps h).length_le
  rw [List.length_map, Workflow.stepIds, List.length_map] at fits
  exact Nat.le_trans full fits

/-- A run that has used up its dispatches has been to all steps, if these are no more. -/
theorem mem_records_of_full (steps : r.registry.steps = w.steps) (h : r.Reaches entry c log s)
    (few : w.steps.length ≤ maxDispatchedSteps)
    (full : maxDispatchedSteps ≤ s.records.length) {id : String} (declared : id ∈ w.stepIds) :
    id ∈ s.records.map (·.stepId) := by
  have enough : w.stepIds.length ≤ (s.records.map (·.stepId)).length := by
    rw [List.length_map, Workflow.stepIds, List.length_map]
    exact Nat.le_trans few full
  exact ((subperm_stepIds steps h).perm_of_length_le enough).mem_iff.2 declared

end Run

/-- A run over an acyclic graph of at most as many steps as it may dispatch has no graph error,
wherever branches meet again. In any run a repeated id has been dispatched before and lies on a
cycle, and only a workflow of that many steps exceeds the limit. -/
theorem Workflow.graphErrors_of_run (w : Workflow) (source : Source) (clock : Nat → Instant)
    (c : Context) (log : QueryLog) :
    (w.validate = .ok () → w.IsAcyclic → w.steps.length ≤ maxDispatchedSteps →
      ∀ e, (w.run source clock c log).1 ≠ .error (.graph e)) ∧
    ∀ registry, Registry.ofWorkflow w = .ok registry →
      (∀ id, (w.run source clock c log).1 = .error (.graph (.cycleDetected id)) →
        TransGen w.Leads id id ∧
        ∃ s, (Run.mk source registry clock).Reaches w.entry? c log s ∧ s.pointer = some id ∧
          (Run.mk source registry clock).HasDispatched w.entry? c log s id) ∧
      ∀ limit, (w.run source clock c log).1 = .error (.graph (.stepLimitExceeded limit)) →
        limit = maxDispatchedSteps ∧ maxDispatchedSteps ≤ w.steps.length := by
  refine ⟨?_, ?_⟩
  · intro valid acyclic few e failed
    have wellFormed := validate_eq_ok_iff.1 valid
    obtain ⟨registry, built⟩ := Registry.exists_ofWorkflow wellFormed.filled wellFormed.distinct
    have steps := (Registry.steps_of_ofWorkflow built).1
    obtain missing | ⟨s, after, reached, ended⟩ := ends_of_run_eq_error built failed
    · cases missing
    · have resolved := Run.resolved_of_reaches wellFormed steps reached
      have ways := Run.leads_to_pointer steps reached
      cases ended with
      | @exceeded id pointer full =>
          -- All steps have been dispatched, so the one to go to is among them.
          have visited := Run.mem_records_of_full steps reached few full (resolved id pointer)
          exact acyclic id (ways id visited id pointer)
      | @repeated id pointer room seen => exact acyclic id (ways id seen id pointer)
      | @dangling id pointer missing =>
          obtain ⟨step, found⟩ := Registry.exists_of_mem_stepIds steps (resolved id pointer)
          rw [found] at missing
          cases missing
  · intro registry built
    have steps := (Registry.steps_of_ofWorkflow built).1
    refine ⟨?_, ?_⟩
    · intro id failed
      obtain missing | ⟨s, after, reached, ended⟩ := ends_of_run_eq_error built failed
      · cases missing
      · cases ended with
        | repeated pointer room seen =>
            exact ⟨Run.leads_to_pointer steps reached id seen id pointer, s, reached, pointer,
              Run.hasDispatched_of_mem_records reached id seen⟩
    · intro limit failed
      obtain missing | ⟨s, after, reached, ended⟩ := ends_of_run_eq_error built failed
      · cases missing
      · cases ended with
        | exceeded pointer full => exact ⟨rfl, Run.stepLimit_le_length steps reached full⟩

/-- Two validations that a branch chooses from, and a third one behind both. -/
def Workflow.diamond : Workflow where
  id := "diamond"
  version := "1"
  description := none
  steps := [
    ⟨"choice", .branch ⟨[⟨none, none, none, some "left"⟩], some ⟨some "right"⟩⟩, none, none⟩,
    ⟨"left", .validation ⟨[]⟩, some "meeting", none⟩,
    ⟨"right", .validation ⟨[]⟩, some "meeting", none⟩,
    ⟨"meeting", .validation ⟨[]⟩, none, none⟩]
  metadata := ∅

def Workflow.selfLoop : Workflow where
  id := "loop"
  version := "1"
  description := none
  steps := [⟨"again", .branch ⟨[], some ⟨some "again"⟩⟩, none, none⟩]
  metadata := ∅

theorem Workflow.graphErrors_of_diamond_and_selfLoop :
    (∀ e, (diamond.run .silent (fun _ => .epoch)
      (.ofMeta ⟨"", "cvr", none, none, none⟩) []).1 ≠ .error (.graph e)) ∧
    TransGen selfLoop.Leads "again" "again" := by
  have valid : diamond.validate = .ok () := rfl
  have acyclic : diamond.IsAcyclic := by
    refine isAcyclic_of_ascending
      (fun id => if id = "choice" then 0 else if id = "meeting" then 2 else 1) ?_
    decide
  have cyclic : (selfLoop.run .silent (fun _ => .epoch)
      (.ofMeta ⟨"", "cvr", none, none, none⟩) []).1 =
      .error (.graph (.cycleDetected "again")) := rfl
  refine ⟨?_, ?_⟩
  · exact (graphErrors_of_run diamond _ _ _ _).1 valid acyclic (by decide)
  · exact (((graphErrors_of_run selfLoop _ _ _ _).2 _ rfl).1 "again" cyclic).1

end RootCause
