import Mathlib.Data.List.Nodup
import RootCause.Workflow.Registry

/-!
What validation accepts: the workflows whose ids are distinct and not blank, whose references
are declared and whose settings are complete. Each of them has a registry that finds every
declared id.
-/

namespace RootCause

theorem problemIf_eq_nil_iff {α : Type} {test : Bool} {problem : α} :
    problemIf test problem = [] ↔ test = false := by
  unfold problemIf
  cases test <;> simp

theorem problemIf_not_eq_nil_iff {α : Type} {test : Bool} {problem : α} :
    problemIf (!test) problem = [] ↔ test := by
  rw [problemIf_eq_nil_iff, Bool.not_eq_false']

/-- A workflow without problems, said of its steps. -/
structure Workflow.WellFormed (w : Workflow) : Prop where
  named : isBlankText w.id = false
  versioned : isBlankText w.version = false
  filled : w.steps ≠ []
  identified : ∀ step ∈ w.steps, isBlankText step.id = false
  distinct : w.stepIds.Nodup
  settled : ∀ step ∈ w.steps, step.settingsProblems = []
  closed : ∀ step ∈ w.steps, ∀ id ∈ step.references, id ∈ w.stepIds

namespace Workflow

/-- The check of ids remembers those it has seen, so it accepts distinct ones only. -/
theorem idProblems_eq_nil_iff (seen : List String) (steps : List Step) :
    idProblems seen steps = [] ↔ (∀ step ∈ steps, isBlankText step.id = false) ∧
      (steps.map (·.id)).Nodup ∧ ∀ step ∈ steps, step.id ∉ seen := by
  induction steps generalizing seen with
  | nil => simp [idProblems]
  | cons first rest ih =>
      have fresh_cons : (∀ step ∈ rest, step.id ∉ first.id :: seen) ↔
          first.id ∉ rest.map (·.id) ∧ ∀ step ∈ rest, step.id ∉ seen := by
        simp only [List.mem_cons, not_or, forall_and, List.mem_map, not_exists, not_and]
      unfold idProblems
      rw [List.append_eq_nil_iff, List.append_eq_nil_iff, problemIf_eq_nil_iff,
        problemIf_eq_nil_iff, ih, fresh_cons, List.map_cons, List.nodup_cons,
        List.forall_mem_cons, List.forall_mem_cons, List.contains_eq_mem, decide_eq_false_iff_not]
      constructor
      · rintro ⟨⟨filled, unseen⟩, identified, distinct, once, fresh⟩
        exact ⟨⟨filled, identified⟩, ⟨once, distinct⟩, unseen, fresh⟩
      · rintro ⟨⟨filled, identified⟩, ⟨once, distinct⟩, unseen, fresh⟩
        exact ⟨⟨filled, unseen⟩, identified, distinct, once, fresh⟩

theorem validate_eq_ok_iff {w : Workflow} : w.validate = .ok () ↔ w.WellFormed := by
  have accepted : w.validate = .ok () ↔ w.problems = [] := by
    unfold validate
    rw [← List.isEmpty_iff]
    cases w.problems.isEmpty <;> simp
  rw [accepted]
  unfold problems
  simp only [List.append_eq_nil_iff, problemIf_eq_nil_iff, idProblems_eq_nil_iff,
    List.flatMap_eq_nil_iff, List.isEmpty_eq_false_iff, Bool.not_eq_false', List.contains_iff_mem]
  constructor
  · rintro ⟨⟨⟨⟨named, versioned⟩, filled⟩, identified, distinct, -⟩, each⟩
    exact ⟨named, versioned, filled, identified, distinct, fun step member => (each step member).1,
      fun step member => (each step member).2⟩
  · rintro ⟨named, versioned, filled, identified, distinct, settled, closed⟩
    exact ⟨⟨⟨⟨named, versioned⟩, filled⟩, identified, distinct, fun _ _ => List.not_mem_nil⟩,
      fun step member => ⟨settled step member, closed step member⟩⟩

end Workflow

theorem Step.steps_ne_nil_of_settled {step : Step} {settings : CompositeSettings}
    (settled : step.settingsProblems = []) (kind : step.settings = .composite settings) :
    settings.steps ≠ [] := by
  unfold settingsProblems at settled
  rw [kind] at settled
  exact List.isEmpty_eq_false_iff.1 (problemIf_eq_nil_iff.1 settled)

theorem firstRepeated?_eq_none {seen ids : List String} (distinct : ids.Nodup)
    (fresh : ∀ id ∈ ids, id ∉ seen) : firstRepeated? seen ids = none := by
  induction ids generalizing seen with
  | nil => rfl
  | cons id rest ih =>
      obtain ⟨once, distinct⟩ := List.nodup_cons.1 distinct
      unfold firstRepeated?
      split
      · next old => exact absurd (List.contains_iff_mem.1 old) (fresh id List.mem_cons_self)
      · refine ih distinct ?_
        intro later member old
        cases old with
        | head => exact once member
        | tail _ older => exact fresh later (List.mem_cons_of_mem _ member) older

namespace Registry

/-- Steps with distinct ids make a registry. -/
theorem exists_ofWorkflow {w : Workflow} (filled : w.steps ≠ []) (distinct : w.stepIds.Nodup) :
    ∃ registry, ofWorkflow w = .ok registry := by
  have unrepeated : firstRepeated? [] (w.steps.map (·.id)) = none :=
    firstRepeated?_eq_none distinct fun _ _ => List.not_mem_nil
  unfold ofWorkflow
  split
  · next empty => exact absurd (List.isEmpty_iff.1 empty) filled
  · split
    · next id repeated =>
      rw [unrepeated] at repeated
      cases repeated
    · exact ⟨_, rfl⟩

/-- A registry finds the ids of its steps. -/
theorem exists_of_mem_ids {registry : Registry} {id : String}
    (h : id ∈ registry.steps.map (·.id)) : ∃ step, registry.get? id = some step := by
  obtain ⟨step, member, same⟩ := List.mem_map.1 h
  refine Option.isSome_iff_exists.1 (List.find?_isSome.2 ⟨step, member, ?_⟩)
  exact beq_iff_eq.2 same

end Registry

end RootCause
