import RootCause.Workflow.Validation

/-!
The steps of a workflow by id.
-/

namespace RootCause

/-- Steps with distinct ids. -/
structure Registry where
  steps : List Step
  ids_nodup : (steps.map (·.id)).Nodup

/-- The first id that an earlier step has. -/
def firstRepeated? : (seen : List String) → List String → Option String
  | _, [] => none
  | seen, id :: rest =>
    if seen.contains id then some id else firstRepeated? (id :: seen) rest

theorem nodup_of_firstRepeated?_eq_none {seen ids : List String}
    (h : firstRepeated? seen ids = none) : ids.Nodup ∧ ∀ id ∈ ids, id ∉ seen := by
  induction ids generalizing seen with
  | nil => simp
  | cons id rest ih =>
    unfold firstRepeated? at h
    split at h
    · simp at h
    · have := ih h
      grind

namespace Registry

/-- The registry of a workflow that has steps and no id twice. -/
def ofWorkflow (w : Workflow) : Except GraphError Registry :=
  if w.steps.isEmpty then .error .emptyWorkflow
  else match h : firstRepeated? [] (w.steps.map (·.id)) with
    | some id => .error (.duplicateStepId id)
    | none => .ok ⟨w.steps, (nodup_of_firstRepeated?_eq_none h).1⟩

def get? (r : Registry) (id : String) : Option Step := r.steps.find? fun s => s.id == id

def size (r : Registry) : Nat := r.steps.length

def isEmpty (r : Registry) : Bool := r.steps.isEmpty

end Registry

end RootCause
