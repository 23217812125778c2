import RootCause.Proofs.Run.Composite
import RootCause.Proofs.Run.Records

/-!
What a run keeps of the context that it starts from. Steps add metrics, evidence and trace
entries and replace scratch; they leave meta, filters and path alone, so no merge is refused.
-/

namespace RootCause

/-- A context with all that an earlier one has, scratch apart. -/
structure Context.Extends (after before : Context) : Prop where
  runMeta : after.runMeta = before.runMeta
  filters : after.filters = before.filters
  rootCausePath : after.rootCausePath = before.rootCausePath
  breakdowns : ∀ key entries, before.breakdowns.get? key = some entries →
    ∃ grown, after.breakdowns.get? key = some grown ∧ entries <+: grown
  metrics : ∀ name, (before.metrics.get? name).isSome → (after.metrics.get? name).isSome
  executionTrace : before.executionTrace <+: after.executionTrace

namespace Context

variable {c c' c'' : Context}

theorem Extends.refl (c : Context) : c.Extends c :=
  ⟨rfl, rfl, rfl, fun _ entries found => ⟨entries, found, List.prefix_rfl⟩, fun _ found => found,
    List.prefix_rfl⟩

theorem Extends.trans (later : c''.Extends c') (earlier : c'.Extends c) : c''.Extends c := by
  constructor
  · rw [later.runMeta, earlier.runMeta]
  · rw [later.filters, earlier.filters]
  · rw [later.rootCausePath, earlier.rootCausePath]
  · intro key entries found
    obtain ⟨grown, found', first⟩ := earlier.breakdowns key entries found
    obtain ⟨more, found'', second⟩ := later.breakdowns key grown found'
    exact ⟨more, found'', first.trans second⟩
  · exact fun name found => later.metrics name (earlier.metrics name found)
  · exact earlier.executionTrace.trans later.executionTrace

theorem extends_traced (c : Context) (step : Step) (moment : Instant) :
    (c.traced step moment).Extends c :=
  { Extends.refl c with executionTrace := List.prefix_append .. }

/-- The delta of a step takes nothing away. -/
theorem extends_of_merge {d : Delta} (step : d.FromStep) (merged : c.merge d = .ok c') :
    c'.Extends c := by
  rw [merge_of_meta_eq_none c step.accepted, Except.ok.injEq] at merged
  subst merged
  constructor
  · rfl
  · simp only [step.filters, changeBy]
  · simp only [step.rootCausePath, changeBy]
  · intro key entries found
    cases hb : d.breakdowns with
    | none => exact ⟨entries, found, List.prefix_rfl⟩
    | some bs =>
        simp only [changeBy, Breakdowns.get?_append, found]
        cases bs.get? key with
        | none => exact ⟨entries, rfl, List.prefix_rfl⟩
        | some more => exact ⟨_, rfl, List.prefix_append entries more⟩
  · intro name found
    cases hm : d.metrics with
    | none => exact found
    | some ms =>
        simp only [changeBy, Metrics.get?_override, Option.isSome_or, found, Bool.or_true]
  · exact List.prefix_rfl

theorem extends_of_merge? {delta : Option Delta} (step : ∀ d, delta = some d → d.FromStep)
    (merged : c.merge? delta = .ok c') : c'.Extends c := by
  cases delta with
  | none =>
      cases merged
      exact .refl c
  | some d => exact extends_of_merge (step d rfl) merged

/-- What steps have no part in is not refused. -/
theorem exists_merge?_of_fromStep {delta : Option Delta} (step : ∀ d, delta = some d → d.FromStep)
    (c : Context) : ∃ c', c.merge? delta = .ok c' := by
  cases delta with
  | none => exact ⟨c, rfl⟩
  | some d => exact ⟨_, merge_of_meta_eq_none c (step d rfl).accepted⟩

end Context

section Dispatch

variable {source : Source} {registry : Registry} {step : Step} {c : Context} {log : QueryLog}

theorem extends_of_dispatch (source : Source) (registry : Registry) (step : Step) (c : Context)
    (log : QueryLog) : (dispatch source registry step c log).context.Extends c := by
  apply context_of_dispatch (P := fun c' => c'.Extends c)
  · intro before after sub d target grown yields merged
    exact (Context.extends_of_merge yields.fromStep merged).trans grown
  · exact .refl c

/-- The verdict of a step has a delta without meta, filters and path. A step without a verdict
has asked a source that gives no answer. -/
theorem outcome_of_dispatch (source : Source) (registry : Registry) (step : Step) (c : Context)
    (log : QueryLog) :
    (∃ delta next, (dispatch source registry step c log).outcome = .ok (.pass delta next) ∧
      ∀ d, delta = some d → d.FromStep) ∨
    (∃ cause, (dispatch source registry step c log).outcome = .ok (.fail cause)) ∨
    ∃ e, (dispatch source registry step c log).outcome = .error (.source e) := by
  have came := step.comesTo_dispatch source registry c log
  generalize dispatch source registry step c log = d at came ⊢
  cases came with
  | @leaf answer after leaf ran =>
      cases answer with
      | error e => exact .inr (.inr ⟨e, rfl⟩)
      | ok v =>
          cases v with
          | fail cause => exact .inr (.inl ⟨cause, rfl⟩)
          | pass delta next =>
              refine .inl ⟨delta, next, rfl, ?_⟩
              rintro d rfl
              exact (yields_of_runLeaf ran).fromStep
  | empty => exact .inr (.inl ⟨_, rfl⟩)
  | passed kind passes =>
      refine .inl ⟨_, _, rfl, ?_⟩
      intro d gathered
      cases gathered
      exact Delta.fromStep_foldl_absorbOrKeep ⟨rfl, rfl, rfl⟩ passes.fromStep
  | failed => exact .inr (.inl ⟨_, rfl⟩)
  | unanswered => exact .inr (.inr ⟨_, rfl⟩)

theorem fromStep_of_dispatch {delta : Option Delta} {next : Option String}
    (passed : (dispatch source registry step c log).outcome = .ok (.pass delta next)) :
    ∀ d, delta = some d → d.FromStep := by
  obtain ⟨delta', next', same, steps⟩ | ⟨cause, failed⟩ | ⟨e, broke⟩ :=
    outcome_of_dispatch source registry step c log
  · rw [passed] at same
    cases same
    exact steps
  · rw [passed] at failed
    cases failed
  · rw [passed] at broke
    cases broke

theorem dispatch_ne_merge_error (e : MergeError) :
    (dispatch source registry step c log).outcome ≠ .error (.merge e) := by
  intro refused
  obtain ⟨delta, next, same, -⟩ | ⟨cause, same⟩ | ⟨e', same⟩ :=
    outcome_of_dispatch source registry step c log
  all_goals
    rw [refused] at same
    cases same

end Dispatch

namespace Run

variable {r : Run} {s t : RunState} {entry : Option String} {c : Context} {log : QueryLog}

theorem extends_dispatchAt (r : Run) (s : RunState) (step : Step) :
    (r.dispatchAt s step).context.Extends s.context :=
  (extends_of_dispatch ..).trans (Context.extends_traced ..)

theorem Advances.extends (h : r.Advances s t) : t.context.Extends s.context := by
  cases h with
  | @pass step delta next c dispatched passed merged =>
      exact (Context.extends_of_merge? (fromStep_of_dispatch passed) merged).trans
        (r.extends_dispatchAt s step)

theorem extends_of_reaches (h : r.Reaches entry c log s) : s.context.Extends c :=
  h.keeps (P := fun s => s.context.Extends c) (.refl c) fun _ _ grown advanced =>
    advanced.extends.trans grown

/-- At every state at which a run has an outcome, its context extends that of the state. -/
theorem Ends.extends {o : RunOutcome} {after : QueryLog} (h : r.Ends s (.ok o) after) :
    o.context.Extends s.context := by
  cases h with
  | completed => exact .refl _
  | terminated => exact r.extends_dispatchAt s _

theorem Ends.ne_immutableField {e : MergeError} {after : QueryLog} :
    ¬r.Ends s (.error (.immutableField e)) after := by
  intro h
  cases h with
  | rejected dispatched passed refused =>
      obtain ⟨c', merged⟩ := Context.exists_merge?_of_fromStep (fromStep_of_dispatch passed) _
      exact absurd (merged.symm.trans refused) (by simp)

theorem Ends.ne_merge {id : String} {e : MergeError} {after : QueryLog} :
    ¬r.Ends s (.error (.step id (.merge e))) after := by
  intro h
  cases h with
  | errored dispatched broke => exact dispatch_ne_merge_error e broke

end Run

/-- What holds wherever a run ends holds of what the run comes to, if it holds of the errors
that keep a run from starting. -/
theorem Workflow.result_of_run {w : Workflow} {source : Source} {clock : Nat → Instant}
    {c : Context} {log : QueryLog} {P : Except RunError RunOutcome → Prop}
    (graph : ∀ e, P (.error (.graph e))) (missing : P (.error .missingContext))
    (ended : ∀ (r : Run) s result after, r.Reaches w.entry? c log s → r.Ends s result after →
      P result) : P (w.run source clock c log).1 := by
  rcases w.run_cases source clock c log with
    ⟨e, -, refused⟩ | ⟨-, refused⟩ | ⟨registry, s, -, reached, ends⟩
  · rw [refused]
    exact graph e
  · rw [refused]
    exact missing
  · exact ended _ s _ _ reached ends

/-- Whatever a run comes to, no delta was refused, for no step touches meta. An outcome,
completed or terminated, has the meta, filters and path that the run started with, and all of
its metrics, evidence and trace. -/
theorem Workflow.extends_of_run (w : Workflow) (source : Source) (clock : Nat → Instant)
    (c : Context) (log : QueryLog) :
    (∀ o, (w.run source clock c log).1 = .ok o → o.context.Extends c) ∧
    (∀ e, (w.run source clock c log).1 ≠ .error (.immutableField e)) ∧
    (∀ id e, (w.run source clock c log).1 ≠ .error (.step id (.merge e))) ∧
    ∀ registry step c log d next,
      (dispatch source registry step c log).outcome = .ok (.pass (some d) next) →
      d.runMeta = none := by
  refine ⟨?_, ?_, ?_, ?_⟩
  · apply result_of_run (P := fun result => ∀ o, result = .ok o → o.context.Extends c)
    · simp
    · simp
    · rintro r s _ after reached ends o rfl
      exact ends.extends.trans (Run.extends_of_reaches reached)
  · apply result_of_run (P := fun result => ∀ e, result ≠ .error (.immutableField e))
    · simp
    · simp
    · rintro r s _ after - ends e rfl
      exact ends.ne_immutableField
  · apply result_of_run (P := fun result => ∀ id e, result ≠ .error (.step id (.merge e)))
    · simp
    · simp
    · rintro r s _ after - ends id e rfl
      exact ends.ne_merge
  · intro registry step c log d next passed
    exact (fromStep_of_dispatch passed d rfl).accepted

/-- A composite that ends the run halfway, for its second sub-step does not exist. -/
def Workflow.halfDone : Workflow where
  id := "half"
  version := "1"
  description := none
  steps := [
    ⟨"both", .composite ⟨["check", "absent"]⟩, none, some ⟨.terminate, none⟩⟩,
    ⟨"check", .validation ⟨[]⟩, none, none⟩]
  metadata := ∅

/-- A context under a filter, with a metric that a validation sets anew. -/
def Context.mailOnly : Context :=
  { Context.ofMeta (.ofTenant "acme") with
    filters := [⟨"utm_source", "mail"⟩]
    metrics := .ofList [("data_valid", .missing)] }

theorem Workflow.extends_of_halfDone :
    ∃ o, (halfDone.run .silent (fun _ => .epoch) .mailOnly []).1 = .ok o ∧
      o.status = .terminated ∧ o.context.metrics.get? "data_valid" = some (.flag true) ∧
      o.context.Extends .mailOnly :=
  ⟨_, rfl, rfl, rfl, (extends_of_run halfDone _ _ _ _).1 _ rfl⟩

end RootCause
