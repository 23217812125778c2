import RootCause.Proofs.Step.Asking
import RootCause.Proofs.Step.Composite

/-!
Steps that gather facts: validations, comparisons and breakdowns. Over a stateless source the
delta of such a step depends on the context without its trace, not on what was asked before or on
where control goes next.
-/

namespace RootCause

namespace Context

def untraced (c : Context) : Context := { c with executionTrace := [] }

theorem untraced_mergeOrKeep (c : Context) (d : Delta) :
    (c.mergeOrKeep d).untraced = c.untraced.mergeOrKeep d := by
  cases hd : d.runMeta with
  | none =>
      unfold mergeOrKeep
      rw [Delta.mergeInto_of_accepted c hd, Delta.mergeInto_of_accepted c.untraced hd]
      rfl
  | some m =>
      have rejected : d.runMeta.isSome := by rw [hd]; rfl
      rw [mergeOrKeep_of_rejected c rejected, mergeOrKeep_of_rejected c.untraced rejected]

theorem untraced_foldl_mergeOrKeep (c : Context) (deltas : List Delta) :
    (deltas.foldl mergeOrKeep c).untraced = deltas.foldl mergeOrKeep c.untraced :=
  (List.foldl_hom untraced fun c d => (untraced_mergeOrKeep c d).symm).symm

end Context

/-- No step looks at the trace. -/
theorem runLeaf_untraced (source : Source) (step : Step) (c : Context) :
    runLeaf source step c.untraced = runLeaf source step c := rfl

/-- The step with another one to go on to. -/
def Step.handingTo (step : Step) (next : Option String) : Step := { step with next }

def Verdict.handingTo (next : Option String) : Verdict → Verdict
  | .pass delta _ => .pass delta next
  | .fail cause => .fail cause

section Handing

variable {source : Source} (step : Step) (next : Option String) (c : Context)

theorem runValidation_handingTo :
    runValidation (step.handingTo next) c = (runValidation step c).handingTo next := by
  rw [runValidation_eq, runValidation_eq]
  cases c.checkMeta with
  | error cause => rfl
  | ok baseline => rfl

theorem runComparison_handingTo (s : CompareSettings) :
    runComparison source (step.handingTo next) s c =
      Verdict.handingTo next <$> runComparison source step s c := by
  rw [runComparison_eq, runComparison_eq]
  cases s.query c with
  | error cause => rfl
  | ok q =>
      dsimp only
      rw [map_bind]
      refine bind_congr fun answer => ?_
      cases comparableTotals answer with
      | error cause => rfl
      | ok row => rfl

theorem runBreakdown_handingTo (s : BreakdownSettings) :
    runBreakdown source (step.handingTo next) s c =
      Verdict.handingTo next <$> runBreakdown source step s c := by
  rw [runBreakdown_eq, runBreakdown_eq]
  cases s.firstQuery c with
  | error cause => rfl
  | ok query =>
      dsimp only
      rw [map_bind]
      rfl

end Handing

/-- The kinds of steps that gather facts and go on to a fixed step. -/
def StepKind.gathering : List StepKind := [.validation, .metricCompare, .breakdown]

namespace Step

variable {source : Source} {step : Step}

/-- A step of a gathering kind, by its settings. -/
inductive Gathers (step : Step) : Prop
  | validation {s : ValidationSettings} (kind : step.settings = .validation s)
  | metricCompare {s : CompareSettings} (kind : step.settings = .metricCompare s)
  | breakdown {s : BreakdownSettings} (kind : step.settings = .breakdown s)

theorem gathers_of_kind (h : step.kind ∈ StepKind.gathering) : step.Gathers := by
  cases kind : step.settings with
  | validation s => exact .validation kind
  | metricCompare s => exact .metricCompare kind
  | breakdown s => exact .breakdown kind
  | branch s =>
      rw [kind_of_settings kind] at h
      exact absurd h (show StepKind.branch ∉ StepKind.gathering by decide)
  | composite s =>
      rw [kind_of_settings kind] at h
      exact absurd h (show StepKind.composite ∉ StepKind.gathering by decide)
  | insight s =>
      rw [kind_of_settings kind] at h
      exact absurd h (show StepKind.insight ∉ StepKind.gathering by decide)

theorem Gathers.kind_ne_composite (h : step.Gathers) : step.kind ≠ .composite := by
  unfold Step.kind
  cases h with
  | validation kind => rw [kind]; exact StepKind.noConfusion
  | metricCompare kind => rw [kind]; exact StepKind.noConfusion
  | breakdown kind => rw [kind]; exact StepKind.noConfusion

/-- Where control goes next makes no difference to what a gathering step finds. -/
theorem Gathers.runLeaf_handingTo (h : step.Gathers) (next : Option String) (c : Context) :
    runLeaf source (step.handingTo next) c =
      Verdict.handingTo next <$> runLeaf source step c := by
  unfold runLeaf
  rw [show (step.handingTo next).settings = step.settings from rfl]
  cases h with
  | validation kind =>
      rw [kind]
      dsimp only
      rw [map_pure, runValidation_handingTo]
  | metricCompare kind =>
      rw [kind]
      exact runComparison_handingTo step next c _
  | breakdown kind =>
      rw [kind]
      exact runBreakdown_handingTo step next c _

/-- A gathering step that passes has a delta, of metrics and breakdowns only. -/
theorem Gathers.of_yields (h : step.Gathers) {c : Context} {delta : Option Delta}
    {next : Option String} (passed : step.Yields c (.pass delta next)) :
    ∃ d, delta = some d ∧ d.FromStep ∧ d.scratch = none := by
  generalize given : Verdict.pass delta next = v at passed
  cases passed with
  | validated => cases given; exact ⟨_, rfl, ⟨rfl, rfl, rfl⟩, rfl⟩
  | compared => cases given; exact ⟨_, rfl, ⟨rfl, rfl, rfl⟩, rfl⟩
  | drilled => cases given; exact ⟨_, rfl, ⟨rfl, rfl, rfl⟩, rfl⟩
  | routed kind =>
      exfalso
      cases h with
      | _ own => rw [own] at kind; cases kind
  | told kind =>
      exfalso
      cases h with
      | _ own => rw [own] at kind; cases kind
  | refused => cases given
  | nested => cases given

/-- The delta that a step passes with when nothing was asked before. -/
def delta? (source : Source) (step : Step) (c : Context) : Option Delta :=
  match (runLeaf source step c []).1 with
  | .ok (.pass delta _) => delta
  | _ => none

theorem exists_runLeaf_of_delta? {c : Context} {d : Delta}
    (given : step.delta? source c = some d) :
    ∃ next after, runLeaf source step c [] = (.ok (.pass (some d) next), after) := by
  unfold delta? at given
  split at given
  · next delta next ran =>
    cases given
    exact ⟨next, _, Prod.ext ran rfl⟩
  · cases given

theorem Gathers.of_delta? (h : step.Gathers) {c : Context} {d : Delta}
    (given : step.delta? source c = some d) : d.FromStep ∧ d.scratch = none := by
  obtain ⟨next, after, ran⟩ := exists_runLeaf_of_delta? given
  obtain ⟨d', same, facts⟩ := h.of_yields (yields_of_runLeaf ran)
  cases same
  exact facts

variable {c : Context}

/-- Wherever it hands control to and whatever was asked before, a gathering step passes with its
delta. -/
theorem Gathers.runLeaf_of_delta? (h : step.Gathers) (stateless : source.Stateless) {d : Delta}
    (given : step.delta? source c.untraced = some d) (next : Option String) (log : QueryLog) :
    ∃ after, runLeaf source (step.handingTo next) c log = (.ok (.pass (some d) next), after) := by
  unfold delta? at given
  rw [runLeaf_untraced, steady_runLeaf stateless step c [] log] at given
  rw [h.runLeaf_handingTo, Inquiry.map_apply]
  split at given
  · next delta target ran =>
    rw [ran, given]
    exact ⟨_, rfl⟩
  · cases given

theorem Gathers.delta?_of_runLeaf (h : step.Gathers) (stateless : source.Stateless)
    (next : Option String) {target : Option String} {log after : QueryLog} {delta : Option Delta}
    (passed : runLeaf source (step.handingTo next) c log = (.ok (.pass delta target), after)) :
    ∃ d, step.delta? source c.untraced = some d ∧ delta = some d ∧ target = next := by
  rw [h.runLeaf_handingTo, Inquiry.map_apply] at passed
  have answered := congrArg Prod.fst passed
  cases ran : (runLeaf source step c log).1 with
  | error e =>
      rw [ran] at answered
      cases answered
  | ok v =>
      rw [ran] at answered
      cases v with
      | fail cause => cases answered
      | pass own next' =>
          cases answered
          obtain ⟨d, rfl, -⟩ := h.of_yields (yields_of_runLeaf (Prod.ext ran rfl))
          refine ⟨d, ?_, rfl, rfl⟩
          unfold delta?
          rw [runLeaf_untraced, steady_runLeaf stateless step c [] log, ran]

/-- The deltas of steps that are run one after another, if all pass. -/
def deltas? (source : Source) : List Step → Context → Option (List Delta)
  | [], _ => some []
  | step :: rest, c =>
    match step.delta? source c with
    | none => none
    | some d => (deltas? source rest (c.mergeOrKeep d)).map (d :: ·)

theorem deltas?_cons_eq_some {rest : List Step} {deltas : List Delta}
    (h : deltas? source (step :: rest) c = some deltas) :
    ∃ d later, step.delta? source c = some d ∧
      deltas? source rest (c.mergeOrKeep d) = some later ∧ deltas = d :: later := by
  unfold deltas? at h
  split at h
  · cases h
  · next d given =>
    obtain ⟨later, found, rfl⟩ := Option.map_eq_some_iff.1 h
    exact ⟨d, later, given, found, rfl⟩

theorem deltas?_cons_of_some {rest : List Step} {d : Delta} {later : List Delta}
    (given : step.delta? source c = some d)
    (found : deltas? source rest (c.mergeOrKeep d) = some later) :
    deltas? source (step :: rest) c = some (d :: later) := by
  unfold deltas?
  rw [given]
  dsimp only
  rw [found]
  rfl

theorem fromStep_of_deltas? {members : List Step} {deltas : List Delta}
    (gather : ∀ step ∈ members, step.Gathers) (h : deltas? source members c = some deltas) :
    ∀ d ∈ deltas, d.FromStep ∧ d.scratch = none := by
  induction members generalizing c deltas with
  | nil =>
      cases h
      intro d none
      cases none
  | cons step rest ih =>
      obtain ⟨first, others⟩ := List.forall_mem_cons.1 gather
      obtain ⟨d, later, given, found, rfl⟩ := deltas?_cons_eq_some h
      exact List.forall_mem_cons.2 ⟨first.of_delta? given, ih others found⟩

end Step

section Composite

variable {source : Source} {registry : Registry} {members : List Step}

/-- Gathering steps as sub-steps: all pass when all have a delta. -/
theorem subStepsPass_of_deltas? (stateless : source.Stateless)
    (found : ∀ step ∈ members, registry.get? step.id = some step)
    (gather : ∀ step ∈ members, step.Gathers) {c : Context} {deltas : List Delta}
    (h : Step.deltas? source members c.untraced = some deltas) (log : QueryLog) :
    ∃ last after, SubStepsPass source registry (members.map (·.id)) c log deltas last after := by
  induction members generalizing c deltas log with
  | nil =>
      cases h
      exact ⟨c, log, .none⟩
  | cons step rest ih =>
      obtain ⟨d, later, given, others, rfl⟩ := Step.deltas?_cons_eq_some h
      obtain ⟨foundFirst, foundRest⟩ := List.forall_mem_cons.1 found
      obtain ⟨gathers, gatherRest⟩ := List.forall_mem_cons.1 gather
      obtain ⟨mid, ran⟩ := gathers.runLeaf_of_delta? stateless given step.next log
      rw [← Context.untraced_mergeOrKeep] at others
      obtain ⟨last, after, passes⟩ := ih foundRest gatherRest others mid
      exact ⟨last, after, .first foundFirst ran (merge?_of_yields (yields_of_runLeaf ran)) passes⟩

/-- Gathering steps as sub-steps: if they pass, all have a delta. -/
theorem exists_deltas?_of_subStepsPass (stateless : source.Stateless)
    (found : ∀ step ∈ members, registry.get? step.id = some step)
    (gather : ∀ step ∈ members, step.Gathers) {c last : Context} {log after : QueryLog}
    {deltas : List Delta}
    (h : SubStepsPass source registry (members.map (·.id)) c log deltas last after) :
    Step.deltas? source members c.untraced = some deltas := by
  induction members generalizing c log deltas with
  | nil =>
      cases h
      rfl
  | cons step rest ih =>
      obtain ⟨foundFirst, foundRest⟩ := List.forall_mem_cons.1 found
      obtain ⟨gathers, gatherRest⟩ := List.forall_mem_cons.1 gather
      cases h with
      | first known ran merged later =>
          cases foundFirst.symm.trans known
          obtain ⟨d, given, rfl, rfl⟩ := gathers.delta?_of_runLeaf stateless step.next ran
          cases merged.symm.trans (merge?_of_yields (yields_of_runLeaf ran))
          have others := ih foundRest gatherRest later
          rw [Context.untraced_mergeOrKeep] at others
          exact Step.deltas?_cons_of_some given others

end Composite

end RootCause
