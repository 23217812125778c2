import RootCause.Proofs.Context.Merge
import RootCause.Proofs.Step.Checks
import RootCause.Workflow.Validation

/-!
What a dispatch can come to: the verdicts of each kind of step, the ids that control goes to
and the context that is left.
-/

namespace RootCause

theorem kind_of_settings {step : Step} {settings : StepSettings}
    (h : step.settings = settings) : step.kind = settings.kind :=
  congrArg StepSettings.kind h

/-- The verdicts that a step can come to when it runs as a leaf. -/
inductive Step.Yields (step : Step) (c : Context) : Verdict → Prop
  | validated {settings : ValidationSettings} (kind : step.settings = .validation settings)
      (baseline : Bool) :
      Yields step c (.pass (some (.ofMetrics (validationMetrics baseline))) step.next)
  | compared {settings : CompareSettings} (kind : step.settings = .metricCompare settings)
      (row : TotalsRow) : Yields step c (.pass (some (.ofMetrics row.metrics)) step.next)
  | routed {settings : BranchSettings} {delta : Option Delta} {next : Option String}
      (kind : step.settings = .branch settings)
      (chosen : runBranch settings c = .pass delta next) : Yields step c (.pass delta next)
  | drilled {settings : BreakdownSettings} (kind : step.settings = .breakdown settings)
      (first : String) (ranked : List Evidence) :
      Yields step c (.pass (some (settings.publish first ranked)) step.next)
  | told {settings : InsightSettings} (kind : step.settings = .insight settings) :
      Yields step c (runInsight step settings c)
  | refused {cause : StepFailure} (own : cause.kind = step.kind)
      (leaf : step.kind ≠ .composite) : Yields step c (.fail cause)
  | nested (kind : step.kind = .composite) : Yields step c (.fail (.nestedComposite step.id))

/-- A leaf that fails does so for a cause of its kind, and a composite for being none. -/
theorem Step.Yields.fail_cases {step : Step} {c : Context} {cause : StepFailure}
    (h : step.Yields c (.fail cause)) :
    (cause.kind = step.kind ∧ step.kind ≠ .composite) ∨
      (step.kind = .composite ∧ cause = .nestedComposite step.id) := by
  generalize failed : Verdict.fail cause = v at h
  cases h with
  | validated => cases failed
  | compared => cases failed
  | routed => cases failed
  | drilled => cases failed
  | told => cases failed
  | refused own leaf =>
      cases failed
      exact .inl ⟨own, leaf⟩
  | nested kind =>
      cases failed
      exact .inr ⟨kind, rfl⟩

theorem yields_runValidation {step : Step} {settings : ValidationSettings}
    (kind : step.settings = .validation settings) (c : Context) :
    step.Yields c (runValidation step c) := by
  have hkind : step.kind = .validation := kind_of_settings kind
  have leaf : step.kind ≠ .composite := by rw [hkind]; decide
  rw [runValidation_eq]
  cases checked : c.checkMeta with
  | error cause => exact .refused ((failsAs_checkMeta c cause checked).trans hkind.symm) leaf
  | ok baseline => exact .validated kind baseline

theorem yields_runBranch {step : Step} {settings : BranchSettings}
    (kind : step.settings = .branch settings) (c : Context) :
    step.Yields c (runBranch settings c) := by
  have hkind : step.kind = .branch := kind_of_settings kind
  have leaf : step.kind ≠ .composite := by rw [hkind]; decide
  cases chosen : runBranch settings c with
  | pass delta next => exact .routed kind chosen
  | fail cause =>
      have hcause : cause = .noRoute := by
        unfold runBranch at chosen
        split at chosen
        · cases chosen
        · split at chosen
          · cases chosen
          · cases chosen; rfl
      rw [hcause]
      exact .refused hkind.symm leaf

theorem yields_runComparison {source : Source} {step : Step} {settings : CompareSettings}
    (kind : step.settings = .metricCompare settings) {c : Context} {log after : QueryLog}
    {v : Verdict} (h : runComparison source step settings c log = (.ok v, after)) :
    step.Yields c v := by
  have hkind : step.kind = .metricCompare := kind_of_settings kind
  have leaf : step.kind ≠ .composite := by rw [hkind]; decide
  rw [runComparison_eq] at h
  cases asked : settings.query c with
  | error cause =>
      rw [asked] at h
      cases h
      exact .refused ((settings.failsAs_query c cause asked).trans hkind.symm) leaf
  | ok query =>
      rw [asked] at h
      obtain ⟨answer, mid, -, h⟩ := Inquiry.bind_eq_ok h
      cases totals : comparableTotals answer with
      | error cause =>
          rw [totals] at h
          cases h
          exact .refused ((failsAs_comparableTotals answer cause totals).trans hkind.symm) leaf
      | ok row =>
          rw [totals] at h
          cases h
          exact .compared kind row

/-- A breakdown that comes to a verdict fails by a rule of its own or publishes what its walk has
collected. -/
theorem runBreakdown_cases {source : Source} {step : Step} {settings : BreakdownSettings}
    {c : Context} {log after : QueryLog} {v : Verdict}
    (h : runBreakdown source step settings c log = (.ok v, after)) :
    (∃ cause : StepFailure, cause.kind = .breakdown ∧ v = .fail cause) ∨
      ∃ first root collected, walk source settings root log = (.ok collected, after) ∧
        v = .pass (some (settings.publish first (settings.published collected))) step.next := by
  rw [runBreakdown_eq] at h
  cases asked : settings.firstQuery c with
  | error cause =>
      rw [asked] at h
      cases h
      exact .inl ⟨cause, settings.failsAs_firstQuery c cause asked, rfl⟩
  | ok query =>
      obtain ⟨first, root⟩ := query
      rw [asked] at h
      obtain ⟨collected, mid, walked, h⟩ := Inquiry.bind_eq_ok h
      cases h
      exact .inr ⟨first, root, collected, walked, rfl⟩

theorem yields_runBreakdown {source : Source} {step : Step} {settings : BreakdownSettings}
    (kind : step.settings = .breakdown settings) {c : Context} {log after : QueryLog}
    {v : Verdict} (h : runBreakdown source step settings c log = (.ok v, after)) :
    step.Yields c v := by
  have hkind : step.kind = .breakdown := kind_of_settings kind
  have leaf : step.kind ≠ .composite := by rw [hkind]; decide
  obtain ⟨cause, own, rfl⟩ | ⟨first, root, collected, -, rfl⟩ := runBreakdown_cases h
  · exact .refused (own.trans hkind.symm) leaf
  · exact .drilled kind first _

theorem yields_of_runLeaf {source : Source} {step : Step} {c : Context} {log after : QueryLog}
    {v : Verdict} (h : runLeaf source step c log = (.ok v, after)) : step.Yields c v := by
  unfold runLeaf at h
  cases kind : step.settings with
  | validation settings =>
      rw [kind] at h
      cases h
      exact yields_runValidation kind c
  | metricCompare settings =>
      rw [kind] at h
      exact yields_runComparison kind h
  | branch settings =>
      rw [kind] at h
      cases h
      exact yields_runBranch kind c
  | breakdown settings =>
      rw [kind] at h
      exact yields_runBreakdown kind h
  | composite settings =>
      rw [kind] at h
      cases h
      exact .nested (kind_of_settings kind)
  | insight settings =>
      rw [kind] at h
      cases h
      exact .told kind

/-- The ids that a step can hand control to when it passes. The sub-steps of a composite are
not among them. -/
def Step.targets (step : Step) : List String :=
  step.next.toList ++ match step.settings with
    | .branch b => b.rules.filterMap (·.target) ++ (b.fallback.bind (·.target)).toList
    | _ => []

theorem Step.targets_subset_references (step : Step) : step.targets ⊆ step.references := by
  intro id member
  unfold targets at member
  unfold references
  rcases List.mem_append.1 member with next | routed
  · exact List.mem_append_left _ next
  · refine List.mem_append_right _ ?_
    cases kind : step.settings with
    | branch b =>
        rw [kind] at routed
        rcases List.mem_append.1 routed with rule | fallback
        · exact List.mem_append_left _ rule
        · refine List.mem_append_right _ ?_
          cases hb : b.fallback with
          | none =>
              rw [hb] at fallback
              exact fallback
          | some route =>
              rw [hb] at fallback
              exact fallback
    | _ =>
        rw [kind] at routed
        cases routed

section Composite

variable {source : Source} {registry : Registry} {next : Option String}

/-- Sub-steps that all pass hand control to where the composite says. -/
theorem next_of_runSubSteps (ids : List String) (combined : Delta) (c : Context)
    (log : QueryLog) {delta : Option Delta} {target : Option String}
    (h : (runSubSteps source registry next ids combined c log).outcome =
      .ok (.pass delta target)) : target = next := by
  fun_induction runSubSteps source registry next ids combined c log with
  | case1 combined c log => cases h; rfl
  | case2 => cases h
  | case3 => cases h
  | case4 => cases h
  | case5 id rest combined c log sub found target log' passed ih => exact ih h
  | case6 => cases h
  | case7 => cases h
  | case8 id rest combined c log sub found d target log' passed c' merged both absorbed ih =>
      exact ih h

/-- What every merged delta keeps is kept by the sub-steps, however far they come. -/
theorem context_of_runSubSteps {P : Context → Prop}
    (kept : ∀ {c c' : Context} {sub : Step} {d : Delta} {target : Option String},
      P c → sub.Yields c (.pass (some d) target) → c.merge d = .ok c' → P c')
    (ids : List String) (combined : Delta) (c : Context) (log : QueryLog) (start : P c) :
    P (runSubSteps source registry next ids combined c log).context := by
  fun_induction runSubSteps source registry next ids combined c log with
  | case1 => exact start
  | case2 => exact start
  | case3 => exact start
  | case4 => exact start
  | case5 id rest combined c log sub found target log' passed ih => exact ih start
  | case6 id rest combined c log sub found d target log' passed e c' refused =>
      exact (d.mergeInto_guarded.atomic c e c' refused).symm ▸ start
  | case7 id rest combined c log sub found d target log' passed c' merged =>
      exact kept start (yields_of_runLeaf passed) (Context.merge_eq_ok_iff.2 merged)
  | case8 id rest combined c log sub found d target log' passed c' merged both absorbed ih =>
      exact ih (kept start (yields_of_runLeaf passed) (Context.merge_eq_ok_iff.2 merged))

end Composite

section Dispatch

variable {source : Source} {registry : Registry} {step : Step} {c : Context} {log : QueryLog}

theorem exists_settings_of_composite (h : step.kind = .composite) :
    ∃ settings, step.settings = .composite settings := by
  unfold Step.kind StepSettings.kind at h
  split at h
  · cases h
  · cases h
  · cases h
  · cases h
  · next settings kind => exact ⟨settings, kind⟩
  · cases h

theorem dispatch_of_composite {settings : CompositeSettings}
    (kind : step.settings = .composite settings) :
    dispatch source registry step c log = runComposite source registry step settings c log := by
  unfold dispatch
  rw [kind]

/-- A step that is no composite is run as a leaf. -/
theorem dispatch_eq_runLeaf (leaf : step.kind ≠ .composite) :
    dispatch source registry step c log =
      ⟨(runLeaf source step c log).1.mapError .source, c, (runLeaf source step c log).2⟩ := by
  unfold dispatch
  split
  · next settings kind =>
    exact absurd (kind_of_settings kind) leaf
  · split
    · next v after ran => rw [ran]; rfl
    · next e after ran => rw [ran]; rfl

theorem dispatch_of_runLeaf (leaf : step.kind ≠ .composite) {v : Verdict} {after : QueryLog}
    (ran : runLeaf source step c log = (.ok v, after)) :
    dispatch source registry step c log = ⟨.ok v, c, after⟩ := by
  rw [dispatch_eq_runLeaf leaf, ran]
  rfl

theorem runLeaf_of_dispatch (leaf : step.kind ≠ .composite) {v : Verdict}
    (h : (dispatch source registry step c log).outcome = .ok v) :
    runLeaf source step c log = (.ok v, (dispatch source registry step c log).log) := by
  rw [dispatch_eq_runLeaf leaf] at h ⊢
  dsimp only at h ⊢
  cases ran : runLeaf source step c log with
  | mk answer after =>
      rw [ran] at h
      cases answer with
      | ok v' => cases h; rfl
      | error e => cases h

/-- A step that is no composite leaves the context alone and comes to a verdict of its kind. -/
theorem dispatch_of_leaf (leaf : step.kind ≠ .composite) :
    (dispatch source registry step c log).context = c ∧
      ∀ v, (dispatch source registry step c log).outcome = .ok v → step.Yields c v := by
  refine ⟨?_, fun v h => yields_of_runLeaf (runLeaf_of_dispatch leaf h)⟩
  rw [dispatch_eq_runLeaf leaf]

theorem context_of_dispatch {P : Context → Prop}
    (kept : ∀ {c c' : Context} {sub : Step} {d : Delta} {target : Option String},
      P c → sub.Yields c (.pass (some d) target) → c.merge d = .ok c' → P c')
    (start : P c) : P (dispatch source registry step c log).context := by
  by_cases composite : step.kind = .composite
  · obtain ⟨settings, kind⟩ := exists_settings_of_composite composite
    rw [dispatch_of_composite kind]
    unfold runComposite
    split
    · exact start
    · exact context_of_runSubSteps kept settings.steps _ c log start
  · rw [(dispatch_of_leaf composite).1]
    exact start

theorem mem_targets_of_next {id : String} (h : step.next = some id) : id ∈ step.targets := by
  unfold Step.targets
  rw [h]
  exact List.mem_append_left _ List.mem_cons_self

theorem mem_targets_of_runBranch {settings : BranchSettings} {delta : Option Delta}
    {id : String} (kind : step.settings = .branch settings)
    (h : runBranch settings c = .pass delta (some id)) : id ∈ step.targets := by
  unfold Step.targets
  rw [kind]
  refine List.mem_append_right _ ?_
  unfold runBranch at h
  split at h
  · next rule delta' chosen =>
    obtain ⟨rule', member, matched⟩ := List.exists_of_findSome?_eq_some chosen
    obtain ⟨outcome, -, same⟩ := Option.map_eq_some_iff.1 matched
    cases same
    injection h with _ target
    exact List.mem_append_left _ (List.mem_filterMap.2 ⟨rule, member, target⟩)
  · split at h
    · next target chosen =>
      cases h
      exact List.mem_append_right _ (Option.mem_toList.2 chosen)
    · cases h

/-- Control goes only where the step can hand it. -/
theorem mem_targets_of_dispatch {delta : Option Delta} {id : String}
    (h : (dispatch source registry step c log).outcome = .ok (.pass delta (some id))) :
    id ∈ step.targets := by
  by_cases composite : step.kind = .composite
  · obtain ⟨settings, kind⟩ := exists_settings_of_composite composite
    rw [dispatch_of_composite kind] at h
    unfold runComposite at h
    split at h
    · cases h
    · exact mem_targets_of_next (next_of_runSubSteps settings.steps _ c log h).symm
  · have yields := (dispatch_of_leaf composite).2 _ h
    generalize htarget : some id = target at yields
    cases yields with
    | validated => exact mem_targets_of_next htarget.symm
    | compared => exact mem_targets_of_next htarget.symm
    | routed kind chosen =>
        subst htarget
        exact mem_targets_of_runBranch kind chosen
    | drilled => exact mem_targets_of_next htarget.symm
    | told => exact mem_targets_of_next htarget.symm

theorem mem_references_of_dispatch {delta : Option Delta} {id : String}
    (h : (dispatch source registry step c log).outcome = .ok (.pass delta (some id))) :
    id ∈ step.references :=
  step.targets_subset_references (mem_targets_of_dispatch h)

end Dispatch

end RootCause
