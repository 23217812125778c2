import RootCause.Proofs.Insight.Selection
import RootCause.Proofs.Run.Completion
import RootCause.Source.Fixture

/-!
Steps of a workflow grouped into a composite. One by one or grouped, gathering steps lead to an
insight in the same runs and to the same insight, although the run of the group merges what they
find a second time.
-/

namespace RootCause

open Relation (ReflTransGen)

/-- The id that control enters at when it goes through the steps and comes out at the last id. -/
def firstId (members : List Step) (after : String) : String :=
  match members with
  | [] => after
  | step :: _ => step.id

/-- The steps, each with the next one to go on to. -/
def chain : List Step → (after : String) → List Step
  | [], _ => []
  | step :: rest, after => step.handingTo (some (firstId rest after)) :: chain rest after

theorem map_id_chain (members : List Step) (after : String) :
    (chain members after).map (·.id) = members.map (·.id) := by
  induction members with
  | nil => rfl
  | cons step rest ih => exact congrArg (step.id :: ·) ih

namespace Run

variable {r : Run} {s t : RunState} {step : Step} {members : List Step} {o : RunOutcome}

section Gathering

variable {next : Option String}

theorem exists_advances_of_delta? (stateless : r.source.Stateless) (gathers : step.Gathers)
    (dispatched : r.Dispatches s (step.handingTo next)) {d : Delta}
    (given : step.delta? r.source s.context.untraced = some d) : ∃ t, r.Advances s t := by
  obtain ⟨after, ran⟩ := gathers.runLeaf_of_delta? stateless
    (c := r.contextAt s (step.handingTo next)) given next s.log
  have leaf : (step.handingTo next).kind ≠ .composite := gathers.kind_ne_composite
  have done : r.dispatchAt s (step.handingTo next) =
      ⟨.ok (.pass (some d) next), r.contextAt s (step.handingTo next), after⟩ :=
    dispatch_of_runLeaf leaf ran
  exact ⟨_, .of_dispatchAt dispatched done (merge?_of_yields (yields_of_runLeaf ran))⟩

/-- A gathering step that passes has a delta. The run then has it merged and recorded. -/
theorem Advances.exists_delta? (h : r.Advances s t) (stateless : r.source.Stateless)
    (gathers : step.Gathers) (declared : step.handingTo next ∈ r.registry.steps)
    (pointer : s.pointer = some step.id) :
    ∃ d, step.delta? r.source s.context.untraced = some d ∧ t.pointer = next ∧
      t.records.map (·.stepId) = s.records.map (·.stepId) ++ [step.id] ∧
      t.context.untraced = s.context.untraced.mergeOrKeep d := by
  obtain ⟨delta, target, c, passed, merged, rfl⟩ := h.dispatched declared pointer
  have leaf : (step.handingTo next).kind ≠ .composite := gathers.kind_ne_composite
  have ran := runLeaf_of_dispatch leaf passed
  obtain ⟨d, given, rfl, rfl⟩ := gathers.delta?_of_runLeaf stateless next ran
  refine ⟨d, given, rfl, ?_, ?_⟩
  · rw [List.map_append]
    rfl
  · rw [show (r.dispatchAt s (step.handingTo target)).context = _ from (dispatch_of_leaf leaf).1,
      merge?_of_yields (yields_of_runLeaf ran)] at merged
    cases merged
    exact Context.untraced_mergeOrKeep _ d

end Gathering

section Chain

variable {after : String}

/-- A run goes through gathering steps that all have a delta. -/
theorem reaches_of_deltas? (stateless : r.source.Stateless)
    (gather : ∀ step ∈ members, step.Gathers)
    (declared : ∀ step ∈ chain members after, step ∈ r.registry.steps)
    (pointer : s.pointer = some (firstId members after))
    (distinct : (s.records.map (·.stepId) ++ members.map (·.id)).Nodup)
    (room : s.records.length + members.length ≤ maxDispatchedSteps) {deltas : List Delta}
    (given : Step.deltas? r.source members s.context.untraced = some deltas) :
    ∃ t, ReflTransGen r.Advances s t ∧ t.pointer = some after ∧
      t.records.map (·.stepId) = s.records.map (·.stepId) ++ members.map (·.id) ∧
      t.context.untraced = deltas.foldl Context.mergeOrKeep s.context.untraced := by
  -- Each step finds the deltas before it merged, so the state to start from varies.
  induction members generalizing s deltas with
  | nil =>
      cases given
      exact ⟨s, .refl, pointer, (List.append_nil _).symm, rfl⟩
  | cons step rest ih =>
      obtain ⟨d, later, first, others, rfl⟩ := Step.deltas?_cons_eq_some given
      obtain ⟨gathers, gatherRest⟩ := List.forall_mem_cons.1 gather
      obtain ⟨declaredFirst, declaredRest⟩ := List.forall_mem_cons.1 declared
      rw [List.length_cons] at room
      rw [List.map_cons] at distinct
      have fresh : step.id ∉ s.records.map (·.stepId) := fun seen =>
        List.disjoint_of_nodup_append distinct seen List.mem_cons_self
      have dispatched : r.Dispatches s (step.handingTo (some (firstId rest after))) :=
        dispatches_of_mem declaredFirst rfl pointer (by omega) fresh
      obtain ⟨mid, advanced⟩ := exists_advances_of_delta? stateless gathers dispatched first
      obtain ⟨d', same, arrived, records, context⟩ :=
        advanced.exists_delta? stateless gathers declaredFirst pointer
      rw [first] at same
      cases same
      have counted := length_records records
      rw [List.length_append, List.length_map, List.length_singleton] at counted
      rw [← context] at others
      obtain ⟨t, reached, outside, visited, left⟩ := ih gatherRest declaredRest arrived
        (by rw [records, List.append_assoc]; exact distinct) (by omega) others
      refine ⟨t, .head advanced reached, outside, ?_, ?_⟩
      · rw [visited, records, List.append_assoc]
        rfl
      · rw [left, context]
        rfl

/-- A run that completes by way of gathering steps has found a delta at each. -/
theorem exists_deltas?_of_completesWith (stateless : r.source.Stateless)
    (gather : ∀ step ∈ members, step.Gathers)
    (declared : ∀ step ∈ chain members after, step ∈ r.registry.steps)
    (pointer : s.pointer = some (firstId members after)) {o : RunOutcome}
    (h : r.CompletesWith s o) :
    ∃ deltas, Step.deltas? r.source members s.context.untraced = some deltas := by
  induction members generalizing s with
  | nil => exact ⟨[], rfl⟩
  | cons step rest ih =>
      obtain ⟨gathers, gatherRest⟩ := List.forall_mem_cons.1 gather
      obtain ⟨declaredFirst, declaredRest⟩ := List.forall_mem_cons.1 declared
      obtain ⟨mid, advanced, completes⟩ := h.advances pointer
      obtain ⟨d, given, arrived, -, context⟩ :=
        advanced.exists_delta? stateless gathers declaredFirst pointer
      obtain ⟨later, others⟩ := ih gatherRest declaredRest arrived completes
      rw [context] at others
      exact ⟨d :: later, Step.deltas?_cons_of_some given others⟩

end Chain

section Composite

variable {group : Step}

/-- A composite of gathering steps that all have a delta passes, with each delta merged twice. -/
theorem exists_advances_of_composite (stateless : r.source.Stateless)
    (gather : ∀ step ∈ members, step.Gathers)
    (declared : ∀ step ∈ members, step ∈ r.registry.steps)
    (kind : group.settings = .composite ⟨members.map (·.id)⟩) (filled : members ≠ [])
    (dispatched : r.Dispatches s group) {deltas : List Delta}
    (given : Step.deltas? r.source members s.context.untraced = some deltas) :
    ∃ t, r.Advances s t ∧ t.pointer = group.next ∧
      t.records.map (·.stepId) = s.records.map (·.stepId) ++ [group.id] ∧
      t.context.untraced = deltas.foldl Context.mergeOrKeep
        { deltas.foldl Context.mergeOrKeep s.context.untraced with scratch := ∅ } := by
  obtain ⟨last, after, passed⟩ := subStepsPass_of_deltas? stateless
    (fun step member => Registry.get?_of_mem (declared step member)) gather
    (c := r.contextAt s group) given s.log
  have listed : members.map (·.id) ≠ [] := fun none => filled (List.map_eq_nil_iff.1 none)
  refine ⟨_, .of_dispatchAt dispatched (dispatchAt_of_pass kind listed passed)
    (merge_composite passed), rfl, ?_, ?_⟩
  · rw [List.map_append]
    rfl
  · -- The trace has the dispatch of the composite, which the merges leave alone.
    rw [Context.untraced_foldl_mergeOrKeep]
    change deltas.foldl Context.mergeOrKeep
      { (deltas.foldl Context.mergeOrKeep (r.contextAt s group)).untraced with scratch := ∅ } = _
    rw [Context.untraced_foldl_mergeOrKeep]
    rfl

/-- A run that completes by way of a composite of gathering steps has found a delta at each. -/
theorem exists_deltas?_of_composite (stateless : r.source.Stateless)
    (gather : ∀ step ∈ members, step.Gathers)
    (declared : ∀ step ∈ members, step ∈ r.registry.steps)
    (kind : group.settings = .composite ⟨members.map (·.id)⟩) (filled : members ≠ [])
    (grouped : group ∈ r.registry.steps) (pointer : s.pointer = some group.id)
    (h : r.CompletesWith s o) :
    ∃ deltas, Step.deltas? r.source members s.context.untraced = some deltas := by
  obtain ⟨t, advanced, -⟩ := h.advances pointer
  obtain ⟨delta, next, c, passed, -, -⟩ := advanced.dispatched grouped pointer
  have listed : members.map (·.id) ≠ [] := fun none => filled (List.map_eq_nil_iff.1 none)
  rw [dispatchAt_composite kind listed] at passed
  obtain ⟨deltas, last, after, passes⟩ := exists_subStepsPass_of_runSubSteps passed
  exact ⟨deltas, exists_deltas?_of_subStepsPass (c := r.contextAt s group) stateless
    (fun step member => Registry.get?_of_mem (declared step member)) gather passes⟩

end Composite

end Run

namespace Workflow

variable {w : Workflow} {source : Source} {clock : Nat → Instant} {c : Context} {log : QueryLog}

/-- The workflow of gathering steps one after another and an insight. -/
def sequence (w : Workflow) (members : List Step) (tell : Step) : Workflow :=
  { w with steps := chain members tell.id ++ [tell.handingTo none] }

/-- The workflow of a composite of the steps and an insight. -/
def grouping (w : Workflow) (id : String) (policy : Option FailPolicy) (members : List Step)
    (tell : Step) : Workflow :=
  { w with steps := ⟨id, .composite ⟨members.map (·.id)⟩, some tell.id, policy⟩ ::
      (members ++ [tell.handingTo none]) }

/-- A run publishes the insight of a context that the deltas of the steps lead to, and it
completes only if all of the steps have a delta. -/
structure TellsOf (w : Workflow) (source : Source) (clock : Nat → Instant) (c : Context)
    (log : QueryLog) (members : List Step) (template : InsightTemplate)
    (gathered : List Delta → Context) : Prop where
  told : ∀ deltas, Step.deltas? source members c.untraced = some deltas →
    ∃ o, (w.run source clock c log).1 = .ok o ∧ o.Tells template (gathered deltas)
  only : ∀ o, w.Completes source clock c log o →
    ∃ deltas, Step.deltas? source members c.untraced = some deltas

section Outcomes

variable {id : String} {members : List Step} {tell : Step} {settings : InsightSettings}

/-- One after another, the steps are told of with each delta merged once. -/
theorem sequence_tellsOf (w : Workflow) (clock : Nat → Instant) (log : QueryLog)
    (few : members.length < maxDispatchedSteps)
    (distinct : (members.map (·.id) ++ [tell.id]).Nodup)
    (gather : ∀ step ∈ members, step.Gathers) (telling : tell.settings = .insight settings)
    (stateless : source.Stateless) (hasMeta : c.runMeta.isSome) :
    (w.sequence members tell).TellsOf source clock c log members settings.template
      fun deltas => deltas.foldl Context.mergeOrKeep c.untraced := by
  have ids : (w.sequence members tell).stepIds = members.map (·.id) ++ [tell.id] := by
    unfold stepIds sequence
    rw [List.map_append, map_id_chain]
    rfl
  have entry : entry? (w.sequence members tell) = some (firstId members tell.id) := by
    cases members <;> rfl
  obtain ⟨registry, built⟩ := Registry.exists_ofWorkflow
    (w := w.sequence members tell) (List.append_ne_nil_of_right_ne_nil _ (List.cons_ne_nil _ _))
    (by rw [ids]; exact distinct)
  have steps := (Registry.steps_of_ofWorkflow built).1
  have declared : ∀ step ∈ chain members tell.id, step ∈ registry.steps := by
    rw [steps]
    exact fun step member => List.mem_append_left _ member
  have last : tell.handingTo none ∈ registry.steps := by
    rw [steps]
    exact List.mem_append_right _ List.mem_cons_self
  refine ⟨?_, ?_⟩
  · intro deltas given
    obtain ⟨t, reached, pointer, records, context⟩ :=
      Run.reaches_of_deltas? (r := ⟨source, registry, clock⟩)
        (s := ⟨some (firstId members tell.id), [], c, log⟩) stateless gather declared rfl
        (List.nodup_append.1 distinct).1 (by rw [List.length_nil]; omega) given
    have counted : t.records.length = members.length := by
      rw [Run.length_records records, List.map_nil, List.nil_append, List.length_map]
    have fresh : tell.id ∉ t.records.map (·.stepId) := by
      rw [records]
      exact fun seen => List.disjoint_of_nodup_append distinct seen List.mem_cons_self
    have dispatched := Run.dispatches_of_mem (r := ⟨source, registry, clock⟩) last rfl pointer
      (by omega) fresh
    obtain ⟨o, result, tells⟩ := Run.tells_of_dispatches dispatched telling rfl
    rw [context] at tells
    rw [run_eq_followFrom built hasMeta, entry, Run.followFrom_of_reflTransGen reached]
    exact ⟨o, result, tells⟩
  · intro o completes
    have arrives := completes.completesWith built hasMeta
    rw [entry] at arrives
    exact Run.exists_deltas?_of_completesWith stateless gather declared rfl arrives

/-- As a composite, the steps are told of with each delta merged twice. -/
theorem grouping_tellsOf (w : Workflow) (policy : Option FailPolicy) (clock : Nat → Instant)
    (log : QueryLog) (filled : members ≠ [])
    (distinct : (id :: (members.map (·.id) ++ [tell.id])).Nodup)
    (gather : ∀ step ∈ members, step.Gathers) (telling : tell.settings = .insight settings)
    (stateless : source.Stateless) (hasMeta : c.runMeta.isSome) :
    (w.grouping id policy members tell).TellsOf source clock c log members settings.template
      fun deltas => deltas.foldl Context.mergeOrKeep
        { deltas.foldl Context.mergeOrKeep c.untraced with scratch := ∅ } := by
  have ids : (w.grouping id policy members tell).stepIds =
      id :: (members.map (·.id) ++ [tell.id]) := by
    unfold stepIds grouping
    rw [List.map_cons, List.map_append]
    rfl
  obtain ⟨registry, built⟩ := Registry.exists_ofWorkflow
    (w := w.grouping id policy members tell) (List.cons_ne_nil _ _) (by rw [ids]; exact distinct)
  have steps := (Registry.steps_of_ofWorkflow built).1
  have declared : ∀ step ∈ members, step ∈ registry.steps := by
    rw [steps]
    exact fun step member => List.mem_cons_of_mem _ (List.mem_append_left _ member)
  have last : tell.handingTo none ∈ registry.steps := by
    rw [steps]
    exact List.mem_cons_of_mem _ (List.mem_append_right _ List.mem_cons_self)
  have grouped : ⟨id, .composite ⟨members.map (·.id)⟩, some tell.id, policy⟩ ∈ registry.steps := by
    rw [steps]
    exact List.mem_cons_self
  refine ⟨?_, ?_⟩
  · intro deltas given
    have dispatched := Run.dispatches_of_mem (r := ⟨source, registry, clock⟩)
      (s := ⟨some id, [], c, log⟩) grouped rfl rfl (Nat.zero_lt_succ 99)
      List.not_mem_nil
    obtain ⟨t, advanced, pointer, records, context⟩ := Run.exists_advances_of_composite stateless
      gather declared rfl filled dispatched given
    have counted : t.records.length = 1 := Run.length_records records
    have fresh : tell.id ∉ t.records.map (·.stepId) := by
      rw [records]
      intro seen
      have same : tell.id = id := List.mem_singleton.1 seen
      refine (List.nodup_cons.1 distinct).1 (List.mem_append_right _ ?_)
      exact List.mem_singleton.2 same.symm
    have dispatchedLast := Run.dispatches_of_mem (r := ⟨source, registry, clock⟩) last rfl pointer
      (by rw [counted]; decide) fresh
    obtain ⟨o, result, tells⟩ := Run.tells_of_dispatches dispatchedLast telling rfl
    rw [context] at tells
    rw [run_eq_followFrom built hasMeta]
    refine ⟨o, ?_, tells⟩
    rw [← result]
    exact congrArg Prod.fst (Run.followFrom_of_advances advanced)
  · intro o completes
    exact Run.exists_deltas?_of_composite stateless gather declared rfl filled grouped rfl
      (completes.completesWith built hasMeta)

end Outcomes

end Workflow

/-- Two outcomes that publish one insight and have the same metrics. The second one has the
evidence that the first has gained twice. -/
structure RunOutcome.SameFinding (o grouped : RunOutcome) (before : Context) : Prop where
  insight : ∃ insight : Insight,
    o.context.scratch.get? Insight.scratchKey = some insight.toJson ∧
      grouped.context.scratch.get? Insight.scratchKey = some insight.toJson
  metrics : o.context.metrics = grouped.context.metrics
  breakdowns : ∀ key, ∃ gained,
    o.context.breakdowns.under key = before.breakdowns.under key ++ gained ∧
      grouped.context.breakdowns.under key = before.breakdowns.under key ++ gained ++ gained

/-- What is told of deltas merged once and merged twice is the same finding. -/
theorem RunOutcome.Tells.sameFinding {o grouped : RunOutcome} {template : InsightTemplate}
    {c : Context} {deltas : List Delta} (cleared : c.scratch = ∅)
    (steps : ∀ d ∈ deltas, d.FromStep) (untold : ∀ d ∈ deltas, d.scratch = none)
    (once : o.Tells template (deltas.foldl Context.mergeOrKeep c.untraced))
    (twice : grouped.Tells template (deltas.foldl Context.mergeOrKeep
      { deltas.foldl Context.mergeOrKeep c.untraced with scratch := ∅ })) :
    o.SameFinding grouped c := by
  have accepted : ∀ d ∈ deltas, d.Accepted := fun d member => (steps d member).accepted
  have same := Insight.ofContext_merged_twice template (c := c.untraced) cleared steps untold
  have composed := Context.composedFrom_merged_twice c.untraced steps
  refine ⟨⟨Insight.ofContext template (deltas.foldl Context.mergeOrKeep c.untraced), ?_, ?_⟩, ?_,
    fun key => ⟨deltas.flatMap (·.under key), ?_, ?_⟩⟩
  · rw [once.scratch]
    rfl
  · rw [twice.scratch, same]
    rfl
  · rw [once.metrics, twice.metrics, Context.metrics_foldl_twice c.untraced ∅ accepted]
  · rw [once.breakdowns]
    exact Context.under_foldl_mergeOrKeep c.untraced accepted key
  · rw [twice.breakdowns]
    exact composed.breakdowns key

/-- Whether gathering steps run one after another or as a composite, the workflow completes for
the same sources and contexts, and tells the same of them. -/
theorem Workflow.sameFinding_of_grouping (w : Workflow) {id : String} (policy : Option FailPolicy)
    {members : List Step} {tell : Step} {settings : InsightSettings} {source : Source}
    {c : Context} (filled : members ≠ []) (few : members.length ≤ 99)
    (distinct : (id :: (members.map (·.id) ++ [tell.id])).Nodup)
    (kinds : ∀ step ∈ members, step.kind ∈ StepKind.gathering)
    (telling : tell.settings = .insight settings) (stateless : source.Stateless)
    (hasMeta : c.runMeta.isSome) (cleared : c.scratch = ∅) (clock clock' : Nat → Instant)
    (log log' : QueryLog) :
    ((∃ o, (w.sequence members tell).Completes source clock c log o) ↔
      ∃ o, (w.grouping id policy members tell).Completes source clock' c log' o) ∧
    ∀ o o', (w.sequence members tell).Completes source clock c log o →
      (w.grouping id policy members tell).Completes source clock' c log' o' →
      o.SameFinding o' c := by
  have gather : ∀ step ∈ members, step.Gathers := fun step member =>
    Step.gathers_of_kind (kinds step member)
  have sequence := sequence_tellsOf w clock log (Nat.lt_succ_of_le few)
    (List.nodup_cons.1 distinct).2 gather telling stateless hasMeta
  have grouping := grouping_tellsOf w policy clock' log' filled distinct gather telling stateless
    hasMeta
  refine ⟨⟨?_, ?_⟩, ?_⟩
  · rintro ⟨o, completes⟩
    obtain ⟨deltas, given⟩ := sequence.only o completes
    obtain ⟨o', result, tells⟩ := grouping.told deltas given
    exact ⟨o', result, tells.completed⟩
  · rintro ⟨o', completes⟩
    obtain ⟨deltas, given⟩ := grouping.only o' completes
    obtain ⟨o, result, tells⟩ := sequence.told deltas given
    exact ⟨o, result, tells.completed⟩
  · intro o o' completes completes'
    obtain ⟨deltas, given⟩ := sequence.only o completes
    obtain ⟨once, result, tells⟩ := sequence.told deltas given
    obtain ⟨twice, result', tells'⟩ := grouping.told deltas given
    cases completes.1.symm.trans result
    cases completes'.1.symm.trans result'
    have facts := Step.fromStep_of_deltas? gather given
    exact tells.sameFinding cleared (fun d member => (facts d member).1)
      (fun d member => (facts d member).2) tells'

/-- One product, which alone makes up the totals and lost a fifth of its orders. -/
def Fixture.oneProduct : Fixture where
  totals := some ⟨100, 100, 20, 25, 8, 10⟩
  breakdowns := [⟨productDimension, [], [⟨"p1", some "Shirt", 100, 100, 20, 25, 8, 10⟩]⟩]

def Step.checkCompareDrill : List Step := [
  ⟨"check", .validation ⟨[]⟩, none, none⟩,
  ⟨"compare", .metricCompare ⟨["cvr"]⟩, none, none⟩,
  ⟨"drill", .breakdown ⟨some productDimension, [], .cvr, {}, .delta, .desc, .drop, .bothLow, none⟩,
    none, none⟩]

def Step.tellTop : Step where
  id := "tell"
  settings := .insight ⟨⟨"top: \x7b\x7btop_label\x7d\x7d", []⟩⟩
  next := none
  onFail := none

def Workflow.blank : Workflow := ⟨"drop", "1", none, [], ∅⟩

theorem Workflow.sameFinding_of_oneProduct :
    ∃ o o', (blank.sequence Step.checkCompareDrill .tellTop).Completes Fixture.oneProduct.source
        (fun _ => .epoch) (.ofMeta (.ofTenant "acme")) [] o ∧
      (blank.grouping "group" none Step.checkCompareDrill .tellTop).Completes
        Fixture.oneProduct.source (fun _ => .epoch) (.ofMeta (.ofTenant "acme")) [] o' ∧
      o.SameFinding o' (.ofMeta (.ofTenant "acme")) := by
  have distinct : ("group" :: (Step.checkCompareDrill.map (·.id) ++ [Step.tellTop.id])).Nodup := by
    decide
  have kinds : ∀ step ∈ Step.checkCompareDrill, step.kind ∈ StepKind.gathering := by decide
  obtain ⟨both, same⟩ := sameFinding_of_grouping blank none (c := .ofMeta (.ofTenant "acme"))
    (List.cons_ne_nil _ _) (by decide) distinct kinds rfl Fixture.oneProduct.source_stateless rfl
    rfl (fun _ => .epoch) (fun _ => .epoch) [] []
  have ran : ((blank.sequence Step.checkCompareDrill .tellTop).run Fixture.oneProduct.source
      (fun _ => .epoch) (.ofMeta (.ofTenant "acme")) []).1.toOption.map (·.status) =
      some .completed := by decide +kernel
  obtain ⟨o, completes⟩ := exists_completes ran
  obtain ⟨o', completes'⟩ := both.1 ⟨o, completes⟩
  exact ⟨o, o', completes, completes', same o o' completes completes'⟩

end RootCause
