import RootCause.Proofs.Run.Execution
import RootCause.Proofs.Step.Gathering

/-!
What a run is about: the tenant, the metric and the two windows of its meta. Validation of the
context asks for all that steps check in meta later on. No step changes meta, so no step fails for
it and all queries of the run are about the same tenant and windows.
-/

namespace RootCause

/-- Meta that names a tenant, a metric and both windows, of which the current one has a duration. -/
structure RunMeta.Complete (m : RunMeta) (current baseline : WindowRange) : Prop where
  tenantId : ¬isBlankText m.tenantId
  metric : ¬isBlankText m.metric
  window : m.window = some ⟨some current.start, some current.stop⟩
  baselineWindow : m.baselineWindow = some ⟨some baseline.start, some baseline.stop⟩
  order : current.start.before current.stop

theorem TimeWindow.bounds_eq_some_iff {w : TimeWindow} {start stop : DateTime} :
    w.bounds = some (start, stop) ↔ w = ⟨some start, some stop⟩ := by
  obtain ⟨first, last⟩ := w
  cases first with
  | none => simp [bounds]
  | some a =>
      cases last with
      | none => simp [bounds]
      | some b => simp [bounds]

theorem TimeWindow.isComplete_iff {w : TimeWindow} :
    w.isComplete ↔ ∃ range : WindowRange, w = ⟨some range.start, some range.stop⟩ := by
  obtain ⟨first, last⟩ := w
  cases first with
  | none => simp [isComplete]
  | some a =>
      cases last with
      | none => simp [isComplete]
      | some b => exact ⟨fun _ => ⟨⟨a, b⟩, rfl⟩, fun _ => rfl⟩

/-- A context is accepted if its meta is complete. -/
theorem Context.validate_eq_ok_iff {c : Context} : c.validate = .ok () ↔
    ∃ m current baseline, c.runMeta = some m ∧ m.Complete current baseline := by
  have accepted : c.validate = .ok () ↔ c.problems = [] := by
    unfold validate
    rw [← List.isEmpty_iff]
    cases c.problems.isEmpty <;> simp
  rw [accepted]
  unfold problems
  cases c.runMeta with
  | none => simp
  | some m =>
      simp only [List.append_eq_nil_iff, problemIf_eq_nil_iff, Bool.eq_false_iff]
      constructor
      · rintro ⟨⟨⟨tenant, metric⟩, window⟩, baselineWindow⟩
        split at window
        · next start stop bounds =>
          obtain ⟨w, named, complete⟩ := Option.bind_eq_some_iff.1 bounds
          split at baselineWindow
          · next b earlier =>
            obtain ⟨range, rfl⟩ := TimeWindow.isComplete_iff.1
              (problemIf_not_eq_nil_iff.1 baselineWindow)
            rw [TimeWindow.bounds_eq_some_iff.1 complete] at named
            exact ⟨m, ⟨start, stop⟩, range, rfl, tenant, metric, named, earlier,
              problemIf_not_eq_nil_iff.1 window⟩
          · cases baselineWindow
        · cases window
      · rintro ⟨m', current, baseline, same, tenant, metric, window, baselineWindow, order⟩
        cases same
        rw [window, baselineWindow]
        exact ⟨⟨⟨tenant, metric⟩, problemIf_not_eq_nil_iff.2 order⟩, problemIf_not_eq_nil_iff.2 rfl⟩

/-- The causes for which a step blames the meta of its context. -/
def StepFailure.BlamesMeta : StepFailure → Prop
  | .missingMeta | .missingTenant | .missingMetric | .missingWindow => True
  | .compareWithoutMeta | .compareIntent _ => True
  | .breakdownWithoutMeta | .breakdownIntent _ => True
  | _ => False

theorem Step.Yields.gathers {step : Step} {c : Context} {cause : StepFailure}
    (h : step.Yields c (.fail cause)) (blames : cause.BlamesMeta) :
    step.kind ∈ StepKind.gathering := by
  obtain ⟨own, -⟩ | ⟨-, rfl⟩ := h.fail_cases
  · rw [← own]
    cases cause <;> first | exact blames.elim | exact List.mem_of_elem_eq_true rfl
  · exact blames.elim

theorem not_blamesMeta_of_comparableTotals {answer : Option TotalsRow} {cause : StepFailure}
    (h : comparableTotals answer = .error cause) : ¬cause.BlamesMeta := by
  unfold comparableTotals at h
  split at h
  · cases h
    exact fun blames => blames
  · split at h
    · cases h
      exact fun blames => blames
    · cases h

def Query.IsAbout (tenantId : String) (current baseline : WindowRange) : Query → Prop
  | .totals q => q.tenantId = tenantId ∧ q.window = current ∧ q.baselineWindow = baseline
  | .breakdown q => q.tenantId = tenantId ∧ q.window = current ∧ q.baselineWindow = baseline

/-- A context that has this meta, from which every query can be made. -/
structure Context.Serves (c : Context) (m : RunMeta) (current baseline : WindowRange) : Prop where
  runMeta : c.runMeta = some m
  totals : ∀ metrics, MetricQuery.ofMeta m metrics = .ok ⟨m.tenantId, metrics, current, baseline⟩
  breakdown : ∀ dimension filters, BreakdownQuery.ofMeta m dimension filters =
    .ok ⟨m.tenantId, dimension, current, baseline, filters⟩

theorem Context.exists_merge_validationMetrics (c : Context) :
    ∃ after, c.merge (.ofMetrics (validationMetrics true)) = .ok after ∧
      after.metric? "data_valid" = some (.flag true) ∧
      after.metric? "baseline_available" = some (.flag true) :=
  ⟨_, merge_of_meta_eq_none c rfl, (Metrics.get?_override ..).trans rfl,
    (Metrics.get?_override ..).trans rfl⟩

section Complete

variable {m : RunMeta} {current baseline : WindowRange} (complete : m.Complete current baseline)
include complete

theorem RunMeta.Complete.windows_eq : m.windows = .ok (current, baseline) := by
  unfold windows
  rw [if_neg complete.tenantId, complete.window, complete.baselineWindow]
  rfl

theorem RunMeta.Complete.serves {c : Context} (given : c.runMeta = some m) :
    c.Serves m current baseline := by
  refine ⟨given, fun metrics => ?_, fun dimension filters => ?_⟩
  · rw [MetricQuery.ofMeta, complete.windows_eq]
    rfl
  · rw [BreakdownQuery.ofMeta, complete.windows_eq]
    rfl

variable {source : Source} {step : Step} {c : Context} {log : QueryLog}

theorem RunMeta.Complete.checkMeta_eq (given : c.runMeta = some m) : c.checkMeta = .ok true := by
  unfold Context.checkMeta
  rw [given]
  dsimp only
  rw [if_neg complete.tenantId, if_neg complete.metric, complete.window, complete.baselineWindow]
  rfl

theorem RunMeta.Complete.query_eq (given : c.runMeta = some m) (s : CompareSettings) :
    s.query c = .ok ⟨m.tenantId, s.metrics, current, baseline⟩ := by
  unfold CompareSettings.query
  rw [given]
  dsimp only
  rw [(complete.serves given).totals]
  rfl

/-- A breakdown makes its first query of the meta, unless something else is missing. -/
theorem RunMeta.Complete.firstQuery_cases (given : c.runMeta = some m) (s : BreakdownSettings) :
    (∃ cause : StepFailure, s.firstQuery c = .error cause ∧ ¬cause.BlamesMeta) ∨
      ∃ first, s.firstQuery c = .ok (first, ⟨m.tenantId, first, current, baseline, c.filters⟩) := by
  unfold BreakdownSettings.firstQuery
  rw [given]
  split
  · exact .inl ⟨_, rfl, fun blames => blames⟩
  · next first rest _ =>
    split
    · exact .inl ⟨_, rfl, fun blames => blames⟩
    · split
      · exact .inl ⟨_, rfl, fun blames => blames⟩
      · dsimp only
        rw [(complete.serves given).breakdown]
        exact .inr ⟨first, rfl⟩

theorem RunMeta.Complete.isAbout_of_asks (given : c.runMeta = some m) {q : Query}
    (asks : step.Asks c q) : q.IsAbout m.tenantId current baseline := by
  cases asks with
  | @totals settings q kind checked =>
      rw [complete.query_eq given] at checked
      cases checked
      exact ⟨rfl, rfl, rfl⟩
  | @breakdown settings first dimension root kind checked listed filters =>
      obtain ⟨cause, failed, -⟩ | ⟨first', asked⟩ := complete.firstQuery_cases given settings
      · rw [failed] at checked
        cases checked
      · rw [asked] at checked
        cases checked
        exact ⟨rfl, rfl, rfl⟩

theorem RunMeta.Complete.runLeaf_validation (given : c.runMeta = some m)
    {settings : ValidationSettings} (kind : step.settings = .validation settings) :
    runLeaf source step c log =
      (.ok (.pass (some (.ofMetrics (validationMetrics true))) step.next), log) := by
  unfold runLeaf
  rw [kind]
  dsimp only
  rw [runValidation_eq, complete.checkMeta_eq given]
  rfl

/-- Only validations, comparisons and breakdowns look at meta, and these find it complete. -/
theorem RunMeta.Complete.not_blamesMeta (given : c.runMeta = some m) {cause : StepFailure}
    (failed : (runLeaf source step c log).1 = .ok (.fail cause)) : ¬cause.BlamesMeta := by
  have ran : runLeaf source step c log = (.ok (.fail cause), _) := Prod.ext failed rfl
  have other {k : StepKind} (kind : step.kind = k) (idle : k ∉ StepKind.gathering) :
      ¬cause.BlamesMeta :=
    fun blames => idle (kind ▸ (yields_of_runLeaf ran).gathers blames)
  cases kind : step.settings with
  | validation settings =>
      rw [complete.runLeaf_validation given kind] at failed
      cases failed
  | metricCompare settings =>
      unfold runLeaf at ran
      rw [kind] at ran
      dsimp only at ran
      rw [runComparison_eq, complete.query_eq given] at ran
      obtain ⟨answer, mid, -, ran⟩ := Inquiry.bind_eq_ok ran
      cases totals : comparableTotals answer with
      | error cause =>
          rw [totals] at ran
          cases ran
          exact not_blamesMeta_of_comparableTotals totals
      | ok row =>
          rw [totals] at ran
          cases ran
  | breakdown settings =>
      unfold runLeaf at ran
      rw [kind] at ran
      dsimp only at ran
      rw [runBreakdown_eq] at ran
      obtain ⟨cause', failed', unrelated⟩ | ⟨first, asked⟩ :=
        complete.firstQuery_cases given settings
      · rw [failed'] at ran
        cases ran
        exact unrelated
      · rw [asked] at ran
        obtain ⟨collected, mid, -, ran⟩ := Inquiry.bind_eq_ok ran
        cases ran
  | branch settings => exact other (k := .branch) (kind_of_settings kind) (by decide)
  | composite settings => exact other (k := .composite) (kind_of_settings kind) (by decide)
  | insight settings => exact other (k := .insight) (kind_of_settings kind) (by decide)

end Complete

section Run

variable {m : RunMeta} {current baseline : WindowRange} {c : Context}
  (complete : m.Complete current baseline) (given : c.runMeta = some m)
include complete given

variable {r : Run} {entry : Option String} {log : QueryLog} {s : RunState} {top : Step}

/-- Steps are executed in contexts that extend the first one, and so have its meta. -/
theorem Run.Executes.serves {step : Step} {c' : Context} {log' : QueryLog}
    (h : r.Executes entry c log step c' log') : c'.Serves m current baseline :=
  complete.serves (h.extends.runMeta.trans given)

theorem Run.not_blamesMeta_of_fail (reached : r.Reaches entry c log s)
    (dispatched : r.Dispatches s top) {cause : StepFailure}
    (failed : (r.dispatchAt s top).outcome = .ok (.fail cause)) : ¬cause.origin.BlamesMeta := by
  obtain ⟨step, c', log', executed, ran⟩ | rfl | ⟨id, rfl⟩ :=
    exists_executes_of_fail reached dispatched failed
  · exact complete.not_blamesMeta (executed.serves complete given).runMeta ran
  · exact fun blames => blames
  · exact fun blames => blames

theorem Run.exists_advances_of_validation (reached : r.Reaches entry c log s)
    (dispatched : r.Dispatches s top) {settings : ValidationSettings}
    (kind : top.settings = .validation settings) :
    ∃ t, r.Advances s t ∧ t.pointer = top.next ∧
      t.context.metric? "data_valid" = some (.flag true) ∧
      t.context.metric? "baseline_available" = some (.flag true) := by
  have leaf : top.kind ≠ .composite := by
    rw [kind_of_settings kind]
    intro composite
    cases composite
  have executed : r.Executes entry c log top _ s.log := ⟨s, top, reached, dispatched, .itself leaf⟩
  have passed : runLeaf r.source top _ s.log = _ :=
    complete.runLeaf_validation (executed.serves complete given).runMeta kind
  obtain ⟨after, merged, flags⟩ := (r.contextAt s top).exists_merge_validationMetrics
  exact ⟨_, .of_dispatchAt dispatched (dispatch_of_runLeaf leaf passed) merged, rfl, flags⟩

theorem Workflow.isAbout_of_run (w : Workflow) (source : Source) (clock : Nat → Instant) :
    ∃ sent, (w.run source clock c log).2 = log ++ sent ∧
      ∀ q ∈ sent, q.IsAbout m.tenantId current baseline := by
  refine Inquiry.Sent.exists_append (sent_of_run fun registry _ step c' log' executed => ?_)
  exact (sends_runLeaf source step c' log').imp fun _ _ asks =>
    complete.isAbout_of_asks (executed.serves complete given).runMeta asks

end Run

theorem Workflow.run_ne_missingContext {w : Workflow} {source : Source} {clock : Nat → Instant}
    {c : Context} {log : QueryLog} {m : RunMeta} (given : c.runMeta = some m) :
    (w.run source clock c log).1 ≠ .error .missingContext := by
  intro missing
  rcases w.run_cases source clock c log with
    ⟨e, -, refused⟩ | ⟨none, -⟩ | ⟨registry, s, -, -, ended⟩
  · rw [refused] at missing
    cases missing
  · rw [given] at none
    cases none
  · rw [missing] at ended
    cases ended

namespace Workflow

/-- A run about one subject from beginning to end. -/
structure KeepsSubject (w : Workflow) (source : Source) (clock : Nat → Instant) (c : Context)
    (log : QueryLog) (registry : Registry) (m : RunMeta) (current baseline : WindowRange) :
    Prop where
  started : (w.run source clock c log).1 ≠ .error .missingContext
  outcome : ∀ o, (w.run source clock c log).1 = .ok o → o.context.runMeta = some m
  reached : ∀ s, (Run.mk source registry clock).Reaches w.entry? c log s →
    s.context.runMeta = some m
  executed : ∀ step c' log', (Run.mk source registry clock).Executes w.entry? c log step c' log' →
    c'.Serves m current baseline
  validations : ∀ step c' log' settings,
    (Run.mk source registry clock).Executes w.entry? c log step c' log' →
    step.settings = .validation settings →
    runLeaf source step c' log' =
        (.ok (.pass (some (.ofMetrics (validationMetrics true))) step.next), log') ∧
      ∃ after, c'.merge (.ofMetrics (validationMetrics true)) = .ok after ∧
        after.metric? "data_valid" = some (.flag true) ∧
        after.metric? "baseline_available" = some (.flag true)
  marked : ∀ s top settings, (Run.mk source registry clock).Reaches w.entry? c log s →
    (Run.mk source registry clock).Dispatches s top → top.settings = .validation settings →
    ∃ t, (Run.mk source registry clock).Advances s t ∧ t.pointer = top.next ∧
      t.context.metric? "data_valid" = some (.flag true) ∧
      t.context.metric? "baseline_available" = some (.flag true)
  queries : ∃ sent, (w.run source clock c log).2 = log ++ sent ∧
    ∀ q ∈ sent, q.IsAbout m.tenantId current baseline
  dispatched : ∀ s top cause, (Run.mk source registry clock).Reaches w.entry? c log s →
    (Run.mk source registry clock).Dispatches s top →
    ((Run.mk source registry clock).dispatchAt s top).outcome = .ok (.fail cause) →
    ¬cause.origin.BlamesMeta
  failure : ∀ id cause, (w.run source clock c log).1 = .error (.stepFailed id cause) →
    ¬cause.origin.BlamesMeta

/-- The run of an accepted context is about what was accepted: the meta and both windows. -/
theorem keepsSubject_of_validate {c : Context} (valid : c.validate = .ok ()) {w : Workflow}
    {registry : Registry} (built : Registry.ofWorkflow w = .ok registry) (source : Source)
    (clock : Nat → Instant) (log : QueryLog) :
    ∃ m current baseline, c.runMeta = some m ∧ m.Complete current baseline ∧
      w.KeepsSubject source clock c log registry m current baseline := by
  obtain ⟨m, current, baseline, given, complete⟩ := Context.validate_eq_ok_iff.1 valid
  refine ⟨m, current, baseline, given, complete, run_ne_missingContext given, ?_, ?_, ?_, ?_, ?_,
    isAbout_of_run complete given w source clock, ?_, ?_⟩
  · apply result_of_run (P := fun result => ∀ o, result = .ok o → o.context.runMeta = some m)
    · simp
    · simp
    · rintro r s _ after reached ends o rfl
      exact (ends.extends.trans (Run.extends_of_reaches reached)).runMeta.trans given
  · exact fun s reached => (Run.extends_of_reaches reached).runMeta.trans given
  · exact fun step c' log' executed => executed.serves complete given
  · intro step c' log' settings executed kind
    exact ⟨complete.runLeaf_validation (executed.serves complete given).runMeta kind,
      c'.exists_merge_validationMetrics⟩
  · exact fun s top settings reached dispatched kind =>
      Run.exists_advances_of_validation complete given reached dispatched kind
  · exact fun s top cause reached dispatched failed =>
      Run.not_blamesMeta_of_fail complete given reached dispatched failed
  · intro id cause failed
    obtain missing | ⟨s, after, reached, ended⟩ := ends_of_run_eq_error built failed
    · cases missing
    · cases ended with
      | failed dispatched failed policy =>
          exact Run.not_blamesMeta_of_fail complete given reached dispatched failed

/-- A validation in a composite and by itself, and a comparison. -/
def checkTwice : Workflow where
  id := "twice"
  version := "1"
  description := none
  steps := [
    ⟨"group", .composite ⟨["check"]⟩, some "check", none⟩,
    ⟨"check", .validation ⟨[]⟩, some "compare", none⟩,
    ⟨"compare", .metricCompare ⟨["cvr"]⟩, none, none⟩]
  metadata := ∅

theorem keepsSubject_of_checkTwice :
    ∃ registry m current baseline, m.tenantId = "acme" ∧ current.start.before current.stop ∧
      checkTwice.KeepsSubject .silent (fun _ => .epoch) (.ofMeta (.ofTenant "acme")) []
        registry m current baseline ∧
      (checkTwice.run .silent (fun _ => .epoch) (.ofMeta (.ofTenant "acme")) []).1 =
        .error (.stepFailed "compare" .compareWithoutData) := by
  have valid : (Context.ofMeta (.ofTenant "acme")).validate = .ok () := rfl
  obtain ⟨m, current, baseline, given, complete, keeps⟩ :=
    keepsSubject_of_validate valid (w := checkTwice) rfl _ _ _
  cases given
  exact ⟨_, _, current, baseline, rfl, complete.order, keeps, rfl⟩

end Workflow

end RootCause
