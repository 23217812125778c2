import RootCause.Proofs.Breakdown.Published
import RootCause.Proofs.Run.Execution
import RootCause.Proofs.Source.Denotation

/-!
The dimensions of validated workflows. Validation looks at the names of a breakdown's list that are
not blank, and wants one of them; a breakdown refuses a list with any blank name. So whatever is
asked for is an allowed dimension, but a list with a blank name among others is accepted and fails.
-/

namespace RootCause

/-- A breakdown that has a blank name in its list of dimensions. -/
def Step.ListsBlank (step : Step) : Prop :=
  ∃ settings, step.settings = .breakdown settings ∧ ∃ d ∈ settings.dimensionList, isBlankText d

theorem Step.dimensions_of_settled {step : Step} {settings : BreakdownSettings}
    (settled : step.settingsProblems = []) (kind : step.settings = .breakdown settings) :
    settings.dimensionList ≠ [] ∧
      ∀ d ∈ settings.dimensionList, ¬isBlankText d → d ∈ allowedDimensions := by
  unfold settingsProblems at settled
  rw [kind] at settled
  obtain ⟨named, each⟩ := List.append_eq_nil_iff.1 settled
  constructor
  · intro none
    rw [none] at named
    cases named
  · intro d listed filled
    have own := problemIf_eq_nil_iff.1 (List.flatMap_eq_nil_iff.1 each d listed)
    rw [Bool.eq_false_iff.2 filled, Bool.not_false, Bool.true_and, Bool.not_eq_false'] at own
    exact List.contains_iff_mem.1 own

namespace BreakdownSettings

variable {s : BreakdownSettings} {c : Context}

theorem firstQuery_eq_invalidDimension_iff : s.firstQuery c = .error .invalidDimension ↔
    s.dimensionList = [] ∨ ∃ d ∈ s.dimensionList, isBlankText d := by
  unfold firstQuery
  split
  · next none => simp [none]
  · next first rest listed =>
    rw [listed]
    split
    · next blank => simp only [List.any_eq_true.1 blank, or_true]
    · next filled =>
      have named : ¬∃ d ∈ first :: rest, isBlankText d := fun blank =>
        filled (List.any_eq_true.2 blank)
      simp only [named, List.cons_ne_nil, or_self, iff_false]
      split
      · simp
      · split
        · simp
        · split
          · simp
          · simp

theorem not_blank_of_firstQuery {query : String × BreakdownQuery} (h : s.firstQuery c = .ok query) :
    ∀ d ∈ s.dimensionList, ¬isBlankText d := by
  intro d listed blank
  rw [firstQuery_eq_invalidDimension_iff.2 (.inr ⟨d, listed, blank⟩)] at h
  cases h

end BreakdownSettings

section Leaf

variable {source : Source} {step : Step} {c : Context} {log : QueryLog}

/-- The check at the start of a breakdown and the validation of its names make up for each other. -/
theorem Step.Asks.mem_allowedDimensions {q : BreakdownQuery} (asks : step.Asks c (.breakdown q))
    (settled : step.settingsProblems = []) : q.dimension ∈ allowedDimensions := by
  cases asks with
  | breakdown kind checked listed filters =>
      exact (step.dimensions_of_settled settled kind).2 _ listed
        (BreakdownSettings.not_blank_of_firstQuery checked _ listed)

theorem runLeaf_eq_invalidDimension_iff {settings : BreakdownSettings}
    (kind : step.settings = .breakdown settings) :
    (runLeaf source step c log).1 = .ok (.fail .invalidDimension) ↔
      settings.firstQuery c = .error .invalidDimension := by
  unfold runLeaf
  rw [kind]
  dsimp only
  rw [runBreakdown_eq]
  cases checked : settings.firstQuery c with
  | error cause =>
      constructor
      · intro failed
        cases failed
        rfl
      · rintro ⟨⟩
        rfl
  | ok query =>
      dsimp only
      rw [← map_eq_pure_bind, Inquiry.map_apply]
      cases (walk source settings query.2 log).1 with
      | error e => simp [Except.map]
      | ok collected => simp [Except.map]

theorem Step.Yields.exists_breakdown (h : step.Yields c (.fail .invalidDimension)) :
    ∃ settings, step.settings = .breakdown settings := by
  obtain ⟨own, -⟩ | ⟨-, other⟩ := h.fail_cases
  · unfold Step.kind at own
    cases kind : step.settings with
    | breakdown settings => exact ⟨settings, rfl⟩
    | _ =>
        rw [kind] at own
        cases own
  · cases other

theorem runLeaf_eq_invalidDimension_iff_listsBlank (settled : step.settingsProblems = []) :
    (runLeaf source step c log).1 = .ok (.fail .invalidDimension) ↔ step.ListsBlank := by
  constructor
  · intro failed
    obtain ⟨settings, kind⟩ := (yields_of_runLeaf (Prod.ext failed rfl)).exists_breakdown
    have invalid := (runLeaf_eq_invalidDimension_iff kind).1 failed
    obtain none | blank := BreakdownSettings.firstQuery_eq_invalidDimension_iff.1 invalid
    · exact absurd none (step.dimensions_of_settled settled kind).1
    · exact ⟨settings, kind, blank⟩
  · rintro ⟨settings, kind, blank⟩
    exact (runLeaf_eq_invalidDimension_iff kind).2
      (BreakdownSettings.firstQuery_eq_invalidDimension_iff.2 (.inr blank))

end Leaf

theorem Tables.exists_of_unsupportedDimension {t : Tables} {log : QueryLog} {q : Query}
    {d : String} (h : Inquiry.errorOf? t.source log q = some (.unsupportedDimension d)) :
    ∃ b, q = .breakdown b ∧ b.dimension ∉ allowedDimensions := by
  unfold Inquiry.errorOf? at h
  cases q with
  | totals q =>
      dsimp only at h
      rw [source_totals] at h
      cases answer : t.totals q with
      | none =>
          rw [answer] at h
          cases h
      | some row =>
          rw [answer] at h
          cases h
  | breakdown b =>
      refine ⟨b, rfl, fun listed => ?_⟩
      dsimp only at h
      rw [source_breakdown, if_pos (List.contains_iff_mem.2 listed)] at h
      by_cases deep : deepestCondition < conditionDepth b.filters
      · rw [if_pos deep] at h
        cases h
      · rw [if_neg deep] at h
        cases answer : t.breakdown b with
        | none =>
            rw [answer] at h
            cases h
        | some rows =>
            rw [answer] at h
            cases h

theorem Run.Executes.settled {w : Workflow} (wellFormed : w.WellFormed) {r : Run}
    (built : Registry.ofWorkflow w = .ok r.registry) {entry : Option String} {c c' : Context}
    {log log' : QueryLog} {step : Step} (h : r.Executes entry c log step c' log') :
    step.settingsProblems = [] :=
  wellFormed.settled step ((Registry.steps_of_ofWorkflow built).1 ▸ h.mem_steps)

namespace Workflow

/-- Runs of a validated workflow ask for allowed dimensions only, so tables never refuse one. -/
theorem allowed_of_run {w : Workflow} (valid : w.validate = .ok ()) (clock : Nat → Instant)
    (c : Context) (log : QueryLog) :
    (∀ source, ∃ sent, (w.run source clock c log).2 = log ++ sent ∧
      ∀ q, .breakdown q ∈ sent → q.dimension ∈ allowedDimensions) ∧
    ∀ (t : Tables) id d,
      (w.run t.source clock c log).1 ≠ .error (.step id (.source (.unsupportedDimension d))) := by
  have wellFormed := validate_eq_ok_iff.1 valid
  constructor
  · intro source
    have sent : Inquiry.Sent
        (fun _ q => ∀ b, q = .breakdown b → b.dimension ∈ allowedDimensions) log
        (w.run source clock c log).2 := by
      refine sent_of_run fun registry built step c' log' executed => ?_
      refine (sends_runLeaf source step c' log').imp ?_
      rintro before q asks b rfl
      exact asks.mem_allowedDimensions (executed.settled wellFormed built)
    obtain ⟨queries, whole, each⟩ := sent.exists_append
    exact ⟨queries, whole, fun q member => each _ member q rfl⟩
  · intro t id d broke
    obtain ⟨registry, built⟩ := Registry.exists_ofWorkflow wellFormed.filled wellFormed.distinct
    obtain missing | ⟨s, after, reached, ended⟩ := ends_of_run_eq_error built broke
    · cases missing
    · obtain ⟨step, c', log', cause, executed, ran, same⟩ :=
        ended.exists_executes_of_error reached
      cases same
      obtain ⟨before, q, asks, answer⟩ := exists_asks_of_error ran
      obtain ⟨b, rfl, unlisted⟩ := Tables.exists_of_unsupportedDimension answer
      exact unlisted (asks.mem_allowedDimensions (executed.settled wellFormed built))

/-- A breakdown by product and source that is run in a composite and then once more by itself. -/
def drillTwice : Workflow where
  id := "twice"
  version := "1"
  description := none
  steps := [
    ⟨"group", .composite ⟨["drill"]⟩, some "drill", none⟩,
    ⟨"drill", .breakdown { BreakdownSettings.productDrops with
      dimension := none
      dimensions := [productDimension, "utm_source"]
      stopConditions := { maxDepth := 2 } }, none, none⟩]
  metadata := ∅

theorem allowed_of_drillTwice :
    (∃ sent, (drillTwice.run Fixture.twoProducts.source (fun _ => .epoch) .compared []).2 = sent ∧
      (QueryLog.breakdowns sent).map (·.dimension) =
        [productDimension, "utm_source", productDimension, "utm_source"] ∧
      ∀ q, .breakdown q ∈ sent → q.dimension ∈ allowedDimensions) ∧
    ∀ (t : Tables) id d, (drillTwice.run t.source (fun _ => .epoch) .compared []).1 ≠
      .error (.step id (.source (.unsupportedDimension d))) := by
  have valid : drillTwice.validate = .ok () := by decide +kernel
  obtain ⟨asks, answers⟩ := allowed_of_run valid (fun _ => .epoch) .compared []
  obtain ⟨sent, whole, allowed⟩ := asks Fixture.twoProducts.source
  have asked : (QueryLog.breakdowns
      (drillTwice.run Fixture.twoProducts.source (fun _ => .epoch) .compared []).2).map
      (·.dimension) = [productDimension, "utm_source", productDimension, "utm_source"] := by
    decide +kernel
  rw [whole] at asked
  exact ⟨⟨sent, whole, asked, allowed⟩, answers⟩

/-- In runs of a validated workflow a step fails for its dimensions exactly when it is a breakdown
with a blank name in its list. Without such a breakdown no dispatched step does. -/
theorem failsForBlank_of_run {w : Workflow} (valid : w.validate = .ok ()) (source : Source)
    (clock : Nat → Instant) (c : Context) (log : QueryLog) {registry : Registry}
    (built : Registry.ofWorkflow w = .ok registry) :
    (∀ step c' log',
      (Run.mk source registry clock).Executes w.entry? c log step c' log' →
      ((runLeaf source step c' log').1 = .ok (.fail .invalidDimension) ↔ step.ListsBlank)) ∧
    ((∀ step ∈ w.steps, ¬step.ListsBlank) →
      ∀ s top cause, (Run.mk source registry clock).Reaches w.entry? c log s →
        (Run.mk source registry clock).Dispatches s top →
        ((Run.mk source registry clock).dispatchAt s top).outcome = .ok (.fail cause) →
        cause.origin ≠ .invalidDimension) := by
  have wellFormed := validate_eq_ok_iff.1 valid
  have exactly : ∀ step c' log',
      (Run.mk source registry clock).Executes w.entry? c log step c' log' →
      ((runLeaf source step c' log').1 = .ok (.fail .invalidDimension) ↔ step.ListsBlank) :=
    fun step c' log' executed => runLeaf_eq_invalidDimension_iff_listsBlank
      (executed.settled wellFormed built)
  refine ⟨exactly, ?_⟩
  intro filled s top cause reached dispatched failed invalid
  obtain ⟨step, c', log', executed, ran⟩ | rfl | ⟨id, rfl⟩ :=
    Run.exists_executes_of_fail reached dispatched failed
  · rw [invalid] at ran
    have declared : step ∈ w.steps := (Registry.steps_of_ofWorkflow built).1 ▸ executed.mem_steps
    exact filled step declared ((exactly step c' log' executed).1 ran)
  · cases invalid
  · cases invalid

end Workflow

/-- A breakdown whose second dimension has no name. -/
def Step.halfBlank : Step where
  id := "drill"
  settings := .breakdown { BreakdownSettings.productDrops with
    dimension := none
    dimensions := ["utm_source", ""] }
  next := none
  onFail := none

def Workflow.halfBlank : Workflow where
  id := "half"
  version := "1"
  description := none
  steps := [.halfBlank]
  metadata := ∅

theorem Workflow.failsForBlank_of_halfBlank :
    Step.halfBlank.ListsBlank ∧
      (runLeaf Fixture.twoProducts.source .halfBlank
        (.traced .compared .halfBlank .epoch) []).1 = .ok (.fail .invalidDimension) := by
  have blank : Step.halfBlank.ListsBlank := ⟨_, rfl, "", by decide, by decide⟩
  have built : Registry.ofWorkflow halfBlank = .ok ⟨[.halfBlank], by decide⟩ := rfl
  have dispatched : (Run.mk Fixture.twoProducts.source ⟨[.halfBlank], by decide⟩
      fun _ => .epoch).Dispatches ⟨some "drill", [], .compared, []⟩ .halfBlank :=
    ⟨rfl, Nat.zero_lt_succ 99, List.not_mem_nil, rfl⟩
  obtain ⟨fails, -⟩ := failsForBlank_of_run (w := halfBlank) rfl Fixture.twoProducts.source
    (fun _ => .epoch) .compared [] built
  exact ⟨blank, (fails .halfBlank _ _
    ⟨_, .halfBlank, .refl, dispatched, .itself (by decide)⟩).2 blank⟩

/-- Validation accepts it, and its run fails at once. -/
theorem Workflow.run_halfBlank : halfBlank.validate = .ok () ∧
    (halfBlank.run Fixture.twoProducts.source (fun _ => .epoch) .compared []).1 =
      .error (.stepFailed "drill" .invalidDimension) := ⟨rfl, rfl⟩

end RootCause
