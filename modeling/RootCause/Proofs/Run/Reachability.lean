import Mathlib.Logic.Relation
import RootCause.Proofs.Run.Completion
import RootCause.Proofs.Run.Resolution

/-!
What a run depends on. Control goes only to ids that steps refer to, and sub-steps are looked up
among these, so workflows that begin alike and resolve every reachable id alike have the same runs.
The clock shows in the times of the trace and nowhere else.
-/

namespace RootCause

open Relation (ReflTransGen)

section Clock

def TraceEntry.untimed (e : TraceEntry) : TraceEntry := { e with timestamp := .epoch }

def Context.untimed (c : Context) : Context :=
  { c with executionTrace := c.executionTrace.map TraceEntry.untimed }

def Dispatch.untimed (d : Dispatch) : Dispatch := { d with context := d.context.untimed }

/-- An outcome but for the times in its trace. -/
def RunOutcome.untimed (o : RunOutcome) : RunOutcome := { o with context := o.context.untimed }

def Run.untimed (r : Run) : Run := { r with clock := fun _ => .epoch }

theorem Context.untimed_traced (c : Context) (step : Step) (moment : Instant) :
    (c.traced step moment).untimed = c.untimed.traced step .epoch := by
  simp only [traced, untimed, List.map_append, List.map_singleton]
  rfl

theorem Delta.mergeInto_untimed (d : Delta) (c : Context) :
    d.mergeInto c.untimed = ((d.mergeInto c).1, (d.mergeInto c).2.untimed) := by
  cases hd : d.runMeta with
  | none =>
      rw [mergeInto_of_accepted c hd, mergeInto_of_accepted c.untimed hd]
      rfl
  | some m =>
      have rejected : d.runMeta.isSome := by rw [hd]; rfl
      rw [mergeInto_of_rejected c rejected, mergeInto_of_rejected c.untimed rejected]

theorem Context.merge_untimed (c : Context) (d : Delta) :
    c.untimed.merge d = (c.merge d).map Context.untimed := by
  unfold merge Update.result
  rw [d.mergeInto_untimed]
  obtain ⟨answer, after⟩ := d.mergeInto c
  cases answer <;> rfl

theorem Context.merge?_untimed (c : Context) (delta : Option Delta) :
    c.untimed.merge? delta = (c.merge? delta).map Context.untimed := by
  cases delta with
  | none => rfl
  | some d => exact c.merge_untimed d

variable {source : Source} {registry : Registry}

theorem runSubSteps_untimed (next : Option String) (ids : List String) (combined : Delta)
    (c : Context) (log : QueryLog) :
    runSubSteps source registry next ids combined c.untimed log =
      (runSubSteps source registry next ids combined c log).untimed := by
  induction ids generalizing combined c log with
  | nil => rfl
  | cons id rest ih =>
      rw [runSubSteps, runSubSteps]
      cases registry.get? id with
      | none => rfl
      | some sub =>
          dsimp only
          -- No leaf looks at the trace, so the sub-step comes to the same in both contexts.
          rw [show runLeaf source sub c.untimed log = runLeaf source sub c log from rfl]
          split
          · rfl
          · rfl
          · exact ih combined c _
          · next d _ after _ =>
            rw [d.mergeInto_untimed]
            obtain ⟨answer, c'⟩ := d.mergeInto c
            cases answer with
            | error e => rfl
            | ok merged =>
                dsimp only
                obtain ⟨answer, both⟩ := d.absorbInto combined
                cases answer with
                | error e => rfl
                | ok absorbed => exact ih both c' after

theorem dispatch_untimed (step : Step) (c : Context) (log : QueryLog) :
    dispatch source registry step c.untimed log =
      (dispatch source registry step c log).untimed := by
  by_cases composite : step.kind = .composite
  · obtain ⟨settings, kind⟩ := exists_settings_of_composite composite
    rw [dispatch_of_composite kind, dispatch_of_composite kind]
    unfold runComposite
    split
    · rfl
    · exact runSubSteps_untimed ..
  · rw [dispatch_eq_runLeaf composite, dispatch_eq_runLeaf composite]
    rfl

/-- A run goes the same way whatever the clock shows. -/
theorem Run.follow_untimed (r : Run) (left : Nat) (pointer : Option String)
    (records : List StepRecord) (c : Context) (log : QueryLog) :
    r.untimed.follow left pointer records c.untimed log =
      ((r.follow left pointer records c log).1.map RunOutcome.untimed,
        (r.follow left pointer records c log).2) := by
  induction left generalizing pointer records c log with
  | zero => cases pointer <;> rfl
  | succ left ih =>
      cases pointer with
      | none => rfl
      | some id =>
          rw [follow, follow, show r.untimed.registry = r.registry from rfl]
          split
          · rfl
          · cases r.registry.get? id with
            | none => rfl
            | some step =>
                have same : dispatch r.untimed.source r.registry step
                    (c.untimed.traced step (r.untimed.clock records.length)) log =
                    (dispatch r.source r.registry step
                      (c.traced step (r.clock records.length)) log).untimed := by
                  rw [← dispatch_untimed, c.untimed_traced]
                  rfl
                dsimp only
                rw [same]
                generalize dispatch r.source r.registry step
                  (c.traced step (r.clock records.length)) log = d
                obtain ⟨outcome, c', after⟩ := d
                cases outcome with
                | error e => rfl
                | ok v =>
                    cases v with
                    | fail cause =>
                        dsimp only [Dispatch.untimed]
                        split
                        · rfl
                        · rfl
                    | pass delta next =>
                        dsimp only [Dispatch.untimed]
                        rw [c'.merge?_untimed]
                        cases c'.merge? delta with
                        | error e => rfl
                        | ok c'' => exact ih next _ c'' after

theorem Workflow.run_untimed (w : Workflow) (source : Source) (clock : Nat → Instant)
    (c : Context) (log : QueryLog) :
    w.run source (fun _ => .epoch) c.untimed log =
      ((w.run source clock c log).1.map RunOutcome.untimed, (w.run source clock c log).2) := by
  unfold run
  cases Registry.ofWorkflow w with
  | error e => rfl
  | ok registry =>
      dsimp only
      unfold Run.start
      by_cases missing : c.runMeta.isNone
      · rw [if_pos missing, if_pos (show c.untimed.runMeta.isNone from missing)]
        rfl
      · rw [if_neg missing, if_neg (show ¬c.untimed.runMeta.isNone from missing)]
        exact Run.follow_untimed ⟨source, registry, clock⟩ _ _ [] c log

end Clock

theorem Registry.get?_eq_some_iff {registry : Registry} {id : String} {step : Step} :
    registry.get? id = some step ↔ step ∈ registry.steps ∧ step.id = id := by
  constructor
  · exact mem_of_get?_eq_some
  · rintro ⟨declared, rfl⟩
    exact get?_of_mem declared

/-- Two registries resolve the same ids to the same steps, in a set that references do not lead
out of. -/
structure Registry.AgreeOn (registry registry' : Registry) (within : String → Prop) : Prop where
  same : ∀ id, within id → registry.get? id = registry'.get? id
  closed : ∀ id step, within id → registry.get? id = some step →
    ∀ target ∈ step.references, within target

section Agreement

variable {source : Source} {registry registry' : Registry} {within : String → Prop}

theorem runSubSteps_congr (next : Option String) {ids : List String}
    (same : ∀ id ∈ ids, registry.get? id = registry'.get? id) (combined : Delta) (c : Context)
    (log : QueryLog) :
    runSubSteps source registry next ids combined c log =
      runSubSteps source registry' next ids combined c log := by
  induction ids generalizing combined c log with
  | nil => rfl
  | cons id rest ih =>
      obtain ⟨first, others⟩ := List.forall_mem_cons.1 same
      simp only [runSubSteps, first, ih others]

/-- A dispatch looks up nothing but what the step refers to. -/
theorem dispatch_congr {step : Step}
    (same : ∀ id ∈ step.references, registry.get? id = registry'.get? id) (c : Context)
    (log : QueryLog) :
    dispatch source registry step c log = dispatch source registry' step c log := by
  by_cases composite : step.kind = .composite
  · obtain ⟨settings, kind⟩ := exists_settings_of_composite composite
    rw [dispatch_of_composite kind, dispatch_of_composite kind]
    unfold runComposite
    split
    · rfl
    · apply runSubSteps_congr
      intro id member
      exact same id (Step.mem_references_of_composite kind member)
  · rw [dispatch_eq_runLeaf composite, dispatch_eq_runLeaf composite]

/-- From an id on which two registries agree, a run is the same with either. -/
theorem Run.follow_congr (agree : registry.AgreeOn registry' within) (clock : Nat → Instant)
    (left : Nat) {pointer : Option String} (inside : ∀ id, pointer = some id → within id)
    (records : List StepRecord) (c : Context) (log : QueryLog) :
    (Run.mk source registry clock).follow left pointer records c log =
      (Run.mk source registry' clock).follow left pointer records c log := by
  induction left generalizing pointer records c log with
  | zero => cases pointer <;> rfl
  | succ left ih =>
      cases pointer with
      | none => rfl
      | some id =>
          have here := inside id rfl
          rw [follow, follow]
          dsimp only
          rw [← agree.same id here]
          split
          · rfl
          · cases found : registry.get? id with
            | none => rfl
            | some step =>
                have targets := agree.closed id step here found
                dsimp only
                rw [← dispatch_congr fun other member => agree.same other (targets other member)]
                split
                · rfl
                · next v outcome =>
                  cases v with
                  | fail cause => rfl
                  | pass delta next =>
                      dsimp only
                      split
                      · rfl
                      · refine ih ?_ _ _ _
                        rintro other rfl
                        exact targets other (mem_references_of_dispatch outcome)

end Agreement

namespace Workflow

/-- A step of the first id refers to the second one, to go on there or as a sub-step. -/
def Refers (w : Workflow) (a b : String) : Prop :=
  ∃ step ∈ w.steps, step.id = a ∧ b ∈ step.references

/-- References lead from the first step to the id. -/
def Reachable (w : Workflow) (id : String) : Prop :=
  ∃ first, w.entry? = some first ∧ ReflTransGen w.Refers first id

/-- Whatever the context and the source, the runs of two workflows have the same outcome or error
and the same queries. What they may differ in are the times, when the clock is not the same. -/
structure SameRuns (w w' : Workflow) : Prop where
  timed : ∀ source clock c log, w.run source clock c log = w'.run source clock c log
  untimed : ∀ source clock clock' c log,
    (w.run source clock c log).1.map RunOutcome.untimed =
        (w'.run source clock' c log).1.map RunOutcome.untimed ∧
      (w.run source clock c log).2 = (w'.run source clock' c log).2

variable {w w' : Workflow} {registry registry' : Registry}

theorem agreeOn_reachable (built : Registry.ofWorkflow w = .ok registry)
    (same : ∀ id, w.Reachable id → registry.get? id = registry'.get? id) :
    registry.AgreeOn registry' w.Reachable := by
  refine ⟨same, ?_⟩
  rintro id step ⟨first, entry, way⟩ found target member
  obtain ⟨declared, rfl⟩ := Registry.get?_eq_some_iff.1 found
  rw [(Registry.steps_of_ofWorkflow built).1] at declared
  exact ⟨first, entry, way.tail ⟨step, declared, rfl, member⟩⟩

theorem sameRuns_of_agreeOn (built : Registry.ofWorkflow w = .ok registry)
    (built' : Registry.ofWorkflow w' = .ok registry') (first : w'.steps.head? = w.steps.head?)
    (agree : registry.AgreeOn registry' w.Reachable) : w.SameRuns w' := by
  have entry : w'.entry? = w.entry? := congrArg (Option.map Step.id) first
  have timed : ∀ source clock c log, w.run source clock c log = w'.run source clock c log := by
    intro source clock c log
    unfold run
    rw [built, built', entry]
    dsimp only
    unfold Run.start
    split
    · rfl
    · apply Run.follow_congr agree
      intro id start
      exact ⟨id, start, .refl⟩
  refine ⟨timed, ?_⟩
  intro source clock clock' c log
  -- Both runs are compared with the one whose clock stands still.
  have still := w.run_untimed source clock c log
  have still' := w'.run_untimed source clock' c log
  rw [← timed, still] at still'
  exact Prod.mk.inj still'

/-- Fewer steps are enough for the same runs if the first one and all reachable ones are left. -/
theorem sameRuns_of_subset (built : Registry.ofWorkflow w = .ok registry)
    (distinct : w'.stepIds.Nodup) (first : w'.steps.head? = w.steps.head?)
    (fewer : w'.steps ⊆ w.steps)
    (left : ∀ step ∈ w.steps, w.Reachable step.id → step ∈ w'.steps) : w.SameRuns w' := by
  have filled : w'.steps ≠ [] := by
    intro none
    rw [none] at first
    exact (Registry.steps_of_ofWorkflow built).2 (List.head?_eq_none_iff.1 first.symm)
  obtain ⟨registry', built'⟩ := Registry.exists_ofWorkflow filled distinct
  refine sameRuns_of_agreeOn built built' first (agreeOn_reachable built ?_)
  intro id reached
  apply Option.ext
  intro step
  rw [Registry.get?_eq_some_iff, Registry.get?_eq_some_iff, (Registry.steps_of_ofWorkflow built).1,
    (Registry.steps_of_ofWorkflow built').1]
  constructor
  · rintro ⟨declared, rfl⟩
    exact ⟨left step declared reached, rfl⟩
  · rintro ⟨declared, same⟩
    exact ⟨fewer declared, same⟩

/-- A run depends only on what it can reach. Workflows with the same first step whose registries
resolve every reachable id alike have the same runs. So the steps behind the first one may stand in
any order, and there may be more of them that are not reachable, or fewer. -/
theorem sameRuns_of_reachable (built : Registry.ofWorkflow w = .ok registry) :
    (∀ w' registry', Registry.ofWorkflow w' = .ok registry' → w'.steps.head? = w.steps.head? →
      (∀ id, w.Reachable id → registry.get? id = registry'.get? id) → w.SameRuns w') ∧
    (∀ w' : Workflow, w'.steps.head? = w.steps.head? → w'.steps.Perm w.steps → w.SameRuns w') ∧
    ∀ w' : Workflow, w'.steps.head? = w.steps.head? → w'.steps.Sublist w.steps →
      (∀ step ∈ w.steps, w.Reachable step.id → step ∈ w'.steps) → w.SameRuns w' := by
  have steps := (Registry.steps_of_ofWorkflow built).1
  have distinct : w.stepIds.Nodup := by
    unfold stepIds
    rw [← steps]
    exact registry.ids_nodup
  refine ⟨?_, ?_, ?_⟩
  · intro w' registry' built' first same
    exact sameRuns_of_agreeOn built built' first (agreeOn_reachable built same)
  · intro w' first perm
    have distinct' : w'.stepIds.Nodup := (perm.map Step.id).nodup_iff.2 distinct
    refine sameRuns_of_subset built distinct' first perm.subset ?_
    intro step declared _
    exact perm.mem_iff.2 declared
  · intro w' first fewer left
    have distinct' : w'.stepIds.Nodup := distinct.sublist (fewer.map Step.id)
    exact sameRuns_of_subset built distinct' first fewer.subset left

/-- The steps of `grouped` in another order, with one that nothing refers to. -/
def groupedAmongOthers : Workflow where
  id := "among others"
  version := "2"
  description := none
  steps := [
    ⟨"group", .composite ⟨["choice", "tenant"]⟩, none, none⟩,
    ⟨"stray", .branch ⟨[], some ⟨some "choice"⟩⟩, some "stray", none⟩,
    ⟨"tenant", .validation ⟨[]⟩, none, none⟩,
    ⟨"choice", .branch ⟨[], some ⟨some "group"⟩⟩, some "tenant", none⟩]
  metadata := ∅

theorem mem_of_reachable {first : String} {ids : List String} (entry : w.entry? = some first)
    (start : first ∈ ids)
    (closed : ∀ step ∈ w.steps, step.id ∈ ids → ∀ id ∈ step.references, id ∈ ids) {id : String}
    (h : w.Reachable id) : id ∈ ids := by
  obtain ⟨first', entry', way⟩ := h
  cases entry.symm.trans entry'
  induction way with
  | refl => exact start
  | tail _ edge ih =>
      obtain ⟨step, declared, rfl, target⟩ := edge
      exact closed step declared ih _ target

theorem sameRuns_groupedAmongOthers :
    grouped.SameRuns groupedAmongOthers ∧
    grouped.SameRuns
      { grouped with steps := grouped.steps.take 1 ++ (grouped.steps.drop 1).reverse } ∧
    groupedAmongOthers.SameRuns
      { groupedAmongOthers with steps := groupedAmongOthers.steps.eraseIdx 1 } := by
  have ids : ∀ id, grouped.Reachable id → id ∈ ["group", "choice", "tenant"] := by
    intro id reached
    exact mem_of_reachable (w := grouped) rfl List.mem_cons_self (by decide) reached
  have ids' : ∀ id, groupedAmongOthers.Reachable id → id ∈ ["group", "choice", "tenant"] := by
    intro id reached
    exact mem_of_reachable (w := groupedAmongOthers) rfl List.mem_cons_self (by decide) reached
  refine ⟨?_, ?_, ?_⟩
  · refine (sameRuns_of_reachable (w := grouped) rfl).1 groupedAmongOthers _ rfl rfl ?_
    intro id reached
    have known := ids id reached
    simp only [List.mem_cons, List.not_mem_nil, or_false] at known
    rcases known with rfl | rfl | rfl
    · rfl
    · rfl
    · rfl
  · refine (sameRuns_of_reachable (w := grouped) rfl).2.1 _ rfl ?_
    exact (List.reverse_perm _).append_left _
  · refine (sameRuns_of_reachable (w := groupedAmongOthers) rfl).2.2 _ rfl
      (List.eraseIdx_sublist ..) ?_
    intro step declared reached
    have known := ids' step.id reached
    simp only [groupedAmongOthers, List.mem_cons, List.not_mem_nil, or_false] at declared
    rcases declared with rfl | rfl | rfl | rfl
    · exact List.mem_cons_self
    · exact absurd known (by decide)
    · exact List.mem_cons_of_mem _ List.mem_cons_self
    · exact List.mem_cons_of_mem _ (List.mem_cons_of_mem _ List.mem_cons_self)

end Workflow

end RootCause
