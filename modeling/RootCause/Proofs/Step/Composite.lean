import RootCause.Proofs.Context.Gathering
import RootCause.Proofs.Step.Verdict

/-!
The sub-steps of a composite, one after another: the deltas they pass with, the context these
lead to, and the sub-step at which they stop.
-/

namespace RootCause

/-- The delta of a branch is a scratch with the entry that it has found. -/
theorem delta_of_runBranch {settings : BranchSettings} {c : Context} {d : Delta}
    {next : Option String} (h : runBranch settings c = .pass (some d) next) :
    ∃ entry, d = .ofScratch (.ofList [(matchedBreakdownKey, entry)]) := by
  unfold runBranch at h
  split at h
  · next rule delta matched =>
    cases h
    obtain ⟨rule', -, outcome⟩ := List.exists_of_findSome?_eq_some matched
    obtain ⟨delta, found, same⟩ := Option.map_eq_some_iff.1 outcome
    cases same
    unfold BranchRule.outcome? at found
    split at found
    · split at found
      · cases found
      · obtain ⟨entry, -, same⟩ := Option.map_eq_some_iff.1 found
        cases same
        exact ⟨entry, rfl⟩
    · cases found
  · split at h
    · cases h
    · cases h

theorem Step.Yields.fromStep {step : Step} {c : Context} {d : Delta} {next : Option String}
    (h : step.Yields c (.pass (some d) next)) : d.FromStep := by
  generalize passed : Verdict.pass (some d) next = v at h
  cases h with
  | validated => cases passed; exact ⟨rfl, rfl, rfl⟩
  | compared => cases passed; exact ⟨rfl, rfl, rfl⟩
  | routed kind chosen =>
      cases passed
      obtain ⟨entry, rfl⟩ := delta_of_runBranch chosen
      exact ⟨rfl, rfl, rfl⟩
  | drilled => cases passed; exact ⟨rfl, rfl, rfl⟩
  | told => cases passed; exact ⟨rfl, rfl, rfl⟩
  | refused => cases passed
  | nested => cases passed

/-- Sub-steps that pass one after another with these deltas, each in the context that the deltas
before it have led to. -/
inductive SubStepsPass (source : Source) (registry : Registry) :
    List String → Context → QueryLog → List Delta → Context → QueryLog → Prop
  | none {c : Context} {log : QueryLog} : SubStepsPass source registry [] c log [] c log
  | first {id : String} {sub : Step} {c c' : Context} {log mid : QueryLog}
      {delta : Option Delta} {next : Option String} {rest : List String} {deltas : List Delta}
      {last : Context} {after : QueryLog} (found : registry.get? id = some sub)
      (passed : runLeaf source sub c log = (.ok (.pass delta next), mid))
      (merged : c.merge? delta = .ok c')
      (later : SubStepsPass source registry rest c' mid deltas last after) :
      SubStepsPass source registry (id :: rest) c log (delta.toList ++ deltas) last after

/-- A sub-step that does not pass: it is missing, it is a composite, or it fails by itself. -/
inductive SubStepFails (source : Source) (registry : Registry) (id : String) (c : Context)
    (log : QueryLog) : StepFailure → QueryLog → Prop
  | missing (unknown : registry.get? id = none) :
      SubStepFails source registry id c log (.subStepNotFound id) log
  | nested {sub : Step} (found : registry.get? id = some sub) (kind : sub.kind = .composite) :
      SubStepFails source registry id c log
        (.subStepFailed (.nestedComposite sub.id) sub.terminationReason?) log
  | failed {sub : Step} {cause : StepFailure} {after : QueryLog}
      (found : registry.get? id = some sub)
      (ran : runLeaf source sub c log = (.ok (.fail cause), after)) :
      SubStepFails source registry id c log (.subStepFailed cause sub.terminationReason?) after

/-- A sub-step without a verdict, because the source gives no answer. -/
def SubStepUnanswered (source : Source) (registry : Registry) (id : String) (c : Context)
    (log : QueryLog) (e : SourceError) (after : QueryLog) : Prop :=
  ∃ sub, registry.get? id = some sub ∧ runLeaf source sub c log = (.error e, after)

section SubSteps

variable {source : Source} {registry : Registry} {next : Option String}

theorem merge?_of_yields {step : Step} {c : Context} {d : Delta} {target : Option String}
    (h : step.Yields c (.pass (some d) target)) : c.merge? (some d) = .ok (c.mergeOrKeep d) :=
  Context.merge_eq_mergeOrKeep c h.fromStep.accepted

namespace SubStepsPass

variable {ids : List String} {c last : Context} {log after : QueryLog} {deltas : List Delta}

theorem fromStep (h : SubStepsPass source registry ids c log deltas last after) :
    ∀ d ∈ deltas, d.FromStep := by
  induction h with
  | none => exact fun d member => (by cases member)
  | @first id sub c c' log mid delta next rest deltas last after found passed merged later ih =>
      intro d member
      rcases List.mem_append.1 member with own | others
      · cases Option.mem_toList.1 own
        exact (yields_of_runLeaf passed).fromStep
      · exact ih d others

theorem accepted (h : SubStepsPass source registry ids c log deltas last after) :
    ∀ d ∈ deltas, d.Accepted :=
  fun d member => (h.fromStep d member).accepted

theorem context_eq (h : SubStepsPass source registry ids c log deltas last after) :
    last = deltas.foldl Context.mergeOrKeep c := by
  induction h with
  | none => rfl
  | @first id sub c c' log mid delta next rest deltas last after found passed merged later ih =>
      cases delta with
      | none =>
          cases merged
          exact ih
      | some d =>
          rw [merge?_of_yields (yields_of_runLeaf passed)] at merged
          cases merged
          exact ih

/-- Once the first sub-steps have passed, only what they gathered and left behind matters. -/
theorem runSubSteps_append (h : SubStepsPass source registry ids c log deltas last after)
    (rest : List String) (combined : Delta) :
    runSubSteps source registry next (ids ++ rest) combined c log =
      runSubSteps source registry next rest (deltas.foldl Delta.absorbOrKeep combined) last
        after := by
  -- `combined` takes in the deltas one by one, in the order in which the contexts do.
  induction h generalizing combined with
  | none => rfl
  | @first id sub c c' log mid delta next rest deltas last after found passed merged later ih =>
      rw [List.cons_append, runSubSteps, found]
      dsimp only
      rw [passed]
      cases delta with
      | none =>
          cases merged
          exact ih combined
      | some d =>
          dsimp only
          have accepted : d.Accepted := (yields_of_runLeaf passed).fromStep.accepted
          rw [Context.merge_eq_ok_iff.1 merged, Delta.absorbInto_eq combined accepted,
            List.foldl_append]
          dsimp only
          rw [ih]
          rfl

end SubStepsPass

theorem runLeaf_of_composite {step : Step} (kind : step.kind = .composite) (c : Context)
    (log : QueryLog) :
    runLeaf source step c log = (.ok (.fail (.nestedComposite step.id)), log) := by
  obtain ⟨settings, composite⟩ := exists_settings_of_composite kind
  unfold runLeaf
  rw [composite]
  rfl

/-- Nothing behind a sub-step that fails is run. -/
theorem SubStepFails.runSubSteps_cons {id : String} {c : Context} {log after : QueryLog}
    {cause : StepFailure} (h : SubStepFails source registry id c log cause after)
    (rest : List String) (combined : Delta) :
    runSubSteps source registry next (id :: rest) combined c log =
      ⟨.ok (.fail cause), c, after⟩ := by
  rw [runSubSteps]
  cases h with
  | missing unknown => rw [unknown]
  | @nested sub found kind =>
      rw [found]
      dsimp only
      rw [runLeaf_of_composite kind]
  | failed found ran =>
      rw [found]
      dsimp only
      rw [ran]

theorem SubStepFails.unknown_or_failed {id : String} {c : Context} {log after : QueryLog}
    {cause : StepFailure} (h : SubStepFails source registry id c log cause after) :
    (registry.get? id = none ∧ cause = .subStepNotFound id ∧ after = log) ∨
      ∃ sub own, registry.get? id = some sub ∧ runLeaf source sub c log = (.ok (.fail own), after) ∧
        cause = .subStepFailed own sub.terminationReason? := by
  cases h with
  | missing unknown => exact .inl ⟨unknown, rfl, rfl⟩
  | @nested sub found kind => exact .inr ⟨sub, _, found, runLeaf_of_composite kind _ _, rfl⟩
  | @failed sub own after found ran => exact .inr ⟨sub, own, found, ran, rfl⟩

theorem SubStepUnanswered.runSubSteps_cons {id : String} {c : Context} {log after : QueryLog}
    {e : SourceError} (h : SubStepUnanswered source registry id c log e after)
    (rest : List String) (combined : Delta) :
    runSubSteps source registry next (id :: rest) combined c log =
      ⟨.error (.source e), c, after⟩ := by
  obtain ⟨sub, found, ran⟩ := h
  rw [runSubSteps, found]
  dsimp only
  rw [ran]

variable (source registry)

/-- One sub-step passes and its delta is merged, or it fails, or it has no verdict. -/
theorem subStep_passes_or_stops (id : String) (c : Context) (log : QueryLog) :
    (∃ sub delta next c' mid, registry.get? id = some sub ∧
      runLeaf source sub c log = (.ok (.pass delta next), mid) ∧ c.merge? delta = .ok c') ∨
    (∃ cause after, SubStepFails source registry id c log cause after) ∨
    ∃ e after, SubStepUnanswered source registry id c log e after := by
  cases found : registry.get? id with
  | none => exact .inr (.inl ⟨_, _, .missing found⟩)
  | some sub =>
      cases ran : runLeaf source sub c log with
      | mk answer mid =>
          cases answer with
          | error e => exact .inr (.inr ⟨e, mid, sub, found, ran⟩)
          | ok v =>
              cases v with
              | fail cause => exact .inr (.inl ⟨_, mid, .failed found ran⟩)
              | pass delta next =>
                  cases delta with
                  | none => exact .inl ⟨sub, none, next, c, mid, rfl, ran, rfl⟩
                  | some d =>
                      have merged := merge?_of_yields (yields_of_runLeaf ran)
                      exact .inl ⟨sub, some d, next, _, mid, rfl, ran, merged⟩

/-- Sub-steps all pass, or they pass up to one that fails or has no verdict. -/
theorem subStepsPass_or_stop (ids : List String) (c : Context) (log : QueryLog) :
    (∃ deltas last after, SubStepsPass source registry ids c log deltas last after) ∨
    ∃ done id rest deltas mid log', ids = done ++ id :: rest ∧
      SubStepsPass source registry done c log deltas mid log' ∧
      ((∃ cause after, SubStepFails source registry id mid log' cause after) ∨
        ∃ e after, SubStepUnanswered source registry id mid log' e after) := by
  induction ids generalizing c log with
  | nil => exact .inl ⟨[], c, log, .none⟩
  | cons id rest ih =>
      obtain ⟨sub, delta, next, c', mid, found, ran, merged⟩ | stops :=
        subStep_passes_or_stops source registry id c log
      · obtain ⟨deltas, last, after, later⟩ |
          ⟨done, id', rest', deltas, last, after, rfl, later, stops⟩ := ih c' mid
        · exact .inl ⟨_, last, after, .first found ran merged later⟩
        · exact .inr ⟨id :: done, id', rest', _, last, after, rfl, .first found ran merged later,
            stops⟩
      · exact .inr ⟨[], id, rest, [], c, log, rfl, .none, stops⟩

variable {source registry}

theorem exists_subStepsPass_of_runSubSteps {ids : List String} {combined : Delta} {c : Context}
    {log : QueryLog} {delta : Option Delta} {target : Option String}
    (h : (runSubSteps source registry next ids combined c log).outcome = .ok (.pass delta target)) :
    ∃ deltas last after, SubStepsPass source registry ids c log deltas last after := by
  obtain passes | ⟨done, id, rest, deltas, mid, log', rfl, passes, stops⟩ :=
    subStepsPass_or_stop source registry ids c log
  · exact passes
  · rw [passes.runSubSteps_append] at h
    obtain ⟨cause, after, fails⟩ | ⟨e, after, unanswered⟩ := stops
    · rw [fails.runSubSteps_cons] at h
      cases h
    · rw [unanswered.runSubSteps_cons] at h
      cases h

end SubSteps

/-- The ways a dispatch can come out. -/
inductive Step.ComesTo (top : Step) (source : Source) (registry : Registry) (c : Context)
    (log : QueryLog) : Dispatch → Prop
  | leaf {answer : Except SourceError Verdict} {after : QueryLog} (leaf : top.kind ≠ .composite)
      (ran : runLeaf source top c log = (answer, after)) :
      ComesTo top source registry c log ⟨answer.mapError .source, c, after⟩
  | empty {settings : CompositeSettings} (kind : top.settings = .composite settings)
      (none : settings.steps = []) :
      ComesTo top source registry c log ⟨.ok (.fail .emptyComposite), c, log⟩
  | passed {settings : CompositeSettings} {deltas : List Delta} {last : Context}
      {after : QueryLog} (kind : top.settings = .composite settings)
      (passed : SubStepsPass source registry settings.steps c log deltas last after) :
      ComesTo top source registry c log
        ⟨.ok (.pass (some (deltas.foldl Delta.absorbOrKeep (.ofScratch ∅))) top.next), last, after⟩
  | failed {settings : CompositeSettings} {done rest : List String} {id : String}
      {deltas : List Delta} {mid : Context} {now after : QueryLog} {cause : StepFailure}
      (kind : top.settings = .composite settings) (turn : settings.steps = done ++ id :: rest)
      (passed : SubStepsPass source registry done c log deltas mid now)
      (fails : SubStepFails source registry id mid now cause after) :
      ComesTo top source registry c log ⟨.ok (.fail cause), mid, after⟩
  | unanswered {settings : CompositeSettings} {done rest : List String} {id : String}
      {deltas : List Delta} {mid : Context} {now after : QueryLog} {e : SourceError}
      (kind : top.settings = .composite settings) (turn : settings.steps = done ++ id :: rest)
      (passed : SubStepsPass source registry done c log deltas mid now)
      (unanswered : SubStepUnanswered source registry id mid now e after) :
      ComesTo top source registry c log ⟨.error (.source e), mid, after⟩

theorem Step.comesTo_dispatch (top : Step) (source : Source) (registry : Registry) (c : Context)
    (log : QueryLog) : top.ComesTo source registry c log (dispatch source registry top c log) := by
  by_cases composite : top.kind = .composite
  · obtain ⟨settings, kind⟩ := exists_settings_of_composite composite
    rw [dispatch_of_composite kind]
    unfold runComposite
    split
    · next none => exact .empty kind (List.isEmpty_iff.1 none)
    · obtain ⟨deltas, last, after, passes⟩ |
        ⟨done, id, rest, deltas, mid, now, turn, passes, stops⟩ :=
        subStepsPass_or_stop source registry settings.steps c log
      · rw [← List.append_nil settings.steps, passes.runSubSteps_append [], runSubSteps]
        exact .passed kind passes
      · rw [turn, passes.runSubSteps_append]
        obtain ⟨cause, after, fails⟩ | ⟨e, after, unanswered⟩ := stops
        · rw [fails.runSubSteps_cons]
          exact .failed kind turn passes fails
        · rw [unanswered.runSubSteps_cons]
          exact .unanswered kind turn passes unanswered
  · rw [dispatch_eq_runLeaf composite]
    exact .leaf composite rfl

end RootCause
