import RootCause.Proofs.Evidence
import RootCause.Proofs.Insight.Template
import RootCause.Proofs.Insight.Tokens
import RootCause.Proofs.Run.Completion
import RootCause.Proofs.Step.Branch

/-!
From a branch to an insight. The entry that a branch matches stays in scratch as long as no other
step writes there, and an insight that finds it there is about that entry and no other one.
-/

namespace RootCause

open Relation (ReflTransGen)

namespace Context

variable {c c' : Context}

theorem scratch_of_merge? {delta : Option Delta} (h : c.merge? delta = .ok c') :
    c'.scratch = (delta.bind (·.scratch)).getD c.scratch := by
  cases delta with
  | none =>
      cases h
      rfl
  | some d =>
      change c.merge d = .ok c' at h
      rw [merge_of_meta_eq_none c (meta_eq_none_of_merge h)] at h
      cases h
      rfl

/-- The tokens of an insight about an entry. -/
def tokensAbout (c : Context) (e : Evidence) : Dict String :=
  insightTokens c (some e) (selectRanked c.scoredEvidence) (confidence (some e))

end Context

/-- An insight about an entry. The confidence is the entry's, and so is what the tokens for the top
finding show: wherever one of them is next in a template, its field of the entry is put there. -/
structure Insight.IsAbout (insight : Insight) (e : Evidence) (template : InsightTemplate)
    (c : Context) : Prop where
  confidence : insight.confidence = RootCause.confidence (some e)
  tokens : e.ToldBy fun name text => (c.tokensAbout e).get? name = some text
  rendered : e.ToldBy fun name text => ∀ behind,
    render (c.tokensAbout e) ('{' :: '{' :: (name.toList ++ '}' :: '}' :: behind)) =
      text.toList ++ render (c.tokensAbout e) behind
  summary : insight.summary = renderTemplate template.summary (c.tokensAbout e)
  details : insight.details =
    template.details.map fun line => renderTemplate line (c.tokensAbout e)

namespace Run

variable {r : Run} {s t : RunState} {step : Step}

/-- A step that is no composite passes by itself, and then its delta is merged. -/
theorem Advances.exists_runLeaf (h : r.Advances s t) (dispatched : r.Dispatches s step)
    (leaf : step.kind ≠ .composite) :
    ∃ delta next, runLeaf r.source step (r.contextAt s step) s.log =
        (.ok (.pass delta next), t.log) ∧
      (r.contextAt s step).merge? delta = .ok t.context := by
  obtain ⟨delta, next, c, passed, merged, rfl⟩ :=
    h.dispatched dispatched.mem_steps dispatched.pointer
  have alone : (r.dispatchAt s step).context = r.contextAt s step := (dispatch_of_leaf leaf).1
  rw [alone] at merged
  exact ⟨delta, next, runLeaf_of_dispatch leaf passed, merged⟩

theorem scratch_of_gathering (h : r.Advances s t) (dispatched : r.Dispatches s step)
    (kind : step.kind ∈ StepKind.gathering) : t.context.scratch = s.context.scratch := by
  have gathers := Step.gathers_of_kind kind
  obtain ⟨delta, next, ran, merged⟩ := h.exists_runLeaf dispatched gathers.kind_ne_composite
  obtain ⟨d, rfl, -, untold⟩ := gathers.of_yields (yields_of_runLeaf ran)
  rw [Context.scratch_of_merge? merged, Option.bind_some, untold]
  rfl

/-- A branch leaves in scratch the entry that it matches, if it matches one. -/
theorem scratch_of_branch (h : r.Advances s t) (dispatched : r.Dispatches s step)
    {b : BranchSettings} (kind : step.settings = .branch b) :
    t.context.scratch = ((b.found? s.context).bind fun e => (Delta.ofMatch e).scratch).getD
      s.context.scratch := by
  have own : step.kind = .branch := kind_of_settings kind
  have leaf : step.kind ≠ .composite := by rw [own]; exact StepKind.noConfusion
  obtain ⟨delta, next, ran, merged⟩ := h.exists_runLeaf dispatched leaf
  have chosen : runBranch b (r.contextAt s step) = .pass delta next := by
    unfold runLeaf at ran
    rw [kind] at ran
    exact Except.ok.inj (congrArg Prod.fst ran)
  have unchanged : b.found? (r.contextAt s step) = b.found? s.context := rfl
  rw [Context.scratch_of_merge? merged, BranchSettings.delta_of_runBranch chosen, unchanged]
  cases b.found? s.context with
  | none => rfl
  | some e => rfl

/-- A round that does not write to scratch: of a step that gathers facts, or of a branch that goes
the default way or takes a rule without a breakdown match. -/
inductive Relays (r : Run) (s t : RunState) : Prop
  | gathered {step : Step} (dispatched : r.Dispatches s step)
      (kind : step.kind ∈ StepKind.gathering) (advanced : r.Advances s t)
  | routed {step : Step} {b : BranchSettings} (dispatched : r.Dispatches s step)
      (kind : step.settings = .branch b)
      (unmatched : ∀ rule, b.rule? s.context = some rule → rule.anyInBreakdowns = none)
      (advanced : r.Advances s t)

theorem Relays.scratch (h : r.Relays s t) : t.context.scratch = s.context.scratch := by
  cases h with
  | gathered dispatched kind advanced => exact scratch_of_gathering advanced dispatched kind
  | routed dispatched kind unmatched advanced =>
      rw [scratch_of_branch advanced dispatched kind, BranchSettings.found?_eq_none unmatched]
      rfl

end Run

/-- A product with a change of its orders in percent and a share of all traffic. -/
def Evidence.ofProduct (value : String) (change : Int) (share : Binary64) : Evidence where
  dimension := productDimension
  value := value
  displayValue := value
  depth := 0
  current := ⟨8, 500, 20, none, none⟩
  baseline := ⟨10, 500, 25, none, none⟩
  deltas := ⟨none, none, none, some (.ofInt change), none⟩
  sessionShare := share
  orderShare := share
  baselineSessionShare := share
  baselineOrderShare := share
  baseMetric := .orders

def Evidence.larger : Evidence := .ofProduct "p1" (-80) (.ofNat 1)

def Evidence.smaller : Evidence := .ofProduct "p2" (-20) (.ofRatio 1 2)

end RootCause
