import RootCause.Insight.Publish
import RootCause.Proofs.Context.Gathering
import RootCause.Proofs.Score.Rank

/-!
Insights from evidence that is there more than once. The segments named are the first ones of the
ranking that are distinct, so an entry behind another of its segment is never picked.
-/

namespace RootCause

section Picking

variable {picked : List Evidence} {e : Evidence}

/-- Nothing is picked of an entry: the slots are filled, or its segment is picked already. -/
def Settled (picked : List Evidence) (e : Evidence) : Prop :=
  rankedSlots ≤ picked.length ∨ picked.any (·.sameSegment e)

theorem pickDistinct_cons_of_settled (h : Settled picked e) (rest : List Evidence) :
    pickDistinct picked (e :: rest) = pickDistinct picked rest := by
  rw [pickDistinct]
  split
  · next full =>
    cases rest with
    | nil => rfl
    | cons f rest => rw [pickDistinct, if_pos full]
  · next room =>
    rw [if_pos (h.resolve_left room)]

theorem pickDistinct_cons_of_not_settled (h : ¬Settled picked e) (rest : List Evidence) :
    pickDistinct picked (e :: rest) = pickDistinct (picked ++ [e]) rest := by
  rw [pickDistinct, if_neg fun full => h (.inl full), if_neg fun known => h (.inr known)]

theorem settled_pick (picked : List Evidence) (e : Evidence) : Settled (picked ++ [e]) e := by
  refine .inr (List.any_eq_true.2 ⟨e, List.mem_append_right picked List.mem_cons_self, ?_⟩)
  unfold Evidence.sameSegment
  rw [beq_self_eq_true, beq_self_eq_true]
  rfl

theorem Settled.pick (h : Settled picked e) (f : Evidence) : Settled (picked ++ [f]) e := by
  rcases h with full | known
  · refine .inl (Nat.le_trans full ?_)
    rw [List.length_append]
    exact Nat.le_add_right ..
  · refine .inr ?_
    rw [List.any_append, known]
    rfl

theorem Settled.pickDistinct (h : Settled picked e) (entries : List Evidence) :
    Settled (pickDistinct picked entries) e := by
  induction entries generalizing picked with
  | nil => exact h
  | cons f rest ih =>
      by_cases known : Settled picked f
      · rw [pickDistinct_cons_of_settled known]
        exact ih h
      · rw [pickDistinct_cons_of_not_settled known]
        exact ih (h.pick f)

/-- After a list all of its entries are settled. -/
theorem settled_of_mem {entries : List Evidence} (member : e ∈ entries) :
    Settled (pickDistinct picked entries) e := by
  induction entries generalizing picked with
  | nil => cases member
  | cons f rest ih =>
      by_cases known : Settled picked f
      · rw [pickDistinct_cons_of_settled known]
        rcases List.mem_cons.1 member with rfl | later
        · exact known.pickDistinct rest
        · exact ih later
      · rw [pickDistinct_cons_of_not_settled known]
        rcases List.mem_cons.1 member with rfl | later
        · exact (settled_pick picked e).pickDistinct rest
        · exact ih later

theorem pickDistinct_append (first second : List Evidence) :
    pickDistinct picked (first ++ second) = pickDistinct (pickDistinct picked first) second := by
  induction first generalizing picked with
  | nil => rfl
  | cons e first ih =>
      rw [List.cons_append]
      by_cases known : Settled picked e
      · rw [pickDistinct_cons_of_settled known, pickDistinct_cons_of_settled known, ih]
      · rw [pickDistinct_cons_of_not_settled known, pickDistinct_cons_of_not_settled known, ih]

end Picking

namespace Repeating

variable {entries entries' : List Evidence}

theorem pickDistinct_eq (h : Repeating entries entries') (picked : List Evidence) :
    pickDistinct picked entries' = pickDistinct picked entries := by
  induction h with
  | same => rfl
  | @again front back x before earlier ih =>
      rw [pickDistinct_append] at ih ⊢
      rw [pickDistinct_cons_of_settled (settled_of_mem earlier), ih]

theorem find?_eq (h : Repeating entries entries') (p : Evidence → Bool) :
    entries'.find? p = entries.find? p := by
  induction h with
  | same => rfl
  | @again front back x before earlier ih =>
      rw [List.find?_append] at ih ⊢
      cases found : front.find? p with
      | some e =>
          rw [found] at ih
          exact ih
      | none =>
          rw [found] at ih
          rw [List.find?_cons_of_neg (List.find?_eq_none.1 found x earlier)]
          exact ih

/-- The segments that an insight names do not depend on repeated evidence. -/
theorem selectRanked_eq (h : Repeating entries entries') :
    selectRanked entries' = selectRanked entries := by
  unfold selectRanked
  rw [h.find?_eq, h.pickDistinct_eq]

end Repeating

namespace Breakdowns

/-- Appended a second time, the lists of a map stand once more behind themselves. -/
theorem get?_append_append (a b : Breakdowns) (key : String) :
    ((a.append b).append b).get? key = ((a.append b).get? key).map (· ++ b.under key) := by
  rw [get?_append (a.append b) b, get?_append a b]
  unfold under
  cases b.get? key with
  | none =>
      cases a.get? key with
      | none => rfl
      | some old => exact congrArg some (List.append_nil old).symm
  | some entries => rfl

theorem under_subset_of_mem_append {a b : Breakdowns} {key : String} {entries : List Evidence}
    (member : (key, entries) ∈ (a.append b).entries) : b.under key ⊆ entries := by
  have found := (Dict.lookup_eq_some_iff_mem (a.append b).ascending).2 member
  have grown := get?_append a b key
  rw [show (a.append b).get? key = some entries from found] at grown
  unfold under
  cases hb : b.get? key with
  | none => exact List.nil_subset entries
  | some own =>
      rw [hb] at grown
      cases grown
      exact List.subset_append_right _ own

/-- All evidence taken together, the second time behind the first under each key. -/
theorem repeating_append_append (a b : Breakdowns) :
    Repeating (a.append b).values.flatten ((a.append b).append b).values.flatten := by
  have entries := Dict.entries_eq_map (f := fun key old => old ++ b.under key)
    (get?_append_append a b)
  have known : ∀ e ∈ (a.append b).entries, b.under e.1 ⊆ e.2 := fun e member =>
    under_subset_of_mem_append member
  unfold Dict.values
  rw [entries]
  generalize (a.append b).entries = once at known ⊢
  induction once with
  | nil => exact .same
  | cons e rest ih =>
      obtain ⟨own, others⟩ := List.forall_mem_cons.1 known
      exact ((ih others).append_left e.2).append_subset own

end Breakdowns

namespace Insight

/-- An insight is made from meta, metrics, scratch and the segments selected. -/
theorem ofContext_congr (template : InsightTemplate) {c c' : Context}
    (runMeta : c.runMeta = c'.runMeta) (metrics : c.metrics = c'.metrics)
    (scratch : c.scratch = c'.scratch)
    (ranked : selectRanked c.scoredEvidence = selectRanked c'.scoredEvidence) :
    ofContext template c = ofContext template c' := by
  have totals : totalTokens c = totalTokens c' := by
    unfold totalTokens Context.metricDouble? Context.metric?
    rw [metrics]
  have top : c.topFinding? = c'.topFinding? := by
    unfold Context.topFinding? Context.matchedBreakdown?
    rw [scratch, ranked]
  unfold ofContext insightTokens computedTokens
  rw [top, ranked, metrics, totals, runMeta]

/-- Evidence merged a second time makes no difference to an insight. -/
theorem ofContext_merged_twice (template : InsightTemplate) {c : Context} (cleared : c.scratch = ∅)
    {deltas : List Delta} (steps : ∀ d ∈ deltas, d.FromStep)
    (untold : ∀ d ∈ deltas, d.scratch = none) :
    ofContext template (deltas.foldl Context.mergeOrKeep
        { deltas.foldl Context.mergeOrKeep c with scratch := ∅ }) =
      ofContext template (deltas.foldl Context.mergeOrKeep c) := by
  have accepted : ∀ d ∈ deltas, d.Accepted := fun d member => (steps d member).accepted
  refine ofContext_congr template ?_ (Context.metrics_foldl_twice c ∅ accepted) ?_ ?_
  · exact (Context.foldl_mergeOrKeep_of_steps _ steps).1
  · rw [Context.scratch_foldl_mergeOrKeep _ accepted untold,
      Context.scratch_foldl_mergeOrKeep c accepted untold, cleared]
  · -- Both insights rank all evidence, of which the second context has some again.
    refine Repeating.selectRanked_eq (Repeating.rank .delta .desc ?_)
    rw [Context.foldl_mergeOrKeep c accepted, Context.foldl_mergeOrKeep _ accepted]
    cases (Delta.gather deltas).breakdowns with
    | none => exact .same
    | some found => exact c.breakdowns.repeating_append_append found

end Insight

end RootCause
