import RootCause.Context.Delta
import RootCause.Proofs.Dict

/-!
The two ways to apply a delta agree: gathering deltas into one and merging that one gives the
context that merging them one after another gives. A rejected delta changes nothing either way.
-/

namespace RootCause

namespace Metrics

/-- The overriding metrics win name by name. -/
theorem get?_override (a b : Metrics) (name : String) :
    (a.override b).get? name = (b.get? name).or (a.get? name) := by
  refine (Dict.get?_foldl_insert (fun _ value => value) a b name).trans ?_
  cases b.get? name <;> rfl

theorem override_assoc (a b c : Metrics) :
    (a.override b).override c = a.override (b.override c) := by
  apply Dict.ext_get?
  intro name
  simp only [get?_override, Option.or_assoc]

theorem empty_override (a : Metrics) : Metrics.override ∅ a = a := by
  apply Dict.ext_get?
  intro name
  rw [get?_override]
  exact Option.or_none

end Metrics

namespace Breakdowns

/-- Under each key of the appended map, the old list and then the new one. -/
theorem get?_append (a b : Breakdowns) (key : String) :
    (a.append b).get? key =
      (b.get? key).elim (a.get? key) fun entries => some ((a.get? key).getD [] ++ entries) :=
  Dict.get?_foldl_insert (fun old entries => old.getD [] ++ entries) a b key

theorem append_assoc (a b c : Breakdowns) :
    (a.append b).append c = a.append (b.append c) := by
  apply Dict.ext_get?
  intro key
  simp only [get?_append]
  cases c.get? key with
  | none => rfl
  | some third =>
      cases b.get? key with
      | none => rfl
      | some second => simp only [Option.elim, Option.getD_some, List.append_assoc]

theorem empty_append (a : Breakdowns) : Breakdowns.append ∅ a = a := by
  apply Dict.ext_get?
  intro key
  rw [get?_append]
  cases h : a.get? key with
  | none => rfl
  | some entries => rfl

end Breakdowns

/-- A field after a part that a delta may leave out. -/
def changeBy {α : Type} (f : α → α → α) (x : α) : Option α → α
  | none => x
  | some y => f x y

/-- Applies `f` to an absent or present first part once a second part is there. -/
def Delta.joinWith {α : Type} (f : α → α → α) (unit : α) : Option α → Option α → Option α
  | a, none => a
  | a, some b => some (f (a.getD unit) b)

/-- Joined parts change a field as the first and then the second do. -/
theorem changeBy_joinWith {α : Type} {f : α → α → α} {unit : α}
    (assoc : ∀ x y z, f (f x y) z = f x (f y z)) (unit_left : ∀ x, f unit x = x)
    (x : α) (first second : Option α) :
    changeBy f x (Delta.joinWith f unit first second) =
      changeBy f (changeBy f x first) second := by
  cases second with
  | none => rfl
  | some z =>
      cases first with
      | none => exact congrArg (f x) (unit_left z)
      | some y => exact (assoc x y z).symm

namespace Update

variable {σ : Type}

theorem result_eq_ok_iff {u : Update σ Unit} {s after : σ} :
    u.result s = .ok after ↔ u s = (.ok (), after) := by
  unfold result
  split
  · next left ran => rw [ran, Except.ok.injEq, Prod.mk.injEq, eq_self, true_and]
  · next e left ran => rw [ran]; exact ⟨nofun, nofun⟩

/-- A change that leaves the state as it was when it is rejected. -/
def Atomic (u : Update σ Unit) : Prop :=
  ∀ (s : σ) (e : MergeError) (after : σ), u s = (.error e, after) → after = s

/-- A change that is rejected before it starts or not at all. -/
structure Guarded (u : Update σ Unit) (refused : Prop) : Prop where
  rejects : refused → ∀ s, u s = (.error .immutableMeta, s)
  accepts : ¬refused → ∀ s, ∃ after, u s = (.ok (), after)

namespace Guarded

variable {u : Update σ Unit} {refused : Prop}

theorem atomic (h : u.Guarded refused) : u.Atomic := by
  intro s e after ran
  by_cases refusal : refused
  · rw [h.rejects refusal s] at ran
    exact (Prod.mk.inj ran).2.symm
  · obtain ⟨changed, passed⟩ := h.accepts refusal s
    rw [passed] at ran
    cases ran

theorem rejects_iff (h : u.Guarded refused) (s : σ) :
    (u s).1 = .error .immutableMeta ↔ refused := by
  by_cases refusal : refused
  · rw [h.rejects refusal s]
    exact iff_of_true rfl refusal
  · obtain ⟨changed, passed⟩ := h.accepts refusal s
    rw [passed]
    exact iff_of_false nofun refusal

end Guarded

end Update

namespace Delta

variable {d : Delta}

theorem mergeInto_of_rejected (c : Context) (h : d.runMeta.isSome) :
    d.mergeInto c = (.error .immutableMeta, c) := by
  unfold mergeInto
  rw [if_pos h]
  rfl

/-- A delta without meta is accepted, and each field is changed by its own rule. -/
theorem mergeInto_of_accepted (c : Context) (h : d.runMeta = none) :
    d.mergeInto c = (.ok (), { c with
      filters := changeBy (· ++ ·) c.filters d.filters
      metrics := changeBy Metrics.override c.metrics d.metrics
      rootCausePath := changeBy (· ++ ·) c.rootCausePath d.rootCausePath
      scratch := d.scratch.getD c.scratch
      breakdowns := changeBy Breakdowns.append c.breakdowns d.breakdowns }) := by
  unfold mergeInto
  rw [h]
  cases d.filters <;> cases d.metrics <;> cases d.rootCausePath <;> cases d.scratch <;>
    cases d.breakdowns <;> rfl

theorem mergeInto_guarded (d : Delta) : d.mergeInto.Guarded d.runMeta.isSome where
  rejects refused c := mergeInto_of_rejected c refused
  accepts allowed c := ⟨_, mergeInto_of_accepted c (Option.not_isSome_iff_eq_none.1 allowed)⟩

theorem absorbInto_of_rejected (acc : Delta) (h : d.runMeta.isSome) :
    d.absorbInto acc = (.error .immutableMeta, acc) := by
  unfold absorbInto
  rw [if_pos h]
  rfl

theorem absorbInto_of_accepted (acc : Delta) (h : d.runMeta = none) :
    d.absorbInto acc = (.ok (), {
      runMeta := acc.runMeta
      filters := joinWith (· ++ ·) [] acc.filters d.filters
      metrics := joinWith Metrics.override ∅ acc.metrics d.metrics
      rootCausePath := joinWith (· ++ ·) [] acc.rootCausePath d.rootCausePath
      scratch := d.scratch <|> acc.scratch
      breakdowns := joinWith Breakdowns.append ∅ acc.breakdowns d.breakdowns }) := by
  unfold absorbInto
  rw [h]
  cases d.filters <;> cases d.metrics <;> cases d.rootCausePath <;> cases d.scratch <;>
    cases d.breakdowns <;> rfl

theorem absorbInto_guarded (d : Delta) : d.absorbInto.Guarded d.runMeta.isSome where
  rejects refused acc := absorbInto_of_rejected acc refused
  accepts allowed acc := ⟨_, absorbInto_of_accepted acc (Option.not_isSome_iff_eq_none.1 allowed)⟩

/-- The delta that the next one leaves, absorbed or rejected. -/
def absorbOrKeep (acc d : Delta) : Delta := (d.absorbInto acc).2

theorem absorbInto_eq (acc : Delta) (h : d.runMeta = none) :
    d.absorbInto acc = (.ok (), acc.absorbOrKeep d) := by
  unfold absorbOrKeep
  rw [absorbInto_of_accepted acc h]

theorem absorbOrKeep_of_rejected (acc : Delta) (h : d.runMeta.isSome) :
    acc.absorbOrKeep d = acc := by
  unfold absorbOrKeep
  rw [absorbInto_of_rejected acc h]

end Delta

namespace Context

variable {c c' : Context} {d : Delta}

/-- The context that a delta leaves, merged or rejected. -/
def mergeOrKeep (c : Context) (d : Delta) : Context := (d.mergeInto c).2

theorem mergeOrKeep_of_rejected (c : Context) (h : d.runMeta.isSome) : c.mergeOrKeep d = c := by
  unfold mergeOrKeep
  rw [Delta.mergeInto_of_rejected c h]

theorem mergeInto_eq (c : Context) (h : d.runMeta = none) :
    d.mergeInto c = (.ok (), c.mergeOrKeep d) := by
  unfold mergeOrKeep
  rw [Delta.mergeInto_of_accepted c h]

theorem merge_eq_ok_iff : c.merge d = .ok c' ↔ d.mergeInto c = (.ok (), c') :=
  Update.result_eq_ok_iff

theorem merge_of_meta_eq_none (c : Context) (h : d.runMeta = none) :
    c.merge d = .ok { c with
      filters := changeBy (· ++ ·) c.filters d.filters
      metrics := changeBy Metrics.override c.metrics d.metrics
      rootCausePath := changeBy (· ++ ·) c.rootCausePath d.rootCausePath
      scratch := d.scratch.getD c.scratch
      breakdowns := changeBy Breakdowns.append c.breakdowns d.breakdowns } :=
  merge_eq_ok_iff.2 (Delta.mergeInto_of_accepted c h)

theorem merge_eq_mergeOrKeep (c : Context) (h : d.runMeta = none) :
    c.merge d = .ok (c.mergeOrKeep d) :=
  merge_eq_ok_iff.2 (mergeInto_eq c h)

theorem meta_eq_none_of_merge (h : c.merge d = .ok c') : d.runMeta = none := by
  refine Option.not_isSome_iff_eq_none.1 fun refused => ?_
  rw [merge_eq_ok_iff, Delta.mergeInto_of_rejected c refused] at h
  cases h

theorem executionTrace_of_merge (h : c.merge d = .ok c') :
    c'.executionTrace = c.executionTrace := by
  rw [merge_of_meta_eq_none c (meta_eq_none_of_merge h), Except.ok.injEq] at h
  rw [← h]

/-- Gathering one more delta before the merge is merging it afterwards. -/
theorem mergeInto_absorbOrKeep {acc : Delta} (merged : acc.mergeInto c = (.ok (), c'))
    (d : Delta) : (acc.absorbOrKeep d).mergeInto c = (.ok (), c'.mergeOrKeep d) := by
  cases hd : d.runMeta with
  | some m =>
      have rejected : d.runMeta.isSome := by rw [hd]; rfl
      rw [Delta.absorbOrKeep_of_rejected acc rejected, mergeOrKeep_of_rejected c' rejected]
      exact merged
  | none =>
      have hacc := meta_eq_none_of_merge (merge_eq_ok_iff.2 merged)
      rw [Delta.mergeInto_of_accepted c hacc] at merged
      cases merged
      simp only [Delta.absorbOrKeep, Delta.absorbInto_of_accepted acc hd, mergeOrKeep,
        Delta.mergeInto_of_accepted _ hd]
      rw [Delta.mergeInto_of_accepted c (by exact hacc)]
      simp only [changeBy_joinWith List.append_assoc List.nil_append,
        changeBy_joinWith Metrics.override_assoc Metrics.empty_override,
        changeBy_joinWith Breakdowns.append_assoc Breakdowns.empty_append]
      cases d.scratch <;> rfl

/-- A delta of scratch replaces scratch and nothing else. -/
theorem merge_ofScratch (c : Context) (scratch : Dict Json) :
    c.merge (.ofScratch scratch) = .ok { c with scratch } :=
  merge_of_meta_eq_none c rfl

theorem mergeInto_empty (c : Context) : Delta.empty.mergeInto c = (.ok (), c) := rfl

theorem mergeInto_foldl_absorbOrKeep {acc : Delta} (merged : acc.mergeInto c = (.ok (), c'))
    (deltas : List Delta) :
    (deltas.foldl Delta.absorbOrKeep acc).mergeInto c =
      (.ok (), deltas.foldl mergeOrKeep c') := by
  induction deltas generalizing acc c' with
  | nil => exact merged
  | cons d deltas ih => exact ih (mergeInto_absorbOrKeep merged d)

theorem merge_foldl_absorbOrKeep {acc : Delta} (merged : c.merge acc = .ok c')
    (deltas : List Delta) :
    c.merge (deltas.foldl Delta.absorbOrKeep acc) = .ok (deltas.foldl mergeOrKeep c') :=
  merge_eq_ok_iff.2 (mergeInto_foldl_absorbOrKeep (merge_eq_ok_iff.1 merged) deltas)

/-- Deltas gathered into one and merged at the end give the context that merging them one by
one gives, each of them applied in place and going on from what the one before has left. Both ways
reject the deltas that carry meta, and one that is rejected leaves things as they were. -/
theorem merge_gathered_eq_merge_each (c : Context) (deltas : List Delta) :
    (deltas.foldl (fun acc d : Delta => (d.absorbInto acc).2) .empty).mergeInto c =
        (.ok (), deltas.foldl (fun before d => (d.mergeInto before).2) c) ∧
      ∀ d : Delta,
        (∀ before, (d.mergeInto before).1 = .error .immutableMeta ↔ d.runMeta.isSome) ∧
        (∀ acc, (d.absorbInto acc).1 = .error .immutableMeta ↔ d.runMeta.isSome) ∧
        d.mergeInto.Atomic ∧ d.absorbInto.Atomic := by
  refine ⟨mergeInto_foldl_absorbOrKeep (mergeInto_empty c) deltas, ?_⟩
  intro d
  have merging := d.mergeInto_guarded
  have absorbing := d.absorbInto_guarded
  exact ⟨merging.rejects_iff, absorbing.rejects_iff, merging.atomic, absorbing.atomic⟩

end Context

end RootCause
