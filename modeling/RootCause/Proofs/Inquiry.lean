import RootCause.Source.Basic

/-!
Computations that ask a source, applied to the log of what was asked before.
-/

namespace RootCause.Inquiry

variable {α β : Type}

theorem bind_apply (m : Inquiry α) (f : α → Inquiry β) (log : QueryLog) :
    (m >>= f) log =
      match m log with
      | (.ok a, mid) => f a mid
      | (.error e, mid) => (.error e, mid) := by
  change ExceptT.bindCont (m := StateM QueryLog) f (m log).1 (m log).2 = _
  obtain ⟨answer, mid⟩ := m log
  cases answer with
  | ok a => rfl
  | error e => rfl

/-- Only the continuations of values that can come up have to agree. -/
theorem bind_apply_congr {m : Inquiry α} {f g : α → Inquiry β} {log : QueryLog}
    (h : ∀ a mid, m log = (.ok a, mid) → f a mid = g a mid) :
    (m >>= f) log = (m >>= g) log := by
  rw [bind_apply, bind_apply]
  cases hm : m log with
  | mk answer mid =>
      cases answer with
      | ok a => exact h a mid hm
      | error e => rfl

theorem bind_eq_ok {m : Inquiry α} {f : α → Inquiry β} {log after : QueryLog} {b : β}
    (h : (m >>= f) log = (.ok b, after)) :
    ∃ a mid, m log = (.ok a, mid) ∧ f a mid = (.ok b, after) := by
  rw [bind_apply] at h
  cases hm : m log with
  | mk answer mid =>
      rw [hm] at h
      cases answer with
      | ok a => exact ⟨a, mid, rfl, h⟩
      | error e => cases h

theorem map_apply (f : α → β) (m : Inquiry α) (log : QueryLog) :
    (f <$> m) log = ((m log).1.map f, (m log).2) := by
  rw [map_eq_pure_bind, bind_apply]
  cases hm : m log with
  | mk answer mid =>
      cases answer with
      | ok a => rfl
      | error e => rfl

/-- Every query between two logs has a property, in view of what was sent before it. -/
structure Sent (P : QueryLog → Query → Prop) (log after : QueryLog) : Prop where
  grown : log <+: after
  each : ∀ before q, log <+: before → before ++ [q] <+: after → P before q

namespace Sent

variable {P : QueryLog → Query → Prop} {log mid after : QueryLog}

theorem refl (log : QueryLog) : Sent P log log := by
  refine ⟨List.prefix_rfl, ?_⟩
  intro before q since sent
  have := since.length_le
  have := sent.length_le
  simp only [List.length_append, List.length_singleton] at this
  omega

theorem single {q : Query} (holds : P log q) : Sent P log (log ++ [q]) := by
  refine ⟨List.prefix_append .., ?_⟩
  intro before q' since sent
  have longer := since.length_le
  have fits := sent.length_le
  simp only [List.length_append, List.length_singleton] at fits
  have whole := sent.eq_of_length (by simp only [List.length_append, List.length_singleton]; omega)
  obtain ⟨rfl, same⟩ := List.append_inj' whole rfl
  cases same
  exact holds

theorem trans (first : Sent P log mid) (later : Sent P mid after) : Sent P log after := by
  refine ⟨first.grown.trans later.grown, ?_⟩
  intro before q since sent
  -- The query was sent before the log in the middle was reached, or from there on.
  by_cases early : (before ++ [q]).length ≤ mid.length
  · exact first.each before q since (List.prefix_of_prefix_length_le sent later.grown early)
  · refine later.each before q ?_ sent
    refine List.prefix_of_prefix_length_le later.grown ((List.prefix_append ..).trans sent) ?_
    simp only [List.length_append, List.length_singleton] at early
    omega

theorem imp {Q : QueryLog → Query → Prop} (h : Sent P log after)
    (weaker : ∀ before q, P before q → Q before q) : Sent Q log after :=
  ⟨h.grown, fun before q since sent => weaker before q (h.each before q since sent)⟩

theorem exists_append {asked : Query → Prop} (h : Sent (fun _ q => asked q) log after) :
    ∃ sent, after = log ++ sent ∧ ∀ q ∈ sent, asked q := by
  obtain ⟨sent, rfl⟩ := h.grown
  refine ⟨sent, rfl, ?_⟩
  intro q member
  obtain ⟨before, later, rfl⟩ := List.append_of_mem member
  refine h.each (log ++ before) q (List.prefix_append ..) ⟨later, ?_⟩
  simp only [List.append_assoc, List.singleton_append]

end Sent

/-- What one computation sends, and then what the next one does after a value. -/
theorem sent_bind {P : QueryLog → Query → Prop} {m : Inquiry α} {f : α → Inquiry β}
    {log : QueryLog} (first : Sent P log (m log).2)
    (later : ∀ a mid, m log = (.ok a, mid) → Sent P mid (f a mid).2) :
    Sent P log ((m >>= f) log).2 := by
  rw [bind_apply]
  cases hm : m log with
  | mk answer mid =>
      rw [hm] at first
      cases answer with
      | ok a => exact first.trans (later a mid hm)
      | error e => exact first

/-- Computations whose result does not depend on what was asked before. -/
def Steady (m : Inquiry α) : Prop := ∀ a b, (m a).1 = (m b).1

namespace Steady

theorem pure (a : α) : Steady (Pure.pure a : Inquiry α) := fun _ _ => rfl

theorem bind {m : Inquiry α} {f : α → Inquiry β} (first : Steady m) (later : ∀ a, Steady (f a)) :
    Steady (m >>= f) := by
  intro log log'
  have same := first log log'
  rw [bind_apply, bind_apply]
  cases hm : m log with
  | mk answer mid =>
      cases hm' : m log' with
      | mk answer' mid' =>
          rw [hm, hm'] at same
          cases same
          cases answer with
          | ok a => exact later a mid mid'
          | error e => rfl

theorem askTotals {source : Source} (h : source.Stateless) (q : MetricQuery) :
    Steady (source.askTotals q) := fun a b => h.totals a b q

theorem askBreakdown {source : Source} (h : source.Stateless) (q : BreakdownQuery) :
    Steady (source.askBreakdown q) := fun a b => h.breakdown a b q

end Steady

/-- Computations that come to one value, whatever was asked before. -/
def ComesTo (m : Inquiry α) (a : α) : Prop := ∀ log, (m log).1 = .ok a

namespace ComesTo

theorem pure (a : α) : ComesTo (Pure.pure a : Inquiry α) a := fun _ => rfl

theorem bind {m : Inquiry α} {f : α → Inquiry β} {a : α} {b : β} (first : ComesTo m a)
    (later : ComesTo (f a) b) : ComesTo (m >>= f) b := by
  intro log
  have come := first log
  rw [bind_apply]
  cases hm : m log with
  | mk answer mid =>
      rw [hm] at come
      cases come
      exact later mid

end ComesTo

/-- The error that a source answers a query with. -/
def errorOf? (source : Source) (log : QueryLog) : Query → Option SourceError
  | .totals q =>
    match source.totals log q with
    | .ok _ => none
    | .error e => some e
  | .breakdown q =>
    match source.breakdown log q with
    | .ok _ => none
    | .error e => some e

/-- Computations that only ask and that break off with the error of the query sent last. -/
structure Forwards (source : Source) (m : Inquiry α) : Prop where
  grows : ∀ log, log <+: (m log).2
  breaks : ∀ log e after, m log = (.error e, after) →
    ∃ before q, log <+: before ∧ after = before ++ [q] ∧ errorOf? source before q = some e

namespace Forwards

variable {source : Source}

theorem pure (a : α) : Forwards source (Pure.pure a : Inquiry α) := by
  refine ⟨fun log => List.prefix_rfl, ?_⟩
  intro log e after broke
  cases broke

theorem bind {m : Inquiry α} {f : α → Inquiry β} (first : Forwards source m)
    (later : ∀ a, Forwards source (f a)) : Forwards source (m >>= f) := by
  constructor
  · intro log
    have grown := first.grows log
    rw [bind_apply]
    cases hm : m log with
    | mk answer mid =>
        rw [hm] at grown
        cases answer with
        | ok a => exact grown.trans ((later a).grows mid)
        | error e => exact grown
  · intro log e after broke
    have grown := first.grows log
    rw [bind_apply] at broke
    cases hm : m log with
    | mk answer mid =>
        rw [hm] at broke grown
        cases answer with
        | ok a =>
            obtain ⟨before, q, since, sent, answered⟩ := (later a).breaks mid e after broke
            exact ⟨before, q, grown.trans since, sent, answered⟩
        | error e' =>
            cases broke
            exact first.breaks log _ _ hm

theorem askTotals (q : MetricQuery) : Forwards source (source.askTotals q) := by
  refine ⟨fun log => List.prefix_append .., ?_⟩
  intro log e after broke
  obtain ⟨answer, rfl⟩ := Prod.mk.inj broke
  exact ⟨log, .totals q, List.prefix_rfl, rfl, by simp only [errorOf?, answer]⟩

theorem askBreakdown (q : BreakdownQuery) : Forwards source (source.askBreakdown q) := by
  refine ⟨fun log => List.prefix_append .., ?_⟩
  intro log e after broke
  obtain ⟨answer, rfl⟩ := Prod.mk.inj broke
  exact ⟨log, .breakdown q, List.prefix_rfl, rfl, by simp only [errorOf?, answer]⟩

end Forwards

/-- Computations that send no other queries. -/
def Sends (asked : Query → Prop) (m : Inquiry α) : Prop :=
  ∀ log, Sent (fun _ q => asked q) log (m log).2

/-- A property of values, and of these queries, that what is made of such computations has too. -/
structure Closed (source : Source) (asked : Query → Prop) (K : {α : Type} → Inquiry α → Prop) :
    Prop where
  pure {α : Type} (a : α) : K (Pure.pure a : Inquiry α)
  bind {α β : Type} {m : Inquiry α} {f : α → Inquiry β} (first : K m) (later : ∀ a, K (f a)) :
    K (m >>= f)
  askTotals {q : MetricQuery} (own : asked (.totals q)) : K (source.askTotals q)
  askBreakdown {q : BreakdownQuery} (own : asked (.breakdown q)) : K (source.askBreakdown q)

section Closed

variable {source : Source} (asked : Query → Prop)

theorem closed_steady (stateless : source.Stateless) : Closed source asked Steady where
  pure := .pure
  bind := .bind
  askTotals _ := .askTotals stateless _
  askBreakdown _ := .askBreakdown stateless _

theorem closed_forwards : Closed source asked (Forwards source) where
  pure := .pure
  bind := .bind
  askTotals _ := .askTotals _
  askBreakdown _ := .askBreakdown _

theorem closed_sends : Closed source asked (Sends asked) where
  pure _ log := .refl log
  bind first later log := sent_bind (first log) fun a mid _ => later a mid
  askTotals own _ := .single own
  askBreakdown own _ := .single own

end Closed

end RootCause.Inquiry
