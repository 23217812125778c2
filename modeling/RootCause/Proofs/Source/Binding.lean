import RootCause.Source.Statement

/-!
Parameters in their places. The parameters of a query are as many as the open places of its
statement, and each of them fills the place that it was meant for.
-/

namespace RootCause

namespace Binding

variable {α β : Type} {b : Binding α} {parameters rest : List Parameter} {a : α}

/-- Takes these parameters from the front, whatever comes after them. -/
def Takes (b : Binding α) (parameters : List Parameter) (a : α) : Prop :=
  ∀ rest, b (parameters ++ rest) = some (a, rest)

theorem takes_pure (a : α) : (pure a : Binding α).Takes [] a := fun _ => rfl

theorem takes_text (s : String) : text.Takes [.text s] s := fun _ => rfl

theorem takes_time (t : DateTime) : time.Takes [.time t] t := fun _ => rfl

theorem Takes.bind {next : α → Binding β} {c : β} (h : b.Takes parameters a)
    (h' : (next a).Takes rest c) : (b >>= next).Takes (parameters ++ rest) c := by
  intro others
  rw [List.append_assoc]
  show (b (parameters ++ (rest ++ others)) >>= fun made => next made.1 made.2) = some (c, others)
  rw [h]
  exact h' others

theorem Takes.map (h : b.Takes parameters a) (f : α → β) :
    (do return f (← b)).Takes parameters (f a) := by
  have both : (do return f (← b)).Takes (parameters ++ []) (f a) := h.bind (takes_pure (f a))
  rwa [List.append_nil] at both

theorem Takes.fill? (h : b.Takes parameters a) : b.fill? parameters = some a := by
  have all := h []
  rw [List.append_nil] at all
  unfold Binding.fill?
  rw [all]

end Binding

open Binding

theorem takes_mapM_text (filters : List Filter) :
    Takes ((filters.map (·.dimension)).mapM fun column => return ⟨column, ← Binding.text⟩)
      ((filters.map (·.value)).map .text) filters := by
  induction filters with
  | nil => exact takes_pure []
  | cons f rest ih =>
      rw [List.map_cons, List.mapM_cons]
      exact ((takes_text f.value).map (Filter.mk f.dimension)).bind (ih.map (f :: ·))

theorem Restriction.takes_bind (tenant : String) (filters : List Filter) (range : WindowRange) :
    (Restriction.bind (filters.map (·.dimension))).Takes
      (Parameter.ofRange tenant (filters.map (·.value)) range) ⟨tenant, range, filters⟩ := by
  have values := (takes_mapM_text filters).map (Restriction.mk tenant range)
  exact (takes_text tenant).bind ((takes_time range.start).bind
    ((takes_time range.stop).bind values))

/-- The restrictions of two windows under the same filters. -/
def Restrictions.ofWindows (tenant : String) (filters : List Filter)
    (window baseline : WindowRange) : Restrictions where
  currentSessions := ⟨tenant, window, filters⟩
  baselineSessions := ⟨tenant, baseline, filters⟩
  currentOrders := ⟨tenant, window, filters⟩
  baselineOrders := ⟨tenant, baseline, filters⟩

theorem Restrictions.takes_bind (tenant : String) (filters : List Filter)
    (window baseline : WindowRange) :
    (Restrictions.bind (filters.map (·.dimension))).Takes
      (Restrictions.parameters tenant (filters.map (·.value)) window baseline)
      (.ofWindows tenant filters window baseline) := by
  have current := Restriction.takes_bind tenant filters window
  have before := Restriction.takes_bind tenant filters baseline
  exact current.bind (before.bind (current.bind (before.bind (takes_pure _))))

/-- Where the titles of a breakdown are sought. -/
def BreakdownQuery.titleRestriction? (q : BreakdownQuery) : Option Restriction :=
  if q.wantsTitles then
    some ⟨q.tenantId, ⟨q.baselineWindow.start, q.window.stop⟩, q.knownFilters⟩
  else none

theorem BreakdownQuery.fill?_statement (q : BreakdownQuery) :
    q.statement.bind.fill? q.parameters =
      some (.ofWindows q.tenantId q.knownFilters q.window q.baselineWindow,
        q.titleRestriction?) := by
  have sums := Restrictions.takes_bind q.tenantId q.knownFilters q.window q.baselineWindow
  apply Takes.fill?
  unfold statement BreakdownStatement.bind parameters titleRestriction?
  dsimp only
  split
  · have titles := Restriction.takes_bind q.tenantId q.knownFilters
      ⟨q.baselineWindow.start, q.window.stop⟩
    exact sums.bind (titles.map _)
  · exact sums.bind (takes_pure _)

theorem MetricQuery.fill?_parameters (q : MetricQuery) :
    (Restrictions.bind []).fill? q.parameters =
      some (.ofWindows q.tenantId [] q.window q.baselineWindow) :=
  (Restrictions.takes_bind q.tenantId [] q.window q.baselineWindow).fill?

end RootCause
