import RootCause.Step.Branch

/-!
What the conditions of a branch are about: metrics, and the fields of an entry in the order in
which they are looked up. A condition on something that is not there does not hold.
-/

namespace RootCause

/-- The members of an object, none for anything else. -/
def Json.entries : Json → List (String × Json)
  | .object members => members
  | _ => []

theorem Json.get?_eq_lookup (j : Json) (name : String) : j.get? name = j.entries.lookup name := by
  cases j <;> rfl

/-- The fields of an entry. Of two fields with one name a condition sees the first. -/
def Evidence.fields (e : Evidence) : List (String × Json) :=
  e.deltas.toJson.entries ++ e.current.toJson.entries ++ e.baseline.toJson.entries ++
    e.toJson.entries

theorem resolveField?_toJson (e : Evidence) (name : String) :
    resolveField? e.toJson name = e.fields.lookup name := by
  have deltas : e.toJson.get? "deltas" = some e.deltas.toJson := rfl
  have current : e.toJson.get? "current" = some e.current.toJson := rfl
  have baseline : e.toJson.get? "baseline" = some e.baseline.toJson := rfl
  unfold resolveField? Evidence.fields
  simp only [List.findSome?_cons, List.findSome?_nil, deltas, current, baseline, Option.bind_some]
  simp only [Json.get?_eq_lookup, List.lookup_append]
  cases e.deltas.toJson.entries.lookup name with
  | some v => rfl
  | none =>
      cases e.current.toJson.entries.lookup name with
      | some v => rfl
      | none => cases e.baseline.toJson.entries.lookup name <;> rfl

namespace Condition

variable {cond : Condition}

/-- The metric is there and compares as the condition says. -/
def MetIn (cond : Condition) (c : Context) : Prop :=
  ∃ v, c.metric? cond.metric = some v ∧ cond.op.compare v.toJson cond.value

/-- The entry has the field, and it compares as the condition says. -/
def MetBy (cond : Condition) (e : Evidence) : Prop :=
  ∃ v, e.fields.lookup cond.metric = some v ∧ cond.op.compare v cond.value

theorem holdsOfMetrics_iff {c : Context} : cond.holdsOfMetrics c ↔ cond.MetIn c := by
  unfold holdsOfMetrics MetIn
  cases c.metric? cond.metric with
  | none => simp
  | some v => simp

theorem holdsOfEntry_iff {e : Evidence} : cond.holdsOfEntry e.toJson ↔ cond.MetBy e := by
  unfold holdsOfEntry MetBy
  rw [resolveField?_toJson]
  cases e.fields.lookup cond.metric with
  | none => simp
  | some v => simp

end Condition

/-- An entry without traffic. -/
def Evidence.untouched (dimension value : String) : Evidence where
  dimension := dimension
  value := value
  displayValue := value
  depth := 0
  current := ⟨0, 0, 0, none, none⟩
  baseline := ⟨0, 0, 0, none, none⟩
  deltas := ⟨none, none, none, none, none⟩
  sessionShare := .zero false
  orderShare := .zero false
  baselineSessionShare := .zero false
  baselineOrderShare := .zero false
  baseMetric := .sessions

end RootCause
