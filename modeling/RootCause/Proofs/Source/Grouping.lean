import Mathlib.Data.List.Induction
import RootCause.Proofs.Dict
import RootCause.Source.Answer

/-!
Groups of rows. The group of a key holds the rows with the key in their order, so a sub-select has
one entry for each key of its rows, with what these rows come to.
-/

namespace RootCause

section Each

variable {α β : Type} {f : α → Option β} {items : List α}

theorem exists_mapM_iff : (∃ read, items.mapM f = some read) ↔ ∀ a ∈ items, ∃ b, f a = some b := by
  induction items with
  | nil => exact iff_of_true ⟨[], rfl⟩ nofun
  | cons a rest ih =>
      rw [List.forall_mem_cons, ← ih]
      constructor
      · rintro ⟨read, h⟩
        rw [List.mapM_cons] at h
        obtain ⟨b, here, h⟩ := Option.bind_eq_some_iff.1 h
        obtain ⟨others, later, -⟩ := Option.bind_eq_some_iff.1 h
        exact ⟨⟨b, here⟩, others, later⟩
      · rintro ⟨⟨b, here⟩, others, later⟩
        refine ⟨b :: others, ?_⟩
        rw [List.mapM_cons, here, later]
        rfl

/-- Entries read one by one keep their keys. -/
theorem lookup_of_mapM {entries : List (String × α)} {table : List (String × β)}
    (h : entries.mapM (fun (k, a) => (f a).map fun b => (k, b)) = some table) :
    table.map (·.1) = entries.map (·.1) ∧ ∀ k, table.lookup k = (entries.lookup k).bind f := by
  induction entries generalizing table with
  | nil =>
      cases h
      exact ⟨rfl, fun k => rfl⟩
  | cons e rest ih =>
      obtain ⟨key, a⟩ := e
      rw [List.mapM_cons] at h
      obtain ⟨made, here, h⟩ := Option.bind_eq_some_iff.1 h
      obtain ⟨others, later, h⟩ := Option.bind_eq_some_iff.1 h
      obtain ⟨b, read, rfl⟩ := Option.map_eq_some_iff.1 here
      cases h
      obtain ⟨keys, lookups⟩ := ih later
      refine ⟨by rw [List.map_cons, List.map_cons, keys], fun k => ?_⟩
      rw [Dict.lookup_cons_ite, Dict.lookup_cons_ite, lookups]
      split
      · exact read.symm
      · rfl

end Each

section Groups

variable {α β : Type} {key : α → Option String}

/-- The rows with a key. -/
def rowsOf (key : α → Option String) (k : String) (rows : List α) : List α :=
  rows.filter fun row => key row == some k

variable {rows : List α} {k : String}

theorem rowsOf_ne_nil_iff : rowsOf key k rows ≠ [] ↔ ∃ row ∈ rows, key row = some k := by
  unfold rowsOf
  simp only [ne_eq, List.filter_eq_nil_iff, beq_iff_eq, not_forall, not_not, exists_prop]

theorem get?_addToGroup (groups : Dict (List α)) (row : α) :
    (addToGroup key groups row).get? k =
      if key row = some k then some ((groups.get? k).getD [] ++ [row]) else groups.get? k := by
  unfold addToGroup
  split
  · next unknown => rw [unknown, if_neg nofun]
  · next own known =>
    rw [Dict.get?_insert, known]
    by_cases same : k = own
    · rw [if_pos same, if_pos (congrArg some same.symm), same]
    · rw [if_neg same, if_neg fun other => same (Option.some.inj other).symm]

theorem get?_groupBy : (groupBy key rows).get? k =
    if rowsOf key k rows = [] then none else some (rowsOf key k rows) := by
  -- A group grows at its end, so the rows are taken off from there.
  induction rows using List.reverseRecOn with
  | nil => rfl
  | append_singleton rows row ih =>
      have step : groupBy key (rows ++ [row]) = addToGroup key (groupBy key rows) row :=
        List.foldl_append ..
      have split : rowsOf key k (rows ++ [row]) = rowsOf key k rows ++ rowsOf key k [row] :=
        List.filter_append ..
      rw [step, split, get?_addToGroup, ih]
      by_cases own : key row = some k
      · have here : rowsOf key k [row] = [row] :=
          List.filter_cons_of_pos (beq_iff_eq.2 own)
        have filled : rowsOf key k rows ++ [row] ≠ [] := List.concat_ne_nil row _
        rw [if_pos own, here, if_neg filled]
        by_cases first : rowsOf key k rows = []
        · rw [if_pos first, first]
          rfl
        · rw [if_neg first]
          rfl
      · have other : rowsOf key k [row] = [] :=
          List.filter_cons_of_neg fun same => own (beq_iff_eq.1 same)
        rw [if_neg own, other, List.append_nil]

theorem mem_groupBy_iff {group : List α} :
    (k, group) ∈ (groupBy key rows).entries ↔
      rowsOf key k rows ≠ [] ∧ rowsOf key k rows = group := by
  rw [← Dict.lookup_eq_some_iff_mem (groupBy key rows).ascending]
  show (groupBy key rows).get? k = some group ↔ _
  rw [get?_groupBy]
  split
  · next absent => simp [absent]
  · next filled => simp [filled]

variable {aggregate : List α → Option β}

theorem exists_selectBy (each : ∀ k, (∃ row ∈ rows, key row = some k) →
    ∃ b, aggregate (rowsOf key k rows) = some b) :
    ∃ table, selectBy key aggregate rows = some table := by
  refine exists_mapM_iff.2 fun (k, group) member => ?_
  obtain ⟨filled, rfl⟩ := mem_groupBy_iff.1 member
  obtain ⟨b, made⟩ := each k (rowsOf_ne_nil_iff.1 filled)
  exact ⟨(k, b), Option.map_eq_some_iff.2 ⟨b, made, rfl⟩⟩

variable {table : List (String × β)} (h : selectBy key aggregate rows = some table)
include h

theorem mem_keys_of_selectBy : k ∈ table.map (·.1) ↔ ∃ row ∈ rows, key row = some k := by
  rw [(lookup_of_mapM h).1, ← rowsOf_ne_nil_iff, List.mem_map]
  constructor
  · rintro ⟨⟨k, group⟩, member, rfl⟩
    exact (mem_groupBy_iff.1 member).1
  · intro filled
    exact ⟨(k, rowsOf key k rows), mem_groupBy_iff.2 ⟨filled, rfl⟩, rfl⟩

/-- A key that no row has counts as no row would. -/
theorem getD_lookup_of_selectBy {zero : β} (empty : aggregate [] = some zero) (k : String) :
    aggregate (rowsOf key k rows) = some ((table.lookup k).getD zero) := by
  have found : table.lookup k = ((groupBy key rows).get? k).bind aggregate := (lookup_of_mapM h).2 k
  rw [found, get?_groupBy]
  split
  · next absent => rw [absent, empty, Option.bind_none, Option.getD_none]
  · next filled =>
    have member := mem_groupBy_iff.2 ⟨filled, rfl⟩
    obtain ⟨made, read⟩ := exists_mapM_iff.1 ⟨table, h⟩ _ member
    obtain ⟨b, read, -⟩ := Option.map_eq_some_iff.1 read
    rw [Option.bind_some, read, Option.getD_some]

end Groups

end RootCause
