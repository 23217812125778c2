import Mathlib.Data.List.Duplicate
import Mathlib.Data.List.Perm.Subperm
import RootCause.Proofs.First
import RootCause.Source.Fixture

/-!
Canned rows by their filters. A canned breakdown is meant for one list of filters in any order. What
is looked at is the number of filters and whether each one of the query is there, and this mistakes
another list for the right one when the query gives a filter twice.
-/

namespace RootCause

namespace CannedBreakdown

/-- The dimension of the query and a rearrangement of its filters. -/
structure IsFor (b : CannedBreakdown) (q : BreakdownQuery) : Prop where
  dimension : b.dimension = q.dimension
  filters : b.filters.Perm q.filters

/-- The dimension of the query, and as many filters, with each one of the query among them. -/
structure Covers (b : CannedBreakdown) (q : BreakdownQuery) : Prop where
  dimension : b.dimension = q.dimension
  length : b.filters.length = q.filters.length
  filters : q.filters ⊆ b.filters

variable {b : CannedBreakdown} {q : BreakdownQuery}

theorem answers_iff_covers : b.answers q ↔ b.Covers q := by
  unfold answers
  simp only [Bool.and_eq_true, beq_iff_eq, List.all_eq_true, List.contains_iff_mem]
  exact ⟨fun ⟨⟨dimension, length⟩, filters⟩ => ⟨dimension, length, filters⟩,
    fun h => ⟨⟨h.dimension, h.length⟩, h.filters⟩⟩

theorem IsFor.covers (h : b.IsFor q) : b.Covers q :=
  ⟨h.dimension, h.filters.length_eq, h.filters.symm.subset⟩

/-- Filters that are all different fill the places of a list that has each of them. -/
theorem Covers.isFor (h : b.Covers q) (distinct : q.filters.Nodup) : b.IsFor q :=
  ⟨h.dimension,
    ((List.subperm_of_subset distinct h.filters).perm_of_length_le (Nat.le_of_eq h.length)).symm⟩

theorem covers_iff_isFor (distinct : q.filters.Nodup) : b.Covers q ↔ b.IsFor q :=
  ⟨fun h => h.isFor distinct, IsFor.covers⟩

end CannedBreakdown

namespace Fixture

/-- The rows of the first canned breakdown of a kind, no rows without one. -/
inductive RowsOfFirst (f : Fixture) (kind : CannedBreakdown → Prop) : List DimensionRow → Prop
  | first {i : Nat} {b : CannedBreakdown} (first : FirstAt kind f.breakdowns i b) :
      RowsOfFirst f kind b.rows
  | none (none : ∀ b ∈ f.breakdowns, ¬kind b) : RowsOfFirst f kind []

variable {f : Fixture} {q : BreakdownQuery} {kind : CannedBreakdown → Prop}

theorem rowsOfFirst_rows (decides : ∀ b ∈ f.breakdowns, b.answers q ↔ kind b) :
    f.RowsOfFirst kind (f.rows q) := by
  unfold rows
  cases found : f.breakdowns.find? (·.answers q) with
  | none => exact .none ((find?_eq_none_iff_forall decides).1 found)
  | some b =>
      obtain ⟨i, first⟩ := (find?_eq_some_iff_firstAt decides).1 found
      exact .first first

theorem RowsOfFirst.nil_of_forall {rows : List DimensionRow} (h : f.RowsOfFirst kind rows)
    (none : ∀ b ∈ f.breakdowns, ¬kind b) : rows = [] := by
  cases h with
  | first first => exact absurd first.holds (none _ first.mem)
  | none => rfl

end Fixture

section Repeated

/-- The same dimension with another value. -/
def Filter.other (f : Filter) : Filter := { f with value := f.value ++ "2" }

theorem Filter.other_ne (f : Filter) : f.other ≠ f := by
  intro same
  have longer := congrArg (fun f => f.value.length) same
  rw [other, String.length_append] at longer
  exact absurd longer (Nat.succ_ne_self _)

/-- Canned for the filters of a query, but in one place of `x` there is another filter. -/
def CannedBreakdown.insteadOf (q : BreakdownQuery) (x : Filter) : CannedBreakdown where
  dimension := q.dimension
  filters := x.other :: q.filters.erase x
  rows := [⟨"p1", none, 1, 1, 0, 0, 0, 0⟩]

def Fixture.insteadOf (q : BreakdownQuery) (x : Filter) : Fixture := ⟨none, [.insteadOf q x]⟩

variable {q : BreakdownQuery} {x : Filter} (twice : 2 ≤ q.filters.count x)
include twice

theorem CannedBreakdown.covers_insteadOf : (insteadOf q x).Covers q := by
  have member : x ∈ q.filters := List.count_pos_iff.1 (Nat.lt_of_lt_of_le Nat.two_pos twice)
  refine ⟨rfl, ?_, fun y listed => List.mem_cons_of_mem _ ?_⟩
  · rw [insteadOf, List.length_cons, List.length_erase_of_mem member]
    exact Nat.sub_add_cancel (List.length_pos_of_mem member)
  · by_cases same : y = x
    · subst same
      have left : 0 < (q.filters.erase y).count y := by
        rw [List.count_erase_self]
        omega
      exact List.count_pos_iff.1 left
    · exact (List.mem_erase_of_ne same).2 listed

theorem CannedBreakdown.not_isFor_insteadOf : ¬(insteadOf q x).IsFor q := by
  intro h
  have same := h.filters.count_eq x
  rw [insteadOf, List.count_cons_of_ne x.other_ne, List.count_erase_self] at same
  omega

theorem Fixture.not_rowsOfFirst_insteadOf :
    ¬(insteadOf q x).RowsOfFirst (·.IsFor q) ((insteadOf q x).rows q) := by
  have answers := CannedBreakdown.answers_iff_covers.2 (CannedBreakdown.covers_insteadOf twice)
  have found : (insteadOf q x).rows q = (CannedBreakdown.insteadOf q x).rows := by
    simp only [rows, insteadOf, List.find?_cons, answers]
  have none : ∀ b ∈ (insteadOf q x).breakdowns, ¬b.IsFor q :=
    List.forall_mem_singleton.2 (CannedBreakdown.not_isFor_insteadOf twice)
  intro first
  have empty := first.nil_of_forall none
  rw [found] at empty
  cases empty

end Repeated

namespace Fixture

/-- A query gets the rows of the first breakdown that covers it. That these are always those canned
for its filters is the same as that no filter is given twice in it. -/
theorem rowsOfFirst_of_source (q : BreakdownQuery) :
    (∀ (f : Fixture) (log : QueryLog), ∃ rows, f.source.breakdown log q = .ok rows ∧
      f.RowsOfFirst (·.Covers q) rows) ∧
    ((∀ (f : Fixture) (log : QueryLog), ∃ rows, f.source.breakdown log q = .ok rows ∧
      f.RowsOfFirst (·.IsFor q) rows) ↔ q.filters.Nodup) := by
  have covering (f : Fixture) : f.RowsOfFirst (·.Covers q) (f.rows q) :=
    rowsOfFirst_rows fun b _ => b.answers_iff_covers
  refine ⟨fun f log => ⟨f.rows q, rfl, covering f⟩, fun exact => ?_, fun distinct f log => ?_⟩
  · by_contra repeated
    obtain ⟨x, again⟩ := List.exists_duplicate_iff_not_nodup.2 repeated
    obtain ⟨rows, answered, first⟩ := exact (insteadOf q x) []
    cases answered
    exact not_rowsOfFirst_insteadOf (List.duplicate_iff_two_le_count.1 again) first
  · refine ⟨f.rows q, rfl, rowsOfFirst_rows fun b _ => ?_⟩
    exact b.answers_iff_covers.trans (b.covers_iff_isFor distinct)

/-- Landing pages of visits from mails to the sale. -/
def mailToSale : Fixture where
  totals := none
  breakdowns := [⟨"landing_page_path", [⟨"utm_source", "mail"⟩, ⟨"landing_page_type", "sale"⟩],
    [⟨"/sale", none, 5, 5, 0, 0, 0, 0⟩]⟩]

/-- The landing pages of visits from mails, where the filter is given twice. -/
def mailTwice : BreakdownQuery where
  tenantId := "acme"
  dimension := "landing_page_path"
  window := ⟨⟨2026, 1, 18, 6, 15, 0, 0, by decide, by decide⟩,
    ⟨2026, 1, 19, 6, 15, 0, 0, by decide, by decide⟩⟩
  baselineWindow := ⟨⟨2026, 1, 17, 6, 15, 0, 0, by decide, by decide⟩,
    ⟨2026, 1, 18, 6, 15, 0, 0, by decide, by decide⟩⟩
  filters := [⟨"utm_source", "mail"⟩, ⟨"utm_source", "mail"⟩]

/-- It is answered by the pages of the sale, which are canned for other filters. -/
theorem not_rowsOfFirst_mailTwice :
    mailToSale.source.breakdown [] mailTwice = .ok [⟨"/sale", none, 5, 5, 0, 0, 0, 0⟩] ∧
      ¬mailToSale.RowsOfFirst (·.IsFor mailTwice) [⟨"/sale", none, 5, 5, 0, 0, 0, 0⟩] := by
  have none : ∀ b ∈ mailToSale.breakdowns, ¬b.IsFor mailTwice :=
    List.forall_mem_singleton.2 fun h => absurd h.filters (by decide)
  refine ⟨rfl, fun first => ?_⟩
  cases first.nil_of_forall none

end Fixture

end RootCause
