import Mathlib.Data.List.Sort
import RootCause.Proofs.Breakdown.Published

/-!
The ranking as the one arrangement of a list by score. Entries are told apart by their places in
the list, so that of entries with one score, and even of equal ones, it is fixed which comes first,
and entries can be left out one by one.
-/

namespace RootCause

/-- Which of two scores may come first. -/
def RankOrder.Allows (order : RankOrder) (x y : Binary64) : Prop :=
  match order with
  | .desc => y.totalLe x
  | .asc => x.totalLe y

/-- All entries of a list, with their places in it, in the order of their scores. Entries with one
score are in the order of the list. -/
structure Arranges (rankBy : RankBy) (order : RankOrder) (entries : List Evidence)
    (placed : List (Evidence × Nat)) : Prop where
  perm : placed.Perm entries.zipIdx
  sorted : (placed.map fun e => e.1.score rankBy).Pairwise order.Allows
  stable : placed.Pairwise fun e f => e.1.score rankBy = f.1.score rankBy → e.2 < f.2

/-- The order of a ranking for entries with their places, which it does not regard. -/
def Evidence.PlacedBefore (rankBy : RankBy) (order : RankOrder) (e f : Evidence × Nat) : Prop :=
  e.1.RanksBefore rankBy order f.1

namespace Evidence

variable {rankBy : RankBy} {order : RankOrder}

theorem ranksBefore_iff (e f : Evidence) :
    e.RanksBefore rankBy order f ↔ order.Allows (e.score rankBy) (f.score rankBy) := by
  cases order <;> exact Iff.rfl

theorem RanksBefore.of_score_eq {e f : Evidence} (same : e.score rankBy = f.score rankBy) :
    e.RanksBefore rankBy order f := by
  rw [ranksBefore_iff, same, ← ranksBefore_iff]
  exact refl_of (RanksBefore rankBy order) f

instance : DecidableRel (PlacedBefore rankBy order) := fun e f =>
  inferInstanceAs (Decidable (e.1.RanksBefore rankBy order f.1))

instance : IsTrans (Evidence × Nat) (PlacedBefore rankBy order) where
  trans _ _ _ hef hfg := trans_of (RanksBefore rankBy order) hef hfg

instance : Std.Total (PlacedBefore rankBy order) where
  total e f := total_of (RanksBefore rankBy order) e.1 f.1

end Evidence

/-- A relation holds of elements in list order as far as it does so among those with one image. -/
theorem pairwise_of_filter {α β : Type} [DecidableEq β] {f : α → β} {r : α → α → Prop} {l : List α}
    (each : ∀ b, (l.filter (f · = b)).Pairwise r) : l.Pairwise fun x y => f x = f y → r x y := by
  induction l with
  | nil => exact .nil
  | cons x l ih =>
      refine List.pairwise_cons.2 ⟨?_, ih fun b => (each b).sublist ?_⟩
      · intro y member same
        have first := each (f x)
        rw [List.filter_cons, if_pos (decide_eq_true rfl)] at first
        exact List.rel_of_pairwise_cons first (List.mem_filter.2 ⟨member, decide_eq_true same.symm⟩)
      · exact (List.sublist_cons_self x l).filter _

section Places

variable (rankBy : RankBy) (order : RankOrder)

theorem map_fst_insertionSort (given : List (Evidence × Nat)) :
    (given.insertionSort (Evidence.PlacedBefore rankBy order)).map Prod.fst =
      rank rankBy order (given.map Prod.fst) := by
  rw [rank_eq_insertionSort]
  exact List.map_insertionSort _ _ _ _ fun _ _ _ _ => Iff.rfl

/-- Sorting by score does nothing to entries with one score. -/
theorem stable_insertionSort {given : List (Evidence × Nat)}
    (ascending : given.Pairwise (·.2 < ·.2)) :
    (given.insertionSort (Evidence.PlacedBefore rankBy order)).Pairwise
      fun e f => e.1.score rankBy = f.1.score rankBy → e.2 < f.2 := by
  refine pairwise_of_filter fun score => ?_
  have tied : (given.filter (·.1.score rankBy = score)).Pairwise
      (Evidence.PlacedBefore rankBy order) := by
    refine List.pairwise_of_forall_mem_list ?_
    intro e he f hf
    have scoreE := of_decide_eq_true (List.mem_filter.1 he).2
    have scoreF := of_decide_eq_true (List.mem_filter.1 hf).2
    exact .of_score_eq (scoreE.trans scoreF.symm)
  rw [filter_insertionSort, tied.insertionSort_eq]
  exact ascending.filter _

theorem pairwise_zipIdx (entries : List Evidence) : entries.zipIdx.Pairwise (·.2 < ·.2) := by
  have places : (entries.zipIdx.map Prod.snd).Pairwise (· < ·) := by
    rw [List.zipIdx_map_snd]
    exact List.pairwise_lt_range' 1
  exact List.pairwise_map.1 places

theorem arranges_insertionSort (entries : List Evidence) :
    Arranges rankBy order entries
      (entries.zipIdx.insertionSort (Evidence.PlacedBefore rankBy order)) where
  perm := List.perm_insertionSort _ _
  sorted := by
    rw [List.pairwise_map]
    exact (List.pairwise_insertionSort _ _).imp (Evidence.ranksBefore_iff _ _).1
  stable := stable_insertionSort rankBy order (pairwise_zipIdx entries)

variable {rankBy order}

/-- Score and place together leave no choice. -/
theorem Arranges.unique {entries : List Evidence} {placed placed' : List (Evidence × Nat)}
    (h : Arranges rankBy order entries placed) (h' : Arranges rankBy order entries placed') :
    placed = placed' := by
  refine List.Perm.eq_of_pairwise ?_ ((List.pairwise_map.1 h.sorted).and h.stable)
    ((List.pairwise_map.1 h'.sorted).and h'.stable) (h.perm.trans h'.perm.symm)
  rintro e f - - ⟨before, first⟩ ⟨after, second⟩
  have tied := ((Evidence.ranksBefore_iff _ _).2 before).score_eq
    ((Evidence.ranksBefore_iff _ _).2 after)
  exact absurd (first tied) (Nat.lt_asymm (second tied.symm))

end Places

section Missing

theorem Evidence.score_of_missing {e : Evidence} (missing : e.deltas.keyed e.baseMetric = none) :
    e.score .delta = .infinity true := by
  unfold SegmentDeltas.keyed at missing
  unfold Evidence.score Evidence.deltaScore
  cases base : e.baseMetric with
  | cvr | orders | sessions | atcRate =>
      rw [base] at missing
      dsimp only at missing ⊢
      rw [missing]
      rfl

theorem Binary64.not_totalLe_infinity {x : Binary64} (finite : x.isFinite) :
    ¬x.totalLe (.infinity true) := by
  have below : x.magnitude < infinityMagnitude := of_decide_eq_true finite
  have least : (infinity true).orderKey = -1 - (infinityMagnitude : Int) := rfl
  unfold totalLe
  rw [decide_eq_true_iff, least]
  unfold orderKey
  split <;> omega

/-- From the best score down, entries without the change that they are scored by come after all
that have a finite score. -/
theorem lt_of_missing {entries : List Evidence} {i j : Nat} {e f : Evidence}
    (he : (rank .delta .desc entries)[i]? = some e) (hf : (rank .delta .desc entries)[j]? = some f)
    (missing : e.deltas.keyed e.baseMetric = none) (finite : (f.score .delta).isFinite) :
    j < i := by
  have least := Evidence.score_of_missing missing
  obtain ⟨hi, rfl⟩ := List.getElem?_eq_some_iff.1 he
  obtain ⟨hj, rfl⟩ := List.getElem?_eq_some_iff.1 hf
  by_contra late
  rcases Nat.lt_or_eq_of_le (Nat.not_lt.1 late) with before | rfl
  · have allowed : (rank .delta .desc entries)[i].RanksBefore .delta .desc
        (rank .delta .desc entries)[j] :=
      List.pairwise_iff_getElem.1 (pairwise_rank .delta .desc entries) i j hi hj before
    rw [Evidence.ranksBefore_iff, least] at allowed
    exact Binary64.not_totalLe_infinity finite allowed
  · rw [least] at finite
    cases finite

end Missing

/-- A ranking is the one arrangement of its list, and leaving out entries leaves them out of it. A
list that is in the order of its scores stays as it is. -/
theorem rank_arranges_uniquely (rankBy : RankBy) (order : RankOrder) (entries : List Evidence) :
    (∃ placed, (∀ other, Arranges rankBy order entries other ↔ other = placed) ∧
      placed.map Prod.fst = rank rankBy order entries ∧
      ∀ kept : Evidence × Nat → Bool, (placed.filter kept).map Prod.fst =
        rank rankBy order ((entries.zipIdx.filter kept).map Prod.fst)) ∧
    rank rankBy order (rank rankBy order entries) = rank rankBy order entries ∧
    (∀ ranked : List Evidence, (ranked.map (·.score rankBy)).Pairwise order.Allows →
      rank rankBy order ranked = ranked) ∧
    ∀ (i j : Nat) (e f : Evidence), (rank .delta .desc entries)[i]? = some e →
      (rank .delta .desc entries)[j]? = some f → e.deltas.keyed e.baseMetric = none →
      (f.score .delta).isFinite → j < i := by
  have arranged := arranges_insertionSort rankBy order entries
  refine ⟨⟨_, fun other => ⟨fun h => h.unique arranged, fun same => same ▸ arranged⟩, ?_, ?_⟩,
    rank_eq_self (pairwise_rank rankBy order entries), ?_,
    fun i j e f he hf missing finite => lt_of_missing he hf missing finite⟩
  · rw [map_fst_insertionSort, List.zipIdx_map_fst]
  · intro kept
    rw [filter_insertionSort, map_fst_insertionSort]
  · intro ranked sorted
    exact rank_eq_self ((List.pairwise_map.1 sorted).imp (Evidence.ranksBefore_iff _ _).2)

end RootCause
