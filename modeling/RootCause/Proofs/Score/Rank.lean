import Mathlib.Data.List.Sort
import RootCause.Score.Rank

/-!
Ranked lists. Scores are compared in a total order, so a ranking is a stable sort: it can be built
by inserting one entry after another, and an entry that is repeated further on in a list is also
repeated further on in its ranking.
-/

namespace RootCause

namespace Binary64

theorem totalLe_trans {x y z : Binary64} (hxy : x.totalLe y) (hyz : y.totalLe z) :
    x.totalLe z := by
  unfold totalLe at hxy hyz ⊢
  exact decide_eq_true (Int.le_trans (of_decide_eq_true hxy) (of_decide_eq_true hyz))

theorem totalLe_total (x y : Binary64) : x.totalLe y ∨ y.totalLe x := by
  unfold totalLe
  rw [decide_eq_true_iff, decide_eq_true_iff]
  exact Int.le_total x.orderKey y.orderKey

theorem totalLe_antisymm {x y : Binary64} (hxy : x.totalLe y) (hyx : y.totalLe x) : x = y := by
  unfold totalLe at hxy hyx
  exact orderKey_inj (Int.le_antisymm (of_decide_eq_true hxy) (of_decide_eq_true hyx))

end Binary64

/-- The order of a ranking, as a relation. -/
def Evidence.RanksBefore (rankBy : RankBy) (order : RankOrder) (e f : Evidence) : Prop :=
  e.ranksBefore rankBy order f

namespace Evidence

variable {rankBy : RankBy} {order : RankOrder}

instance : DecidableRel (RanksBefore rankBy order) := fun e f =>
  inferInstanceAs (Decidable (e.ranksBefore rankBy order f = true))

instance : IsTrans Evidence (RanksBefore rankBy order) where
  trans e f g hef hfg := by
    cases order with
    | desc => exact Binary64.totalLe_trans hfg hef
    | asc => exact Binary64.totalLe_trans hef hfg

instance : Std.Total (RanksBefore rankBy order) where
  total e f := by
    cases order with
    | desc => exact Binary64.totalLe_total _ _
    | asc => exact Binary64.totalLe_total _ _

theorem RanksBefore.score_eq {e f : Evidence} (first : e.RanksBefore rankBy order f)
    (back : f.RanksBefore rankBy order e) : e.score rankBy = f.score rankBy := by
  cases order with
  | desc => exact Binary64.totalLe_antisymm back first
  | asc => exact Binary64.totalLe_antisymm first back

end Evidence

section Insertion

variable {α : Type} {r : α → α → Prop} [DecidableRel r]

theorem orderedInsert_append_of_mem {a b : α} {front : List α} (member : b ∈ front) (h : r a b)
    (back : List α) :
    (front ++ back).orderedInsert r a = front.orderedInsert r a ++ back := by
  induction front with
  | nil => cases member
  | cons e front ih =>
      rw [List.cons_append, List.orderedInsert_cons, List.orderedInsert_cons]
      by_cases first : r a e
      · rw [if_pos first, if_pos first]
        rfl
      · have later : b ∈ front :=
          (List.mem_cons.1 member).resolve_left fun same => first (same ▸ h)
        rw [if_neg first, if_neg first, ih later, List.cons_append]

theorem orderedInsert_append_of_forall_not {a : α} {front : List α} (h : ∀ b ∈ front, ¬r a b)
    (back : List α) : (front ++ back).orderedInsert r a = front ++ back.orderedInsert r a := by
  induction front with
  | nil => rfl
  | cons e front ih =>
      obtain ⟨first, later⟩ := List.forall_mem_cons.1 h
      rw [List.cons_append, List.orderedInsert_cons, if_neg first, ih later, List.cons_append]

theorem orderedInsert_of_pairwise {a : α} {l : List α} (h : (a :: l).Pairwise r) :
    l.orderedInsert r a = a :: l := by
  cases l with
  | nil => rfl
  | cons b l =>
      exact List.orderedInsert_cons_of_le r l (List.rel_of_pairwise_cons h List.mem_cons_self)

theorem filter_orderedInsert_of_neg {p : α → Bool} {a : α} (h : ¬p a) (l : List α) :
    (l.orderedInsert r a).filter p = l.filter p := by
  induction l with
  | nil => rw [List.orderedInsert_nil, List.filter_cons_of_neg h]
  | cons b l ih =>
      rw [List.orderedInsert_cons]
      split
      · exact List.filter_cons_of_neg h
      · rw [List.filter_cons, List.filter_cons, ih]

variable [IsTrans α r]

theorem filter_orderedInsert_of_pos {p : α → Bool} {a : α} (h : p a) {l : List α}
    (sorted : l.Pairwise r) :
    (l.orderedInsert r a).filter p = (l.filter p).orderedInsert r a := by
  induction l with
  | nil => rw [List.orderedInsert_nil, List.filter_cons_of_pos h, List.filter_nil,
      List.orderedInsert_nil]
  | cons b l ih =>
      obtain ⟨above, sortedRest⟩ := List.pairwise_cons.1 sorted
      rw [List.orderedInsert_cons]
      by_cases le : r a b
      · -- What `a` may stand before is still behind it when some of it is left out.
        have ordered : (a :: b :: l).Pairwise r := by
          rw [List.pairwise_cons, List.forall_mem_cons]
          exact ⟨⟨le, fun c member => trans_of r le (above c member)⟩, sorted⟩
        have kept := ordered.filter p
        rw [List.filter_cons_of_pos h] at kept
        rw [if_pos le, List.filter_cons_of_pos h, orderedInsert_of_pairwise kept]
      · rw [if_neg le, List.filter_cons, List.filter_cons, ih sortedRest]
        split
        · rw [List.orderedInsert_cons, if_neg le]
        · rfl

variable [Std.Total r]

/-- A stable sort of some of the elements leaves them in the order that they have among all. -/
theorem filter_insertionSort (p : α → Bool) (l : List α) :
    (l.insertionSort r).filter p = (l.filter p).insertionSort r := by
  induction l with
  | nil => rfl
  | cons a l ih =>
      rw [List.insertionSort_cons]
      by_cases kept : p a
      · rw [filter_orderedInsert_of_pos kept (List.pairwise_insertionSort r l), ih,
          List.filter_cons_of_pos kept, List.insertionSort_cons]
      · rw [filter_orderedInsert_of_neg kept, ih, List.filter_cons_of_neg kept]

/-- Sorting with an element left out leaves out its place. What stands before it and may do so
stays before it. -/
theorem insertionSort_append_cons (front back : List α) (x : α) :
    ∃ before behind, (front ++ x :: back).insertionSort r = before ++ x :: behind ∧
      (front ++ back).insertionSort r = before ++ behind ∧
      ∀ e ∈ front, r e x → e ∈ before := by
  induction front with
  | nil =>
      have placed := List.orderedInsert_eq_take_drop r x (back.insertionSort r)
      refine ⟨_, _, placed, (List.takeWhile_append_dropWhile ..).symm, ?_⟩
      intro e member
      cases member
  | cons a front ih =>
      obtain ⟨before, behind, sorted, without, kept⟩ := ih
      rw [List.cons_append, List.cons_append, List.insertionSort_cons, List.insertionSort_cons,
        sorted, without]
      -- `a` finds its place among those before `x`, or it gets as far as `x` in both lists.
      by_cases early : ∃ b ∈ before, r a b
      · obtain ⟨b, member, le⟩ := early
        refine ⟨before.orderedInsert r a, behind, orderedInsert_append_of_mem member le _,
          orderedInsert_append_of_mem member le _, ?_⟩
        intro e he hx
        rw [List.mem_orderedInsert]
        exact (List.mem_cons.1 he).imp_right fun later => kept e later hx
      · have late : ∀ b ∈ before, ¬r a b := fun b member le => early ⟨b, member, le⟩
        rw [orderedInsert_append_of_forall_not late, orderedInsert_append_of_forall_not late,
          List.orderedInsert_cons]
        -- Without `x`, what comes behind it is what stops `a`, since `a` precedes that as well.
        by_cases le : r a x
        · have ordered := List.pairwise_insertionSort r (front ++ x :: back)
          rw [sorted] at ordered
          obtain ⟨above, sortedBehind⟩ := List.pairwise_cons.1 (List.pairwise_append.1 ordered).2.1
          have next : behind.orderedInsert r a = a :: behind := by
            refine orderedInsert_of_pairwise (List.pairwise_cons.2 ⟨?_, sortedBehind⟩)
            intro b member
            exact trans_of r le (above b member)
          refine ⟨before ++ [a], behind, ?_, ?_, ?_⟩
          · rw [if_pos le, List.append_assoc]
            rfl
          · rw [next, List.append_assoc]
            rfl
          · intro e he hx
            rw [List.mem_append, List.mem_singleton]
            rcases List.mem_cons.1 he with same | later
            · exact .inr same
            · exact .inl (kept e later hx)
        · refine ⟨before, behind.orderedInsert r a, ?_, rfl, ?_⟩
          · rw [if_neg le]
          · intro e he hx
            rcases List.mem_cons.1 he with rfl | later
            · exact absurd hx le
            · exact kept e later hx

/-- A list in which some elements are repeated further on, any number of times. -/
inductive Repeating {α : Type} (l : List α) : List α → Prop
  | same : Repeating l l
  | again {front back : List α} {x : α} (before : Repeating l (front ++ back))
      (earlier : x ∈ front) : Repeating l (front ++ x :: back)

namespace Repeating

variable {l l' : List α}

theorem append_left (h : Repeating l l') (first : List α) :
    Repeating (first ++ l) (first ++ l') := by
  induction h with
  | same => exact .same
  | @again front back x before earlier ih =>
      rw [← List.append_assoc] at ih ⊢
      exact .again ih (List.mem_append_right first earlier)

/-- Elements of a list may follow it once more. -/
theorem append_subset {first again : List α} (h : Repeating l (first ++ l'))
    (earlier : again ⊆ first) : Repeating l (first ++ again ++ l') := by
  induction again with
  | nil =>
      rw [List.append_nil]
      exact h
  | cons x again ih =>
      obtain ⟨known, others⟩ := List.cons_subset.1 earlier
      have before := ih others
      rw [List.append_assoc] at before ⊢
      exact .again before known

/-- A stable sort keeps repetitions behind what they repeat. -/
theorem insertionSort (h : Repeating l l') :
    Repeating (l.insertionSort r) (l'.insertionSort r) := by
  induction h with
  | same => exact .same
  | @again front back x before earlier ih =>
      obtain ⟨early, late, sorted, without, kept⟩ := insertionSort_append_cons (r := r) front back x
      rw [without] at ih
      rw [sorted]
      exact .again ih (kept x earlier (refl_of r x))

end Repeating

end Insertion

section Rank

variable (rankBy : RankBy) (order : RankOrder)

theorem rank_perm (entries : List Evidence) : (rank rankBy order entries).Perm entries :=
  List.mergeSort_perm entries _

theorem ranksBefore_trans (e f g : Evidence) (hef : e.ranksBefore rankBy order f)
    (hfg : f.ranksBefore rankBy order g) : e.ranksBefore rankBy order g :=
  trans_of (Evidence.RanksBefore rankBy order) hef hfg

theorem ranksBefore_total (e f : Evidence) :
    e.ranksBefore rankBy order f || f.ranksBefore rankBy order e :=
  Bool.or_eq_true_iff.2 (total_of (Evidence.RanksBefore rankBy order) e f)

theorem pairwise_rank (entries : List Evidence) :
    (rank rankBy order entries).Pairwise (Evidence.RanksBefore rankBy order) :=
  List.pairwise_mergeSort (ranksBefore_trans rankBy order) (ranksBefore_total rankBy order) entries

theorem rank_eq_self {rankBy : RankBy} {order : RankOrder} {entries : List Evidence}
    (sorted : entries.Pairwise (Evidence.RanksBefore rankBy order)) :
    rank rankBy order entries = entries :=
  List.mergeSort_of_pairwise sorted

/-- A ranking can be built by inserting one entry after another. -/
theorem rank_eq_insertionSort (entries : List Evidence) :
    rank rankBy order entries =
      entries.insertionSort (Evidence.RanksBefore rankBy order) := by
  induction entries with
  | nil => exact List.mergeSort_nil
  | cons e entries ih =>
      obtain ⟨before, behind, sorted, without, first⟩ := List.mergeSort_cons
        (ranksBefore_trans rankBy order) (ranksBefore_total rankBy order) e entries
      have ordered := pairwise_rank rankBy order (e :: entries)
      unfold rank at ih ordered ⊢
      rw [sorted] at ordered ⊢
      have below : ∀ f ∈ before, ¬Evidence.RanksBefore rankBy order e f := fun f member =>
        Bool.eq_false_iff.1 (Bool.not_inj (first f member))
      rw [List.insertionSort_cons, ← ih, without, orderedInsert_append_of_forall_not below,
        orderedInsert_of_pairwise (List.pairwise_append.1 ordered).2.1]

theorem filter_rank (p : Evidence → Bool) (entries : List Evidence) :
    (rank rankBy order entries).filter p = rank rankBy order (entries.filter p) := by
  rw [rank_eq_insertionSort, rank_eq_insertionSort, filter_insertionSort]

theorem Repeating.rank {entries entries' : List Evidence} (h : Repeating entries entries') :
    Repeating (rank rankBy order entries) (rank rankBy order entries') := by
  rw [rank_eq_insertionSort, rank_eq_insertionSort]
  exact h.insertionSort

/-- Entries without a tie have one ranking, whatever order they come in. -/
theorem rank_eq_of_perm {entries entries' : List Evidence} (h : entries.Perm entries')
    (untied : (entries.map (·.score rankBy)).Nodup) :
    rank rankBy order entries = rank rankBy order entries' := by
  have ranked := rank_perm rankBy order entries
  have ranked' := rank_perm rankBy order entries'
  refine List.Perm.eq_of_pairwise ?_ (pairwise_rank rankBy order entries)
    (pairwise_rank rankBy order entries') ((ranked.trans h).trans ranked'.symm)
  intro e f member member' first back
  exact List.inj_on_of_nodup_map untied (ranked.mem_iff.1 member)
    (h.mem_iff.2 (ranked'.mem_iff.1 member')) (first.score_eq back)

end Rank

end RootCause
