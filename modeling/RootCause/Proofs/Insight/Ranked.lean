import Mathlib.Data.Finset.Card
import RootCause.Proofs.Insight.Selection

/-!
The segments that an insight names: of the first entries of distinct segments up to four, in the
order of the ranking, but the first product leads.
-/

namespace RootCause

namespace Evidence

/-- What an entry is about, at any depth. -/
def segment (e : Evidence) : String × String := (e.dimension, e.value)

theorem sameSegment_iff (e f : Evidence) : e.sameSegment f ↔ e.segment = f.segment := by
  unfold sameSegment segment
  rw [Bool.and_eq_true, beq_iff_eq, beq_iff_eq, Prod.mk.injEq]

end Evidence

/-- The first entry of each segment, in list order. -/
def firstOfEach (entries : List Evidence) : List Evidence :=
  entries.eraseDupsBy Evidence.sameSegment

section FirstOfEach

theorem firstOfEach_nil : firstOfEach [] = [] := rfl

theorem firstOfEach_cons_filter (e : Evidence) (rest : List Evidence) :
    firstOfEach (e :: rest) = e :: firstOfEach (rest.filter (·.segment ≠ e.segment)) := by
  unfold firstOfEach
  rw [List.eraseDupsBy_cons]
  congr 2
  apply List.filter_congr
  intro f _
  simp only [ne_eq, ← Evidence.sameSegment_iff, Bool.not_eq_true]

/-- Segments can be left out before or after. -/
theorem firstOfEach_filter {p : Evidence → Bool}
    (whole : ∀ e f : Evidence, e.segment = f.segment → p e = p f) (entries : List Evidence) :
    firstOfEach (entries.filter p) = (firstOfEach entries).filter p := by
  induction hlength : entries.length using Nat.strongRecOn generalizing entries with
  | ind length ih =>
      cases entries with
      | nil => rfl
      | cons e rest =>
          have shorter : (rest.filter (·.segment ≠ e.segment)).length < length := by
            rw [← hlength]
            exact Nat.lt_succ_of_le (List.length_filter_le ..)
          have others := ih _ shorter (rest.filter (·.segment ≠ e.segment)) rfl
          rw [firstOfEach_cons_filter]
          by_cases kept : p e
          · rw [List.filter_cons_of_pos kept, List.filter_cons_of_pos kept,
              firstOfEach_cons_filter, ← others, List.filter_comm]
          · -- What is kept is about other segments than the first entry.
            have apart : (rest.filter p).filter (·.segment ≠ e.segment) = rest.filter p := by
              rw [List.filter_eq_self]
              intro f member
              refine decide_eq_true fun same => kept ?_
              rw [← whole f e same]
              exact (List.mem_filter.1 member).2
            rw [List.filter_cons_of_neg kept, List.filter_cons_of_neg kept, ← others,
              List.filter_comm, apart]

theorem firstOfEach_cons (e : Evidence) (rest : List Evidence) :
    firstOfEach (e :: rest) = e :: (firstOfEach rest).filter (·.segment ≠ e.segment) := by
  rw [firstOfEach_cons_filter, firstOfEach_filter]
  intro f g same
  rw [same]

theorem mem_firstOfEach_iff {entries : List Evidence} {e : Evidence} :
    e ∈ firstOfEach entries ↔ entries.find? (·.segment = e.segment) = some e := by
  induction entries with
  | nil => simp [firstOfEach_nil]
  | cons f rest ih =>
      rw [firstOfEach_cons, List.mem_cons, List.mem_filter, ih, List.find?_cons]
      by_cases same : f.segment = e.segment
      · rw [decide_eq_true same]
        constructor
        · rintro (rfl | ⟨-, other⟩)
          · rfl
          · exact absurd same.symm (of_decide_eq_true other)
        · intro first
          exact .inl (Option.some.inj first).symm
      · rw [decide_eq_false same]
        constructor
        · rintro (rfl | ⟨found, -⟩)
          · exact absurd rfl same
          · exact found
        · intro found
          exact .inr ⟨found, decide_eq_true (Ne.symm same)⟩

theorem notMem_segments_filter (e : Evidence) (entries : List Evidence) :
    e.segment ∉ (entries.filter (·.segment ≠ e.segment)).map Evidence.segment := by
  intro repeated
  obtain ⟨f, member, same⟩ := List.mem_map.1 repeated
  exact of_decide_eq_true (List.mem_filter.1 member).2 same

theorem nodup_segments_firstOfEach (entries : List Evidence) :
    ((firstOfEach entries).map Evidence.segment).Nodup := by
  induction entries with
  | nil => exact List.nodup_nil
  | cons e rest ih =>
      rw [firstOfEach_cons, List.map_cons, List.nodup_cons]
      exact ⟨notMem_segments_filter e _, ih.sublist (List.filter_sublist.map _)⟩

theorem exists_first_of_mem {entries : List Evidence} {e : Evidence} (member : e ∈ entries) :
    ∃ f ∈ firstOfEach entries, f.segment = e.segment := by
  obtain ⟨f, found⟩ := Option.isSome_iff_exists.1
    (List.find?_isSome (p := (·.segment = e.segment)).2 ⟨e, member, decide_eq_true rfl⟩)
  have about : f.segment = e.segment := by simpa using List.find?_some found
  rw [← about] at found
  exact ⟨f, mem_firstOfEach_iff.2 found, about⟩

theorem card_segments (entries : List Evidence) :
    (entries.map Evidence.segment).toFinset.card = (firstOfEach entries).length := by
  have same : (entries.map Evidence.segment).toFinset =
      ((firstOfEach entries).map Evidence.segment).toFinset := by
    ext s
    simp only [List.mem_toFinset, List.mem_map]
    constructor
    · rintro ⟨e, member, rfl⟩
      exact exists_first_of_mem member
    · rintro ⟨e, member, rfl⟩
      exact ⟨e, List.mem_of_find?_eq_some (mem_firstOfEach_iff.1 member), rfl⟩
  rw [same, List.toFinset_card_of_nodup (nodup_segments_firstOfEach entries), List.length_map]

/-- All segments but one. -/
theorem length_firstOfEach_filter {entries : List Evidence} {e : Evidence}
    (member : e ∈ firstOfEach entries) :
    ((firstOfEach entries).filter (·.segment ≠ e.segment)).length + 1 =
      (firstOfEach entries).length := by
  have once := List.count_eq_one_of_mem (nodup_segments_firstOfEach entries)
    (List.mem_map_of_mem member)
  rw [List.count_eq_countP, List.countP_map] at once
  have parts := List.length_eq_countP_add_countP (fun f => f.segment == e.segment)
    (l := firstOfEach entries)
  rw [← List.countP_eq_length_filter, parts, Nat.add_comm]
  congr 1
  · exact once.symm
  · simp

end FirstOfEach

theorem any_sameSegment_iff {picked : List Evidence} {e : Evidence} :
    picked.any (·.sameSegment e) ↔ e.segment ∈ picked.map Evidence.segment := by
  simp only [List.any_eq_true, Evidence.sameSegment_iff, List.mem_map]

/-- What is picked from a list: first entries of segments that are not yet picked. -/
theorem pickDistinct_eq_take (picked entries : List Evidence) :
    pickDistinct picked entries = picked ++
      ((firstOfEach entries).filter (·.segment ∉ picked.map Evidence.segment)).take
        (rankedSlots - picked.length) := by
  induction entries generalizing picked with
  | nil => simp [pickDistinct, firstOfEach_nil]
  | cons e rest ih =>
      rw [firstOfEach_cons]
      by_cases settled : Settled picked e
      · rw [pickDistinct_cons_of_settled settled, ih]
        rcases settled with full | known
        · rw [Nat.sub_eq_zero_of_le full, List.take_zero, List.take_zero]
        · have about := any_sameSegment_iff.1 known
          rw [List.filter_cons_of_neg (by simpa using about), List.filter_filter]
          congr 2
          apply List.filter_congr
          intro f _
          by_cases same : f.segment = e.segment
          · simp [same, about]
          · simp [same]
      · rw [pickDistinct_cons_of_not_settled settled, ih]
        unfold Settled at settled
        rw [any_sameSegment_iff, not_or, Nat.not_le] at settled
        obtain ⟨room, fresh⟩ := settled
        obtain ⟨left, slots⟩ : ∃ left, rankedSlots - picked.length = left + 1 :=
          ⟨_, (Nat.succ_pred_eq_of_pos (Nat.sub_pos_of_lt room)).symm⟩
        have others : rankedSlots - (picked ++ [e]).length = left := by
          rw [List.length_append, List.length_singleton]
          omega
        rw [slots, others, List.filter_cons_of_pos (by simpa using fresh), List.take_succ_cons,
          List.append_assoc, List.singleton_append, List.filter_filter]
        congr 3
        apply List.filter_congr
        intro f _
        simp [Bool.and_comm]

section Selection

variable {scored : List Evidence} {p : Evidence}

theorem selectRanked_of_noProduct (none : scored.find? (·.dimension == productDimension) = none) :
    selectRanked scored = (firstOfEach scored).take 4 := by
  unfold selectRanked
  rw [none, pickDistinct_eq_take]
  simp [rankedSlots]

theorem selectRanked_of_product
    (first : scored.find? (·.dimension == productDimension) = some p) :
    selectRanked scored = p :: ((firstOfEach scored).filter (·.segment ≠ p.segment)).take 3 := by
  unfold selectRanked
  rw [first, pickDistinct_eq_take]
  simp [rankedSlots]

/-- The first product is the first entry of its segment: no other value comes before it that is
about a product. -/
theorem mem_firstOfEach_of_product
    (first : scored.find? (·.dimension == productDimension) = some p) : p ∈ firstOfEach scored := by
  rw [mem_firstOfEach_iff]
  obtain ⟨product, front, back, rfl, before⟩ := List.find?_eq_some_iff_append.1 first
  refine List.find?_eq_some_iff_append.2 ⟨decide_eq_true rfl, front, back, rfl, ?_⟩
  intro e member
  have other := before e member
  rw [Bool.not_eq_true'] at other ⊢
  refine decide_eq_false fun same => ?_
  rw [show e.dimension = p.dimension from congrArg Prod.fst same, product] at other
  cases other

theorem selectRanked_subset : selectRanked scored ⊆ firstOfEach scored := by
  intro e member
  cases first : scored.find? (·.dimension == productDimension) with
  | none =>
      rw [selectRanked_of_noProduct first] at member
      exact List.mem_of_mem_take member
  | some p =>
      rw [selectRanked_of_product first] at member
      rcases List.mem_cons.1 member with rfl | other
      · exact mem_firstOfEach_of_product first
      · exact (List.mem_filter.1 (List.mem_of_mem_take other)).1

theorem nodup_segments_selectRanked (scored : List Evidence) :
    ((selectRanked scored).map Evidence.segment).Nodup := by
  have all := nodup_segments_firstOfEach scored
  cases first : scored.find? (·.dimension == productDimension) with
  | none =>
      rw [selectRanked_of_noProduct first]
      exact all.sublist ((List.take_sublist ..).map _)
  | some p =>
      have cut := List.take_sublist 3 ((firstOfEach scored).filter (·.segment ≠ p.segment))
      rw [selectRanked_of_product first, List.map_cons, List.nodup_cons]
      exact ⟨fun repeated => notMem_segments_filter p _ ((cut.map _).subset repeated),
        all.sublist ((cut.trans List.filter_sublist).map _)⟩

theorem length_selectRanked (scored : List Evidence) :
    (selectRanked scored).length = min 4 (scored.map Evidence.segment).toFinset.card := by
  rw [card_segments]
  cases first : scored.find? (·.dimension == productDimension) with
  | none => rw [selectRanked_of_noProduct first, List.length_take]
  | some p =>
      have others := length_firstOfEach_filter (mem_firstOfEach_of_product first)
      rw [selectRanked_of_product first, List.length_cons, List.length_take]
      omega

theorem head?_selectRanked (scored : List Evidence) :
    (selectRanked scored).head? =
      (scored.find? (·.dimension == productDimension)).or scored.head? := by
  cases first : scored.find? (·.dimension == productDimension) with
  | none =>
      rw [selectRanked_of_noProduct first]
      cases scored with
      | nil => rfl
      | cons e rest =>
          rw [firstOfEach_cons]
          rfl
  | some p =>
      rw [selectRanked_of_product first]
      rfl

/-- What comes first of its segment in a ranking scores best of it. -/
theorem ranksBefore_of_first {rankBy : RankBy} {order : RankOrder}
    (sorted : scored.Pairwise (Evidence.RanksBefore rankBy order)) {e f : Evidence}
    (first : e ∈ firstOfEach scored) (member : f ∈ scored) (same : f.segment = e.segment) :
    e.RanksBefore rankBy order f := by
  obtain ⟨-, front, back, rfl, before⟩ :=
    List.find?_eq_some_iff_append.1 (mem_firstOfEach_iff.1 first)
  rcases List.mem_append.1 member with early | here
  · have other := before f early
    simp [same] at other
  · rcases List.mem_cons.1 here with rfl | late
    · exact refl_of (Evidence.RanksBefore rankBy order) f
    · exact List.rel_of_pairwise_cons (List.pairwise_append.1 sorted).2.1 late

end Selection

/-- What is selected of a list, segment by segment: the first entry of each, and no other entry of
the segment scores better. The first product leads, and the others follow in list order. -/
structure SelectedFrom (scored selected : List Evidence) : Prop where
  distinct : (selected.map Evidence.segment).Nodup
  count : selected.length = min 4 (scored.map Evidence.segment).toFinset.card
  first : ∀ e ∈ selected, scored.find? (·.segment = e.segment) = some e
  best : ∀ e ∈ selected, ∀ f ∈ scored, f.segment = e.segment →
    f.deltaScore.totalLe e.deltaScore
  product : ∀ p, scored.find? (·.dimension == productDimension) = some p →
    selected = p :: ((firstOfEach scored).filter (·.segment ≠ p.segment)).take 3
  noProduct : scored.find? (·.dimension == productDimension) = none →
    selected = (firstOfEach scored).take 4

/-- The segments that an insight names of a ranking. -/
theorem selectedFrom_of_sorted {scored : List Evidence}
    (sorted : scored.Pairwise (Evidence.RanksBefore .delta .desc)) :
    SelectedFrom scored (selectRanked scored) where
  distinct := nodup_segments_selectRanked scored
  count := length_selectRanked scored
  first _ member := mem_firstOfEach_iff.1 (selectRanked_subset member)
  best _ member _ given same :=
    ranksBefore_of_first sorted (selectRanked_subset member) given same
  product _ first := selectRanked_of_product first
  noProduct none := selectRanked_of_noProduct none

/-- A segment with a change of its sessions in percent. -/
def Evidence.ofSessions (dimension value : String) (change : Int) : Evidence where
  dimension := dimension
  value := value
  displayValue := value
  depth := 0
  current := ⟨10, 900, 0, none, none⟩
  baseline := ⟨20, 1000, 0, none, none⟩
  deltas := ⟨none, none, none, none, some (.ofInt change)⟩
  sessionShare := .zero false
  orderShare := .zero false
  baselineSessionShare := .zero false
  baselineOrderShare := .zero false
  baseMetric := .sessions

/-- Five segments, of which one is there twice and the product comes last. -/
def fiveSegments : List Evidence := [
  .ofSessions "utm_source" "google" (-50),
  .ofSessions "utm_source" "google" (-45),
  .ofSessions "landing_page_path" "/sale" (-40),
  .ofSessions "utm_source" "meta" (-30),
  .ofSessions "utm_source" "tiktok" (-20),
  .ofSessions productDimension "42" (-5)]

theorem selectedFrom_fiveSegments :
    fiveSegments.Pairwise (Evidence.RanksBefore .delta .desc) ∧
    SelectedFrom fiveSegments (selectRanked fiveSegments) ∧
    (selectRanked fiveSegments).map (·.value) = ["42", "google", "/sale", "meta"] := by
  have sorted : fiveSegments.Pairwise (Evidence.RanksBefore .delta .desc) := by decide +kernel
  exact ⟨sorted, selectedFrom_of_sorted sorted, by decide +kernel⟩

end RootCause
