import Mathlib.Data.List.Induction
import RootCause.Proofs.Binary64.Interval
import RootCause.Proofs.Breakdown.Published

/-!
One entry for each segment and depth. Deduplication has a slot where each of them first occurs, and
of the entries that belong there it holds the first one with the largest session share.
-/

namespace RootCause

section Occurrences

variable {α : Type} [DecidableEq α] {l firsts : List α} {a : α}

/-- The elements of a list, each of them once, in the order in which they first occur. -/
structure FirstOccurrences (l firsts : List α) : Prop where
  distinct : firsts.Nodup
  mem_iff : ∀ a, a ∈ firsts ↔ a ∈ l
  inOrder : firsts.Pairwise fun a b => l.idxOf a < l.idxOf b

namespace FirstOccurrences

/-- What is added to a list comes after what is there. -/
theorem inOrder_append (h : FirstOccurrences l firsts) (more : List α) :
    firsts.Pairwise fun a b => (l ++ more).idxOf a < (l ++ more).idxOf b := by
  refine h.inOrder.imp_of_mem fun {a b} hasA hasB earlier => ?_
  rwa [List.idxOf_append_of_mem ((h.mem_iff a).1 hasA),
    List.idxOf_append_of_mem ((h.mem_iff b).1 hasB)]

theorem append_of_mem (h : FirstOccurrences l firsts) (known : a ∈ l) :
    FirstOccurrences (l ++ [a]) firsts where
  distinct := h.distinct
  mem_iff b := by
    rw [h.mem_iff, List.mem_append, List.mem_singleton]
    constructor
    · exact .inl
    · rintro (here | rfl)
      · exact here
      · exact known
  inOrder := h.inOrder_append [a]

theorem append_of_notMem (h : FirstOccurrences l firsts) (new : a ∉ l) :
    FirstOccurrences (l ++ [a]) (firsts ++ [a]) where
  distinct := by
    rw [List.nodup_append_comm]
    exact List.nodup_cons.2 ⟨fun here => new ((h.mem_iff a).1 here), h.distinct⟩
  mem_iff b := by rw [List.mem_append, List.mem_append, h.mem_iff]
  inOrder := by
    refine List.pairwise_append.2 ⟨h.inOrder_append [a], List.pairwise_singleton _ a, ?_⟩
    intro b here c last
    have known := (h.mem_iff b).1 here
    cases List.mem_singleton.1 last
    rw [List.idxOf_append_of_mem known, List.idxOf_append_of_notMem new]
    exact Nat.lt_add_right _ (List.idxOf_lt_length_of_mem known)

end FirstOccurrences

end Occurrences

/-- The entry has the largest session share of its slot in a list, and it is the first one that
has it. -/
def Evidence.LeadsSlot (entries : List Evidence) (e : Evidence) : Prop :=
  ∃ before behind, entries = before ++ e :: behind ∧
    (∀ f ∈ before, f.slot = e.slot → f.sessionShare.lt e.sessionShare) ∧
    ∀ f ∈ behind, f.slot = e.slot → f.sessionShare.le e.sessionShare

namespace Evidence.LeadsSlot

variable {entries : List Evidence} {e f : Evidence}

theorem mem (h : e.LeadsSlot entries) : e ∈ entries := by
  obtain ⟨before, behind, rfl, -, -⟩ := h
  exact List.mem_append_right before List.mem_cons_self

theorem le (h : e.LeadsSlot entries) (number : e.sessionShare.isNaN = false) (member : f ∈ entries)
    (same : f.slot = e.slot) : f.sessionShare.le e.sessionShare := by
  obtain ⟨before, behind, rfl, smaller, noLarger⟩ := h
  rcases List.mem_append.1 member with early | here
  · exact Binary64.le_of_lt (smaller f early same)
  · rcases List.mem_cons.1 here with rfl | late
    · exact Binary64.le_refl number
    · exact noLarger f late same

/-- An entry goes on to lead its slot when one comes that does not have a larger share. -/
theorem append (h : e.LeadsSlot entries)
    (noLarger : f.slot = e.slot → f.sessionShare.le e.sessionShare) :
    e.LeadsSlot (entries ++ [f]) := by
  obtain ⟨before, behind, rfl, smaller, others⟩ := h
  refine ⟨before, behind ++ [f], List.append_assoc .., smaller, ?_⟩
  intro g late
  rcases List.mem_append.1 late with here | last
  · exact others g here
  · cases List.mem_singleton.1 last
    exact noLarger

/-- An entry takes the lead when all of its slot have smaller shares. -/
theorem of_last (smaller : ∀ f ∈ entries, f.slot = e.slot → f.sessionShare.lt e.sessionShare) :
    e.LeadsSlot (entries ++ [e]) :=
  ⟨entries, [], rfl, smaller, fun f none => by cases none⟩

end Evidence.LeadsSlot

section KeepLarger

variable {e f : Evidence} {out : List Evidence}

/-- An entry comes in only with a larger share than what its slot holds, and nothing else goes. -/
theorem keepLarger_cases (distinct : (out.map Evidence.slot).Nodup) (h : f ∈ keepLarger e out) :
    (f = e ∧ ∀ g ∈ out, g.slot = e.slot → g.sessionShare.lt e.sessionShare) ∨
      f ∈ out ∧ (e.slot = f.slot → ¬f.sessionShare.lt e.sessionShare) := by
  induction out with
  | nil =>
      refine .inl ⟨List.mem_singleton.1 h, ?_⟩
      intro g none
      cases none
  | cons g rest ih =>
      rw [List.map_cons, List.nodup_cons] at distinct
      rw [keepLarger_cons] at h
      by_cases same : e.sameSlot g
      · -- No entry behind it shares the slot.
        have others : ∀ f ∈ rest, f.slot ≠ e.slot := by
          intro f later shared
          rw [(e.sameSlot_iff g).1 same] at shared
          exact distinct.1 (shared ▸ List.mem_map_of_mem later)
        rw [if_pos same] at h
        rcases List.mem_cons.1 h with here | later
        · split at here
          · next smaller =>
            refine .inl ⟨here, List.forall_mem_cons.2 ⟨fun _ => smaller, ?_⟩⟩
            intro f later shared
            exact absurd shared (others f later)
          · next noLarger => exact .inr ⟨here ▸ List.mem_cons_self, fun _ => here ▸ noLarger⟩
        · exact .inr ⟨List.mem_cons_of_mem g later, fun shared =>
            absurd shared.symm (others f later)⟩
      · have other : e.slot ≠ g.slot := mt (e.sameSlot_iff g).2 same
        rw [if_neg same] at h
        rcases List.mem_cons.1 h with rfl | later
        · exact .inr ⟨List.mem_cons_self, fun shared => absurd shared other⟩
        · rcases ih distinct.2 later with ⟨rfl, smaller⟩ | ⟨kept, noLarger⟩
          · exact .inl ⟨rfl, List.forall_mem_cons.2
              ⟨fun shared => absurd shared.symm other, smaller⟩⟩
          · exact .inr ⟨List.mem_cons_of_mem g kept, noLarger⟩

end KeepLarger

theorem dedupe_concat (entries : List Evidence) (e : Evidence) :
    dedupe (entries ++ [e]) = keepLarger e (dedupe entries) := by
  rw [dedupe_eq_foldl, dedupe_eq_foldl, List.foldl_concat]

/-- Entries of distinct slots keep their places. -/
theorem dedupe_eq_self {entries : List Evidence}
    (distinct : (entries.map Evidence.slot).Nodup) : dedupe entries = entries := by
  induction entries using List.reverseRecOn with
  | nil => rfl
  | append_singleton seen e ih =>
      rw [List.map_append, List.map_singleton, List.nodup_append_comm, List.singleton_append,
        List.nodup_cons] at distinct
      rw [dedupe_concat, ih distinct.2, keepLarger_of_free distinct.1]

section Steps

variable {seen kept : List Evidence} {e f : Evidence}

theorem FirstOccurrences.keepLarger
    (h : FirstOccurrences (seen.map Evidence.slot) (kept.map Evidence.slot)) (e : Evidence) :
    FirstOccurrences ((seen ++ [e]).map Evidence.slot)
      ((keepLarger e kept).map Evidence.slot) := by
  rw [slots_keepLarger, List.map_append]
  split
  · next taken => exact h.append_of_mem ((h.mem_iff _).1 taken)
  · next free => exact h.append_of_notMem (mt (h.mem_iff _).2 free)

/-- Whatever the shares are, the slots come in the order in which they first occur. -/
theorem firstOccurrences_dedupe (entries : List Evidence) :
    FirstOccurrences (entries.map Evidence.slot) ((dedupe entries).map Evidence.slot) := by
  induction entries using List.reverseRecOn with
  | nil => exact ⟨List.nodup_nil, fun _ => Iff.rfl, .nil⟩
  | append_singleton seen e ih =>
      rw [dedupe_concat]
      exact ih.keepLarger e

/-- If each slot holds what leads it, then it does so with one more entry. -/
theorem leadsSlot_of_mem_keepLarger
    (slots : FirstOccurrences (seen.map Evidence.slot) (kept.map Evidence.slot))
    (leads : ∀ f ∈ kept, f.LeadsSlot seen)
    (numbers : ∀ f ∈ seen ++ [e], f.sessionShare.isNaN = false) (member : f ∈ keepLarger e kept) :
    f.LeadsSlot (seen ++ [e]) := by
  have number : ∀ g ∈ kept, g.sessionShare.isNaN = false := fun g old =>
    numbers g (List.mem_append_left _ (leads g old).mem)
  rcases keepLarger_cases slots.distinct member with ⟨rfl, smaller⟩ | ⟨old, noLarger⟩
  · -- What has been seen of the slot is at most its leader, whose share is smaller.
    refine .of_last fun g known same => ?_
    have taken := (slots.mem_iff g.slot).2 (List.mem_map_of_mem known)
    obtain ⟨leader, old, shared⟩ := List.mem_map.1 taken
    exact Binary64.lt_of_le_of_lt ((leads leader old).le (number leader old) known shared.symm)
      (smaller leader old (shared.trans same))
  · refine (leads f old).append fun shared => ?_
    exact Binary64.le_of_not_lt (number f old)
      (numbers e (List.mem_append_right _ (List.mem_singleton_self e))) (noLarger shared)

theorem leadsSlot_of_mem_dedupe {entries : List Evidence}
    (numbers : ∀ e ∈ entries, e.sessionShare.isNaN = false) :
    ∀ e ∈ dedupe entries, e.LeadsSlot entries := by
  induction entries using List.reverseRecOn with
  | nil =>
      intro e none
      cases none
  | append_singleton seen e ih =>
      intro f member
      have before : ∀ f ∈ seen, f.sessionShare.isNaN = false := fun f known =>
        numbers f (List.mem_append_left _ known)
      rw [dedupe_concat] at member
      exact leadsSlot_of_mem_keepLarger (firstOccurrences_dedupe seen) (ih before) numbers member

end Steps

/-- One entry for each slot of a list, in the order in which the slots first occur. It is the one
that leads the slot. -/
structure OneForEachSlot (entries kept : List Evidence) : Prop where
  slots : FirstOccurrences (entries.map Evidence.slot) (kept.map Evidence.slot)
  leads : ∀ e ∈ kept, e.LeadsSlot entries

/-- Of entries with numbers as their shares one is kept for each slot, and then there is nothing
more to leave out. -/
theorem oneForEachSlot_of_numbers {entries : List Evidence}
    (numbers : ∀ e ∈ entries, e.sessionShare.isNaN = false) :
    OneForEachSlot entries (dedupe entries) ∧ dedupe (dedupe entries) = dedupe entries := by
  have slots := firstOccurrences_dedupe entries
  exact ⟨⟨slots, leadsSlot_of_mem_dedupe numbers⟩, dedupe_eq_self slots.distinct⟩

/-- A product found at a depth, under a title and with a share of the sessions. -/
def Evidence.ofTitle (value title : String) (depth : UInt64) (sessionShare : Binary64) :
    Evidence :=
  { DimensionRow.evidence .cvr productDimension depth {} ⟨value, some title, 0, 0, 0, 0, 0, 0⟩ with
    sessionShare }

/-- The first product grows and is then met again with the same share, the second one has the two
zeros as its shares, and the first one is also further down. -/
def retitledProducts : List Evidence := [
  .ofTitle "p1" "Mug" 0 (.ofRatio 1 4),
  .ofTitle "p2" "Cup" 0 (.zero true),
  .ofTitle "p1" "Large mug" 0 (.ofRatio 1 2),
  .ofTitle "p2" "Small cup" 0 (.zero false),
  .ofTitle "p1" "Mug" 1 (.ofRatio 1 4),
  .ofTitle "p1" "Mug for tea" 0 (.ofRatio 1 2)]

theorem oneForEachSlot_retitledProducts :
    (∀ e ∈ retitledProducts, e.sessionShare.isNaN = false) ∧
    OneForEachSlot retitledProducts (dedupe retitledProducts) ∧
    dedupe (dedupe retitledProducts) = dedupe retitledProducts ∧
    (dedupe retitledProducts).map (fun e => (e.displayValue, e.depth)) =
      [("Large mug", 0), ("Cup", 0), ("Mug", 1)] := by
  have numbers : ∀ e ∈ retitledProducts, e.sessionShare.isNaN = false := by decide +kernel
  obtain ⟨one, again⟩ := oneForEachSlot_of_numbers numbers
  exact ⟨numbers, one, again, by decide +kernel⟩

end RootCause
