import RootCause.Breakdown.Publish

/-!
The table that deduplication goes through a list with. An index in it is where a search of the
entries finds the slot, so one entry after another is put where that search leads.
-/

namespace RootCause

/-- Whether two entries are the same segment at the same depth. -/
def Evidence.sameSlot (e f : Evidence) : Bool := e.sameSegment f && e.depth == f.depth

theorem Evidence.sameSlot_iff (e f : Evidence) : e.sameSlot f ↔ e.slot = f.slot := by
  unfold sameSlot sameSegment slot
  rw [Bool.and_eq_true, Bool.and_eq_true, beq_iff_eq, beq_iff_eq, beq_iff_eq, Prod.mk.injEq,
    Prod.mk.injEq, and_assoc]

/-- Puts an entry at the end, or in the slot of an earlier one of its segment and depth when
its session share is larger. -/
def keepLarger (e : Evidence) : List Evidence → List Evidence
  | [] => [e]
  | f :: rest =>
    if e.sameSlot f then (if f.sessionShare.lt e.sessionShare then e else f) :: rest
    else f :: keepLarger e rest

section KeepLarger

variable {e f : Evidence} {out : List Evidence}

theorem keepLarger_cons (e f : Evidence) (rest : List Evidence) :
    keepLarger e (f :: rest) =
      if e.sameSlot f then (if f.sessionShare.lt e.sessionShare then e else f) :: rest
      else f :: keepLarger e rest := rfl

theorem mem_of_mem_keepLarger (h : f ∈ keepLarger e out) :
    f = e ∨ f ∈ out := by
  induction out with
  | nil => exact .inl (List.mem_singleton.1 h)
  | cons g rest ih =>
      unfold keepLarger at h
      split at h
      · rcases List.mem_cons.1 h with here | later
        · split at here
          · exact .inl here
          · exact .inr (here ▸ List.mem_cons_self)
        · exact .inr (List.mem_cons_of_mem g later)
      · rcases List.mem_cons.1 h with rfl | later
        · exact .inr List.mem_cons_self
        · exact (ih later).imp_right (List.mem_cons_of_mem g)

/-- An entry takes a slot of its own or the one that it shares. -/
theorem slots_keepLarger (e : Evidence) (out : List Evidence) :
    (keepLarger e out).map Evidence.slot =
      if e.slot ∈ out.map Evidence.slot then out.map Evidence.slot
      else out.map Evidence.slot ++ [e.slot] := by
  induction out with
  | nil => rfl
  | cons f rest ih =>
      unfold keepLarger
      by_cases same : e.sameSlot f
      · have shared := (e.sameSlot_iff f).1 same
        have taken : e.slot ∈ (f :: rest).map Evidence.slot := by
          rw [List.map_cons, shared]
          exact List.mem_cons_self
        rw [if_pos same, if_pos taken, List.map_cons, List.map_cons]
        split
        · rw [shared]
        · rfl
      · have other : e.slot ≠ f.slot := fun shared => same ((e.sameSlot_iff f).2 shared)
        rw [if_neg same, List.map_cons, ih, List.map_cons]
        by_cases taken : e.slot ∈ rest.map Evidence.slot
        · rw [if_pos taken, if_pos (List.mem_cons_of_mem _ taken)]
        · rw [if_neg taken, if_neg, List.cons_append]
          intro here
          exact (List.mem_cons.1 here).elim other taken

theorem keepLarger_of_free (free : e.slot ∉ out.map Evidence.slot) :
    keepLarger e out = out ++ [e] := by
  induction out with
  | nil => rfl
  | cons g rest ih =>
      obtain ⟨other, later⟩ := not_or.1 (mt List.mem_cons.2 free)
      rw [keepLarger_cons, if_neg (mt (e.sameSlot_iff g).1 other), ih later, List.cons_append]

/-- The entry goes where the slot is found. -/
theorem keepLarger_of_found {i : Nat} (found : (out.map Evidence.slot).idxOf? e.slot = some i) :
    keepLarger e out =
      out.modify i fun f => if f.sessionShare.lt e.sessionShare then e else f := by
  induction out generalizing i with
  | nil => cases found
  | cons g rest ih =>
      rw [List.map_cons, List.idxOf?_cons] at found
      rw [keepLarger_cons]
      split at found
      · next here =>
        cases found
        rw [if_pos ((e.sameSlot_iff g).2 (eq_of_beq here).symm), List.modify_zero_cons]
      · next elsewhere =>
        obtain ⟨j, later, rfl⟩ := Option.map_eq_some_iff.1 found
        have other : ¬e.sameSlot g := by
          intro same
          exact elsewhere (beq_iff_eq.2 ((e.sameSlot_iff g).1 same).symm)
        rw [if_neg other, ih later, List.modify_succ_cons]

end KeepLarger

theorem idxOf?_concat {α : Type} [BEq α] (l : List α) (a b : α) :
    (l ++ [a]).idxOf? b = (l.idxOf? b).or (if a == b then some l.length else none) := by
  induction l with
  | nil => exact List.idxOf?_cons
  | cons c rest ih =>
      rw [List.cons_append, List.idxOf?_cons, List.idxOf?_cons, ih]
      split
      · rfl
      · cases rest.idxOf? b with
        | none => split <;> rfl
        | some i => rfl

namespace SlotTable

variable {t : SlotTable}

/-- Each index is where a search of the entries finds the slot. -/
def Indexed (t : SlotTable) : Prop :=
  ∀ slot, t.indices.lookup slot = (t.entries.map Evidence.slot).idxOf? slot

/-- No index leads out of the entries. -/
theorem Indexed.lt_length (h : t.Indexed) {slot : Slot} {i : Nat}
    (found : t.indices.lookup slot = some i) : i < t.entries.length := by
  rw [h slot] at found
  obtain ⟨inside, -⟩ := List.idxOf?_eq_some_iff.1 found
  rwa [List.length_map] at inside

theorem entries_put (h : t.Indexed) (e : Evidence) :
    (t.put e).entries = keepLarger e t.entries := by
  unfold put
  rw [h e.slot]
  cases found : (t.entries.map Evidence.slot).idxOf? e.slot with
  | none => exact (keepLarger_of_free (List.idxOf?_eq_none_iff.1 found)).symm
  | some i => exact (keepLarger_of_found found).symm

theorem Indexed.put (h : t.Indexed) (e : Evidence) : (t.put e).Indexed := by
  intro slot
  rw [entries_put h e, slots_keepLarger]
  unfold SlotTable.put
  rw [h e.slot]
  cases found : (t.entries.map Evidence.slot).idxOf? e.slot with
  | none =>
      rw [if_neg (List.idxOf?_eq_none_iff.1 found), idxOf?_concat, List.length_map]
      dsimp only
      by_cases same : e.slot = slot
      · rw [← same, found, if_pos BEq.rfl]
        exact List.lookup_cons_self
      · rw [if_neg (mt eq_of_beq same), Option.or_none, ← h slot, List.lookup_cons,
          beq_false_of_ne (Ne.symm same)]
  | some i =>
      obtain ⟨inside, here, -⟩ := List.idxOf?_eq_some_iff.1 found
      rw [if_pos (here ▸ List.getElem_mem inside)]
      exact h slot

theorem indexed_foldl_put (h : t.Indexed) (entries : List Evidence) :
    (entries.foldl put t).Indexed ∧
      (entries.foldl put t).entries = entries.foldl (fun out e => keepLarger e out) t.entries := by
  induction entries generalizing t with
  | nil => exact ⟨h, rfl⟩
  | cons e rest ih =>
      rw [List.foldl_cons, List.foldl_cons, ← entries_put h e]
      exact ih (h.put e)

end SlotTable

/-- Entries are deduplicated by a search for each of them in what has been kept. -/
theorem dedupe_eq_foldl (entries : List Evidence) :
    dedupe entries = entries.foldl (fun out e => keepLarger e out) [] :=
  (SlotTable.indexed_foldl_put (t := ⟨[], []⟩) (fun _ => rfl) entries).2

end RootCause
