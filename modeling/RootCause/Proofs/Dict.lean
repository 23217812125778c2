import RootCause.Dict

/-!
Maps by their look-ups. Two maps that answer every look-up alike are equal, and a map written
entry by entry answers as the last write of each key says.
-/

namespace RootCause

section Entries

variable {β : Type} {key : String} {value : β} {entries : List (String × β)}

theorem putEntry_of_forall_lt (last : ∀ e ∈ entries, e.1 < key) :
    putEntry key value entries = entries ++ [(key, value)] := by
  induction entries with
  | nil => rfl
  | cons e rest ih =>
      obtain ⟨here, later⟩ := List.forall_mem_cons.1 last
      have other : key ≠ e.1 := fun same => String.lt_irrefl key (same ▸ here)
      have after : ¬ key < e.1 := fun before => String.lt_irrefl _ (String.lt_trans before here)
      unfold putEntry
      rw [if_neg other, if_neg after, ih later, List.cons_append]

theorem putEntry_perm (value : β) (free : key ∉ entries.map (·.1)) :
    (putEntry key value entries).Perm ((key, value) :: entries) := by
  induction entries with
  | nil => exact .refl _
  | cons e rest ih =>
      rw [List.map_cons, List.mem_cons, not_or] at free
      unfold putEntry
      rw [if_neg free.1]
      split
      · exact .refl _
      · exact ((ih free.2).cons e).trans (.swap ..)

theorem Ascending.nodup_keys (h : Ascending entries) : (entries.map (·.1)).Nodup := by
  refine List.pairwise_map.2 (h.imp ?_)
  intro e f before same
  exact String.lt_irrefl f.1 (same ▸ before)

end Entries

namespace Dict

variable {β : Type}

theorem lookup_cons_ite (key k : String) (v : β) (rest : List (String × β)) :
    ((k, v) :: rest).lookup key = if key = k then some v else rest.lookup key := by
  by_cases same : key = k
  · rw [if_pos same, same, List.lookup_cons_self]
  · rw [if_neg same, List.lookup_cons, beq_false_of_ne same]

theorem nodup_entries (d : Dict β) : d.entries.Nodup :=
  List.Pairwise.of_map (·.1) (fun _ _ other same => other (congrArg (·.1) same)) d.ascending.nodup_keys

/-- A key that is not repeated further on. -/
theorem lookup_eq_none_of_notMem {key : String} {rest : List (String × β)}
    (free : key ∉ rest.map (·.1)) : rest.lookup key = none := by
  rw [List.lookup_eq_none_iff]
  intro f hf
  exact bne_iff_ne.2 fun same => free (List.mem_map.2 ⟨f, hf, same.symm⟩)

theorem lookup_eq_some_iff_of_nodup {entries : List (String × β)}
    (h : (entries.map (·.1)).Nodup) {key : String} {value : β} :
    entries.lookup key = some value ↔ (key, value) ∈ entries := by
  induction entries with
  | nil => simp
  | cons e rest ih =>
      obtain ⟨k, v⟩ := e
      obtain ⟨free, others⟩ := List.nodup_cons.1 h
      have last := lookup_eq_none_of_notMem free
      rw [lookup_cons_ite, List.mem_cons, ← ih others]
      by_cases same : key = k
      · subst same
        simp only [last, ↓reduceIte, Option.some.injEq, Prod.mk.injEq, true_and, reduceCtorEq,
          or_false, eq_comm]
      · simp only [same, ↓reduceIte, Prod.mk.injEq, false_and, false_or]

theorem lookup_eq_some_iff_mem {entries : List (String × β)} (h : Ascending entries)
    {key : String} {value : β} : entries.lookup key = some value ↔ (key, value) ∈ entries :=
  lookup_eq_some_iff_of_nodup h.nodup_keys

/-- The order of entries with distinct keys does not matter to a look-up. -/
theorem lookup_eq_of_perm {a b : List (String × β)} (perm : a.Perm b)
    (h : (a.map (·.1)).Nodup) (key : String) : a.lookup key = b.lookup key := by
  have h' := (perm.map (·.1)).nodup_iff.1 h
  apply Option.ext
  intro value
  rw [lookup_eq_some_iff_of_nodup h, lookup_eq_some_iff_of_nodup h', perm.mem_iff]

/-- A map is determined by its look-ups. -/
theorem ext_get? {a b : Dict β} (h : ∀ key, a.get? key = b.get? key) : a = b := by
  have members : ∀ e, e ∈ a.entries ↔ e ∈ b.entries := by
    rintro ⟨key, value⟩
    rw [← lookup_eq_some_iff_mem a.ascending, ← lookup_eq_some_iff_mem b.ascending]
    exact iff_of_eq (congrArg (· = some value) (h key))
  have perm := (List.perm_ext_iff_of_nodup a.nodup_entries b.nodup_entries).2 members
  refine Dict.ext (perm.eq_of_pairwise ?_ a.ascending b.ascending)
  intro e f _ _ hef hfe
  exact absurd (String.lt_trans hef hfe) (String.lt_irrefl e.1)

theorem lookup_map_snd {γ : Type} (f : String → β → γ) (key : String)
    (entries : List (String × β)) :
    (entries.map fun e => (e.1, f e.1 e.2)).lookup key = (entries.lookup key).map (f key) := by
  induction entries with
  | nil => rfl
  | cons e rest ih =>
      obtain ⟨k, v⟩ := e
      rw [List.map_cons, lookup_cons_ite, lookup_cons_ite, ih]
      by_cases same : key = k
      · rw [if_pos same, if_pos same, same]
        rfl
      · rw [if_neg same, if_neg same]

/-- Two maps with the same keys have their entries in the same places. -/
theorem entries_eq_map {γ : Type} {f : String → β → γ} {a : Dict β} {b : Dict γ}
    (h : ∀ key, b.get? key = (a.get? key).map (f key)) :
    b.entries = a.entries.map fun e => (e.1, f e.1 e.2) := by
  have ascending : Ascending (a.entries.map fun e => (e.1, f e.1 e.2)) :=
    List.pairwise_map.2 a.ascending
  have same : b = ⟨a.entries.map fun e => (e.1, f e.1 e.2), ascending⟩ := by
    apply ext_get?
    intro key
    exact (h key).trans (lookup_map_snd f key a.entries).symm
  rw [same]

theorem get?_foldl_insert_of_ascending (f : Option β → β → β) {entries : List (String × β)}
    (h : Ascending entries) (d : Dict β) (key : String) :
    (entries.foldl (fun d e => d.insert e.1 (f (d.get? e.1) e.2)) d).get? key =
      (entries.lookup key).elim (d.get? key) fun value => some (f (d.get? key) value) := by
  induction entries generalizing d with
  | nil => rfl
  | cons e rest ih =>
      have last := lookup_eq_none_of_notMem (List.nodup_cons.1 h.nodup_keys).1
      obtain ⟨k, v⟩ := e
      rw [List.foldl_cons, ih (List.pairwise_cons.1 h).2, get?_insert, lookup_cons_ite]
      by_cases same : key = k
      · subst same
        simp only [last, ↓reduceIte, Option.elim]
      · simp only [same, ↓reduceIte]

/-- Writing all entries of one map to another, each in view of the value before it. -/
theorem get?_foldl_insert (f : Option β → β → β) (d b : Dict β) (key : String) :
    (b.entries.foldl (fun d e => d.insert e.1 (f (d.get? e.1) e.2)) d).get? key =
      (b.get? key).elim (d.get? key) fun value => some (f (d.get? key) value) :=
  get?_foldl_insert_of_ascending f b.ascending d key

theorem ofList_singleton_inj {key key' : String} {value value' : β}
    (same : ofList [(key, value)] = ofList [(key', value')]) : key = key' ∧ value = value' := by
  cases same
  exact ⟨rfl, rfl⟩

theorem insertAll_append (d : Dict β) (first second : List (String × β)) :
    d.insertAll (first ++ second) = (d.insertAll first).insertAll second :=
  List.foldl_append

theorem get?_insertAll_of_notMem {key : String} {entries : List (String × β)}
    (h : key ∉ entries.map (·.1)) (d : Dict β) : (d.insertAll entries).get? key = d.get? key := by
  induction entries generalizing d with
  | nil => rfl
  | cons e rest ih =>
      rw [List.map_cons, List.mem_cons, not_or] at h
      change ((d.insert e.1 e.2).insertAll rest).get? key = _
      rw [ih h.2, get?_insert, if_neg h.1]

/-- What a map had under the keys that are written makes no difference. -/
theorem get?_insertAll_congr {d d' : Dict β} {key : String} {entries : List (String × β)}
    (h : key ∉ entries.map (·.1) → d.get? key = d'.get? key) :
    (d.insertAll entries).get? key = (d'.insertAll entries).get? key := by
  induction entries generalizing d d' with
  | nil => exact h List.not_mem_nil
  | cons e rest ih =>
      change ((d.insert e.1 e.2).insertAll rest).get? key =
        ((d'.insert e.1 e.2).insertAll rest).get? key
      apply ih
      intro later
      rw [get?_insert, get?_insert]
      by_cases same : key = e.1
      · rw [if_pos same, if_pos same]
      · rw [if_neg same, if_neg same, h]
        rw [List.map_cons, List.mem_cons, not_or]
        exact ⟨same, later⟩

/-- Of entries with distinct keys none is written over. -/
theorem get?_insertAll_of_mem {key : String} {value : β} {entries : List (String × β)}
    (distinct : (entries.map (·.1)).Nodup) (member : (key, value) ∈ entries) (d : Dict β) :
    (d.insertAll entries).get? key = some value := by
  induction entries generalizing d with
  | nil => cases member
  | cons e rest ih =>
      obtain ⟨free, others⟩ := List.nodup_cons.1 distinct
      change ((d.insert e.1 e.2).insertAll rest).get? key = _
      rcases List.mem_cons.1 member with rfl | later
      · rw [get?_insertAll_of_notMem free, get?_insert, if_pos rfl]
      · exact ih others later (d.insert e.1 e.2)

theorem mem_entries_insertAll {d : Dict β} {entries : List (String × β)} {e : String × β}
    (h : e ∈ (d.insertAll entries).entries) : e ∈ d.entries ∨ e ∈ entries := by
  induction entries generalizing d with
  | nil => exact .inl h
  | cons first rest ih =>
      rcases ih (d := d.insert first.1 first.2) h with earlier | later
      · rcases mem_putEntry earlier with rfl | kept
        · exact .inr List.mem_cons_self
        · exact .inl kept
      · exact .inr (List.mem_cons_of_mem _ later)

theorem ofList_entries (d : Dict β) : ofList d.entries = d := by
  apply ext_get?
  intro key
  have written := get?_foldl_insert (fun _ value => value) empty d key
  rw [get?_empty] at written
  refine written.trans ?_
  cases d.get? key <;> rfl

end Dict

end RootCause
