import RootCause.Breakdown.Level

/-!
The drill-down: each kept entry is followed by what is found below it.

The walk keeps a stack of entries whose levels are still to be asked for. It ends because an
entry makes way for at most `topK` entries one level deeper, and no level lies at or beyond
the depth limit.
-/

namespace RootCause

/-- The depth at which a drill-down ends. -/
def BreakdownSettings.depthLimit (s : BreakdownSettings) : Nat :=
  min s.stopConditions.maxDepth.toNat s.dimensionList.length

/-- The filter that an entry adds below itself. -/
def Evidence.filter (e : Evidence) : Filter := ⟨e.dimension, e.value⟩

/-- The entries kept at a depth. At or beyond the depth limit nothing is asked. -/
def expand (source : Source) (s : BreakdownSettings) (root : BreakdownQuery)
    (filters : List Filter) (depth : Nat) : Inquiry (List Evidence) :=
  match s.dimensionList[depth]? with
  | none => return []
  | some dimension =>
    if depth < s.stopConditions.maxDepth.toNat then do
      let rows ← source.askBreakdown (root.refine dimension filters)
      return keptEntries s dimension (UInt64.ofNat depth) filters rows
    else return []

/-- Below the limit one query is sent, and the entries are kept from its answer. -/
theorem expand_eq {source : Source} {s : BreakdownSettings} {root : BreakdownQuery}
    {filters : List Filter} {depth : Nat} {dimension : String} (log : QueryLog)
    (hd : s.dimensionList[depth]? = some dimension)
    (hlt : depth < s.stopConditions.maxDepth.toNat) :
    expand source s root filters depth log =
      ((source.breakdown log (root.refine dimension filters)).map
          (keptEntries s dimension (UInt64.ofNat depth) filters),
        log ++ [.breakdown (root.refine dimension filters)]) := by
  unfold expand
  rw [hd]
  simp only [hlt, ↓reduceIte]
  change ExceptT.bindCont (m := StateM QueryLog) _ (source.breakdown log _) _ = _
  cases source.breakdown log (root.refine dimension filters) <;> rfl

/-- At the limit nothing is asked and nothing is found. -/
theorem expand_eq_nil {source : Source} {s : BreakdownSettings} {root : BreakdownQuery}
    {filters : List Filter} {depth : Nat} (log : QueryLog) (h : s.depthLimit ≤ depth) :
    expand source s root filters depth log = (.ok [], log) := by
  unfold expand
  cases hd : s.dimensionList[depth]? with
  | none => rfl
  | some dimension =>
    have hlen : depth < s.dimensionList.length := (List.getElem?_eq_some_iff.1 hd).1
    have hlt : ¬depth < s.stopConditions.maxDepth.toNat := fun hlt =>
      Nat.not_lt.2 h (Nat.lt_min.2 ⟨hlt, hlen⟩)
    simp only [hlt, ↓reduceIte]
    rfl

/-- What expansion yields: entries of the asked depth, below the limit, at most `topK`. -/
theorem expand_bounds {source : Source} {s : BreakdownSettings} {root : BreakdownQuery}
    {filters : List Filter} {depth : Nat} {log log' : QueryLog} {kept : List Evidence}
    (h : expand source s root filters depth log = (.ok kept, log')) :
    kept.length ≤ s.stopConditions.topK.toNat ∧
      ∀ e ∈ kept, e.depth.toNat = depth ∧ depth < s.depthLimit := by
  by_cases hlimit : depth < s.depthLimit
  · obtain ⟨hlt, hlen⟩ := Nat.lt_min.1 hlimit
    rw [expand_eq log (List.getElem?_eq_getElem hlen) hlt] at h
    cases hrows : source.breakdown log (root.refine s.dimensionList[depth] filters) with
    | error e =>
      rw [hrows] at h
      cases h
    | ok rows =>
      rw [hrows] at h
      cases h
      refine ⟨length_keptEntries_le .., fun e he => ⟨?_, hlimit⟩⟩
      rw [depth_of_mem_keptEntries he]
      have := s.stopConditions.maxDepth.toNat_lt
      exact UInt64.toNat_ofNat_of_lt' (Nat.lt_trans hlt this)
  · rw [expand_eq_nil log (Nat.not_lt.1 hlimit)] at h
    cases h
    simp

/-- Entries that can follow below one entry, itself included, with `levels` levels to go. -/
def subtreeBound (k : Nat) : (levels : Nat) → Nat
  | 0 => 1
  | levels + 1 => 1 + k * subtreeBound k levels

theorem subtreeBound_pos (k : Nat) : (levels : Nat) → 0 < subtreeBound k levels
  | 0 => Nat.one_pos
  | _ + 1 => Nat.lt_of_lt_of_le Nat.one_pos (Nat.le_add_right ..)

/-- An entry still to be reported, and the filters it was found under. -/
abbrev Pending := Evidence × List Filter

/-- The most entries that a stack can still lead to. -/
def pendingBound (s : BreakdownSettings) : List Pending → Nat
  | [] => 0
  | p :: rest =>
    subtreeBound s.stopConditions.topK.toNat (s.depthLimit - p.1.depth.toNat) +
      pendingBound s rest

theorem pendingBound_append (s : BreakdownSettings) (first second : List Pending) :
    pendingBound s (first ++ second) = pendingBound s first + pendingBound s second := by
  induction first with
  | nil => rw [List.nil_append, pendingBound, Nat.zero_add]
  | cons p rest ih => rw [List.cons_append, pendingBound, pendingBound, ih, Nat.add_assoc]

theorem pendingBound_lt {s : BreakdownSettings} {entry : Evidence} {filters : List Filter}
    {pending : List Pending} {below : List Evidence} (under : List Filter)
    (hlen : below.length ≤ s.stopConditions.topK.toNat)
    (hdepth : ∀ e ∈ below,
      e.depth.toNat = entry.depth.toNat + 1 ∧ entry.depth.toNat + 1 < s.depthLimit) :
    pendingBound s (below.map (·, under) ++ pending) <
      pendingBound s ((entry, filters) :: pending) := by
  obtain ⟨k, hk⟩ : ∃ k, s.stopConditions.topK.toNat = k := ⟨_, rfl⟩
  rw [hk] at hlen
  have hchildren : ∀ es : List Evidence,
      (∀ e ∈ es, e.depth.toNat = entry.depth.toNat + 1) →
      pendingBound s (es.map (·, under)) =
        es.length * subtreeBound k (s.depthLimit - (entry.depth.toNat + 1)) := by
    intro es
    induction es with
    | nil => simp [pendingBound]
    | cons e es ih =>
      intro h
      have := ih fun e he => h e (List.mem_cons_of_mem _ he)
      simp only [pendingBound, hk, List.map_cons, List.length_cons] at this ⊢
      rw [this, h e List.mem_cons_self, Nat.succ_mul, Nat.add_comm]
  have hcons : pendingBound s ((entry, filters) :: pending) =
      subtreeBound k (s.depthLimit - entry.depth.toNat) + pendingBound s pending := by
    rw [pendingBound, hk]
  rw [pendingBound_append, hcons, hchildren below fun e he => (hdepth e he).1]
  apply Nat.add_lt_add_right
  cases below with
  | nil =>
    have := subtreeBound_pos k (s.depthLimit - entry.depth.toNat)
    simpa using this
  | cons e es =>
    have hlt := (hdepth e List.mem_cons_self).2
    have hsucc : s.depthLimit - entry.depth.toNat =
        (s.depthLimit - (entry.depth.toNat + 1)) + 1 := by omega
    rw [hsucc, subtreeBound]
    have := Nat.mul_le_mul_right
      (subtreeBound k (s.depthLimit - (entry.depth.toNat + 1))) hlen
    omega

/-- Reports the entries of a stack, each followed by what is found below it. -/
def walkFrom (source : Source) (s : BreakdownSettings) (root : BreakdownQuery) :
    List Pending → QueryLog → Except SourceError (List Evidence) × QueryLog
  | [], log => (.ok [], log)
  | (entry, filters) :: pending, log =>
    let under := filters ++ [entry.filter]
    match _h : expand source s root under (entry.depth.toNat + 1) log with
    | (.error e, log) => (.error e, log)
    | (.ok below, log) =>
      match walkFrom source s root (below.map (·, under) ++ pending) log with
      | (.error e, log) => (.error e, log)
      | (.ok rest, log) => (.ok (entry :: rest), log)
termination_by pending => pendingBound s pending
decreasing_by
  have := expand_bounds (by assumption)
  exact pendingBound_lt _ this.1 this.2

/-- All entries of a drill-down, from the filters of the root query on. -/
def walk (source : Source) (s : BreakdownSettings) (root : BreakdownQuery) :
    Inquiry (List Evidence) := do
  let top ← expand source s root root.filters 0
  walkFrom source s root (top.map (·, root.filters))

end RootCause
