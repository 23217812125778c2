import RootCause.Breakdown.Walk
import RootCause.Proofs.Inquiry

/-!
The drill-down as a recursion over its levels, in pre-order, and its agreement with the walk
over a stack of entries.
-/

namespace RootCause

/-- Each entry followed by what is found below it. -/
def reportEach (below : Evidence → Inquiry (List Evidence)) :
    List Evidence → Inquiry (List Evidence)
  | [] => return []
  | e :: rest => do
    let found ← below e
    let others ← reportEach below rest
    return e :: found ++ others

/-- What the source refuses below the first entry ends the report. -/
theorem reportEach_cons_apply (below : Evidence → Inquiry (List Evidence)) (e : Evidence)
    (rest : List Evidence) (log : QueryLog) :
    reportEach below (e :: rest) log =
      match below e log with
      | (.ok found, mid) =>
        ((reportEach below rest mid).1.map (e :: found ++ ·), (reportEach below rest mid).2)
      | (.error cause, mid) => (.error cause, mid) := by
  rw [reportEach, Inquiry.bind_apply]
  cases below e log with
  | mk answer mid =>
      cases answer with
      | error cause => rfl
      | ok found =>
          dsimp only
          rw [← map_eq_pure_bind, Inquiry.map_apply]

/-- The entries at a depth and below it, under filters. Nothing is asked at or beyond the
depth limit or the last dimension, and a level without sessions has no entries. -/
def visit (source : Source) (s : BreakdownSettings) (root : BreakdownQuery)
    (filters : List Filter) (depth : Nat) : Inquiry (List Evidence) :=
  if _h : depth < s.stopConditions.maxDepth.toNat ∧ depth < s.dimensionList.length then do
    let dimension := s.dimensionList[depth]
    let rows ← source.askBreakdown (root.refine dimension filters)
    if (LevelTotals.ofRows rows).noSessions then return []
    else
      let ranked := rank s.rankBy s.rankOrder
        (candidates s dimension (UInt64.ofNat depth) filters rows)
      reportEach (fun e => visit source s root (filters ++ [e.filter]) (depth + 1))
        (ranked.take s.stopConditions.topK.toNat)
  else return []
termination_by s.dimensionList.length - depth

variable (source : Source) (s : BreakdownSettings) (root : BreakdownQuery)

/-- A visit expands its level and then goes below each kept entry. -/
theorem visit_eq_expand (filters : List Filter) (depth : Nat) :
    visit source s root filters depth = (do
      let kept ← expand source s root filters depth
      reportEach (fun e => visit source s root (filters ++ [e.filter]) (depth + 1)) kept) := by
  rw [visit]
  split
  · next inside =>
    unfold expand
    rw [List.getElem?_eq_getElem inside.2]
    simp only [inside.1, ↓reduceIte, bind_assoc, pure_bind]
    refine bind_congr fun rows => ?_
    unfold keptEntries
    split
    · rfl
    · rfl
  · next outside =>
    have beyond : s.depthLimit ≤ depth := by
      unfold BreakdownSettings.depthLimit
      omega
    funext log
    rw [Inquiry.bind_apply, expand_eq_nil log beyond]
    rfl

/-- What a stack of entries leads to: the part of the drill-down that is not visited yet. -/
def visitPending : List Pending → Inquiry (List Evidence)
  | [] => return []
  | (entry, filters) :: pending => do
    let found ← visit source s root (filters ++ [entry.filter]) (entry.depth.toNat + 1)
    let rest ← visitPending pending
    return entry :: found ++ rest

theorem visitPending_append (first second : List Pending) :
    visitPending source s root (first ++ second) = (do
      let found ← visitPending source s root first
      let rest ← visitPending source s root second
      return found ++ rest) := by
  induction first with
  | nil => simp only [List.nil_append, visitPending, pure_bind, bind_pure]
  | cons p first ih =>
      simp only [List.cons_append, visitPending, ih, bind_assoc, pure_bind, List.append_assoc]

/-- The entries kept at one level, pending under the same filters, are reported one by one. -/
theorem visitPending_map (filters : List Filter) {depth : Nat} {kept : List Evidence}
    (h : ∀ e ∈ kept, e.depth.toNat = depth) :
    visitPending source s root (kept.map (·, filters)) =
      reportEach (fun e => visit source s root (filters ++ [e.filter]) (depth + 1)) kept := by
  induction kept with
  | nil => rfl
  | cons e kept ih =>
      have rest := ih fun f hf => h f (List.mem_cons_of_mem e hf)
      rw [List.map_cons, visitPending, reportEach, rest, h e List.mem_cons_self]

theorem walkFrom_nil :
    walkFrom source s root [] = (return [] : Inquiry (List Evidence)) := by
  funext log
  rw [walkFrom]
  rfl

/-- One round of the walk. -/
theorem walkFrom_cons (entry : Evidence) (filters : List Filter) (pending : List Pending) :
    walkFrom source s root ((entry, filters) :: pending) = (show Inquiry _ from do
      let under := filters ++ [entry.filter]
      let below ← expand source s root under (entry.depth.toNat + 1)
      let rest ← (walkFrom source s root (below.map (·, under) ++ pending) : Inquiry _)
      return entry :: rest) := by
  funext log
  rw [walkFrom, Inquiry.bind_apply]
  split
  · next broke => rw [broke]
  · next answered =>
    rw [answered]
    dsimp only
    rw [Inquiry.bind_apply]
    split
    · next broke => rw [broke]
    · next found => rw [found]; rfl

/-- The stack changes from round to round, but not what it leads to. The induction is on the
bound of the stack, which an expansion lowers. -/
theorem walkFrom_eq_visitPending (pending : List Pending) (log : QueryLog) :
    walkFrom source s root pending log = visitPending source s root pending log := by
  induction hbound : pendingBound s pending using Nat.strongRecOn generalizing pending log with
  | ind bound ih =>
      cases pending with
      | nil => rw [walkFrom_nil]; rfl
      | cons p pending =>
          obtain ⟨entry, filters⟩ := p
          rw [walkFrom_cons, visitPending, visit_eq_expand, bind_assoc]
          apply Inquiry.bind_apply_congr
          intro below mid expanded
          have kept := expand_bounds expanded
          have depths : ∀ e ∈ below, e.depth.toNat = entry.depth.toNat + 1 :=
            fun e he => (kept.2 e he).1
          have lower : pendingBound s (below.map (·, filters ++ [entry.filter]) ++ pending) <
              bound := by
            rw [← hbound]
            exact pendingBound_lt _ kept.1 kept.2
          rw [Inquiry.bind_apply, ih _ lower _ _ rfl, ← Inquiry.bind_apply,
            visitPending_append, visitPending_map source s root _ depths]
          simp only [bind_assoc, pure_bind, List.cons_append]

theorem walk_apply (log : QueryLog) :
    walk source s root log = visit source s root root.filters 0 log := by
  rw [walk, visit_eq_expand]
  apply Inquiry.bind_apply_congr
  intro top mid expanded
  have depths : ∀ e ∈ top, e.depth.toNat = 0 := fun e he => ((expand_bounds expanded).2 e he).1
  rw [walkFrom_eq_visitPending, visitPending_map source s root _ depths]

/-- The walk over a stack is the pre-order recursion: entries, queries and an error that cuts
both short are the same, whatever the source answers. -/
theorem walk_eq_visit : walk source s root = visit source s root root.filters 0 :=
  funext (walk_apply source s root)

end RootCause
