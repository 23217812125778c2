import Mathlib.Algebra.Ring.GeomSum
import Mathlib.Data.List.Perm.Subperm
import RootCause.Proofs.Breakdown.Siblings

/-!
What a drill-down may cost. Each level that it asks for has a position in the tree of kept entries,
no position is asked for twice, and the tree is no deeper and no wider than the settings allow.
-/

namespace RootCause

/-- A level that a drill-down has asked for. Its position is the way from the first level to it,
where each entry on the way is given by its place among the entries that its own level keeps. -/
structure AskedLevel where
  position : List Nat
  query : BreakdownQuery
  answer : Except SourceError (List DimensionRow)

/-- The entries that a level keeps; none when the source has refused to answer. -/
def AskedLevel.kept (s : BreakdownSettings) (l : AskedLevel) : List Evidence :=
  match l.answer with
  | .ok rows =>
    keptEntries s l.query.dimension (UInt64.ofNat l.position.length) l.query.filters rows
  | .error _ => []

/-- The queries for levels, in the order in which these were asked for. -/
def sentFor (levels : List AskedLevel) : QueryLog := levels.map fun l => .breakdown l.query

theorem sentFor_append (levels more : List AskedLevel) :
    sentFor (levels ++ more) = sentFor levels ++ sentFor more := List.map_append

/-- The level at a position, asked for when other levels have been since a log. -/
def askedAt (source : Source) (root : BreakdownQuery) (log : QueryLog) (levels : List AskedLevel)
    (position : List Nat) (dimension : String) (filters : List Filter) : AskedLevel where
  position := position
  query := root.refine dimension filters
  answer := source.breakdown (log ++ sentFor levels) (root.refine dimension filters)

/-- Positions that levels lead to, with the filters that hold there. -/
inductive Opens (s : BreakdownSettings) (root : BreakdownQuery) (levels : List AskedLevel) :
    List Nat → List Filter → Prop
  | top : Opens s root levels [] root.filters
  | below {l : AskedLevel} {i : Nat} {e : Evidence} (asked : l ∈ levels)
      (kept : (l.kept s)[i]? = some e) :
      Opens s root levels (l.position ++ [i]) (l.query.filters ++ [e.filter])

/-- Levels that a drill-down can have asked for, one after another, since a log. Each is at a
position that the earlier ones lead to and above the depth limit. -/
inductive Explored (source : Source) (s : BreakdownSettings) (root : BreakdownQuery)
    (log : QueryLog) : List AskedLevel → Prop
  | start : Explored source s root log []
  | ask {levels : List AskedLevel} {position : List Nat} {filters : List Filter}
      {dimension : String} (before : Explored source s root log levels)
      (opens : Opens s root levels position filters)
      (listed : s.dimensionList[position.length]? = some dimension)
      (inside : position.length < s.stopConditions.maxDepth.toNat) :
      Explored source s root log
        (levels ++ [askedAt source root log levels position dimension filters])

section Positions

/-- The positions with fewer than `n` entries on the way, each in one of the first `k` places. -/
def positions (k : Nat) : (n : Nat) → List (List Nat)
  | 0 => []
  | n + 1 => [] :: (List.range k).flatMap fun i => (positions k n).map (i :: ·)

theorem length_positions (k n : Nat) :
    (positions k n).length = ∑ i ∈ Finset.range n, k ^ i := by
  induction n with
  | zero => rfl
  | succ n ih =>
      simp only [positions, List.length_cons, List.length_flatMap, List.length_map, ih,
        List.map_const', List.length_range, List.sum_replicate_nat, geom_sum_succ]

theorem mem_positions {k n : Nat} {position : List Nat} (short : position.length < n)
    (narrow : ∀ i ∈ position, i < k) : position ∈ positions k n := by
  induction n generalizing position with
  | zero => cases short
  | succ n ih =>
      cases position with
      | nil => exact List.mem_cons_self
      | cons i rest =>
          obtain ⟨first, later⟩ := List.forall_mem_cons.1 narrow
          refine List.mem_cons_of_mem _ (List.mem_flatMap.2 ⟨i, List.mem_range.2 first, ?_⟩)
          exact List.mem_map_of_mem (ih (Nat.lt_of_succ_lt_succ short) later)

end Positions

section Bounds

variable {source : Source} {s : BreakdownSettings} {root : BreakdownQuery} {log : QueryLog}
  {levels : List AskedLevel}

theorem AskedLevel.length_kept_le (s : BreakdownSettings) (l : AskedLevel) :
    (l.kept s).length ≤ s.stopConditions.topK.toNat := by
  unfold kept
  split
  · exact length_keptEntries_le ..
  · exact Nat.zero_le _

theorem AskedLevel.depth_of_mem_kept {l : AskedLevel} {e : Evidence} (h : e ∈ l.kept s) :
    e.depth = UInt64.ofNat l.position.length := by
  unfold kept at h
  split at h
  · exact depth_of_mem_keptEntries h
  · cases h

/-- The tree of levels is bounded in depth and in width. -/
theorem Explored.bounded (h : Explored source s root log levels) :
    ∀ l ∈ levels, l.position.length < s.depthLimit ∧
      ∀ i ∈ l.position, i < s.stopConditions.topK.toNat := by
  induction h with
  | start =>
      intro l none
      cases none
  | @ask levels position filters dimension before opens listed inside ih =>
      intro l member
      rcases List.mem_append.1 member with earlier | last
      · exact ih l earlier
      · cases List.mem_singleton.1 last
        refine ⟨Nat.lt_min.2 ⟨inside, (List.getElem?_eq_some_iff.1 listed).1⟩, ?_⟩
        intro i onWay
        cases opens with
        | top => cases onWay
        | @below parent place e asked kept =>
            rcases List.mem_append.1 onWay with above | here
            · exact (ih parent asked).2 i above
            · rw [List.mem_singleton.1 here]
              exact Nat.lt_of_lt_of_le (List.getElem?_eq_some_iff.1 kept).1
                (parent.length_kept_le s)

/-- Levels at different positions are no more than there are positions. -/
theorem Explored.length_le (h : Explored source s root log levels)
    (once : (levels.map (·.position)).Nodup) :
    levels.length ≤ ∑ i ∈ Finset.range s.depthLimit, s.stopConditions.topK.toNat ^ i := by
  have known : levels.map (·.position) ⊆
      positions s.stopConditions.topK.toNat s.depthLimit := by
    intro position member
    obtain ⟨l, asked, rfl⟩ := List.mem_map.1 member
    obtain ⟨short, narrow⟩ := h.bounded l asked
    exact mem_positions short narrow
  have fits := (List.subperm_of_subset once known).length_le
  rwa [List.length_map, length_positions] at fits

theorem AskedLevel.length_flatMap_kept_le (s : BreakdownSettings) (levels : List AskedLevel) :
    (levels.flatMap (·.kept s)).length ≤ levels.length * s.stopConditions.topK.toNat := by
  induction levels with
  | nil => exact Nat.zero_le _
  | cons l rest ih =>
      rw [List.flatMap_cons, List.length_append, List.length_cons, Nat.succ_mul, Nat.add_comm]
      exact Nat.add_le_add ih (l.length_kept_le s)

theorem Explored.length_flatMap_kept_le (h : Explored source s root log levels)
    (once : (levels.map (·.position)).Nodup) :
    (levels.flatMap (·.kept s)).length ≤
      ∑ i ∈ Finset.range s.depthLimit, s.stopConditions.topK.toNat ^ (i + 1) := by
  calc (levels.flatMap (·.kept s)).length
      ≤ levels.length * s.stopConditions.topK.toNat :=
        AskedLevel.length_flatMap_kept_le s levels
    _ ≤ (∑ i ∈ Finset.range s.depthLimit, s.stopConditions.topK.toNat ^ i) *
          s.stopConditions.topK.toNat := Nat.mul_le_mul_right _ (h.length_le once)
    _ = ∑ i ∈ Finset.range s.depthLimit, s.stopConditions.topK.toNat ^ (i + 1) :=
        Finset.sum_mul ..

theorem Explored.depth_lt (h : Explored source s root log levels) {e : Evidence}
    (kept : e ∈ levels.flatMap (·.kept s)) : e.depth.toNat < s.depthLimit := by
  obtain ⟨l, asked, member⟩ := List.mem_flatMap.1 kept
  have short := (h.bounded l asked).1
  have inside := Nat.lt_of_lt_of_le short (Nat.min_le_left ..)
  rw [AskedLevel.depth_of_mem_kept member,
    UInt64.toNat_ofNat_of_lt' (Nat.lt_trans inside s.stopConditions.maxDepth.toNat_lt)]
  exact short

end Bounds

section Survey

variable {source : Source} {s : BreakdownSettings} {root : BreakdownQuery} {log : QueryLog}

/-- What a part of a drill-down comes to after some levels have been asked for. It asks for more,
each once and in its own part of the tree, and it collects what these keep besides entries of its
own. -/
structure Surveys (source : Source) (s : BreakdownSettings) (root : BreakdownQuery)
    (log : QueryLog) (levels : List AskedLevel) (part : List Nat → Prop) (own : List Evidence)
    (outcome : Except SourceError (List Evidence) × QueryLog) (more : List AskedLevel) :
    Prop where
  explored : Explored source s root log (levels ++ more)
  sent : outcome.2 = log ++ sentFor (levels ++ more)
  once : (more.map (·.position)).Nodup
  inPart : ∀ l ∈ more, part l.position
  collected : ∀ found, outcome.1 = .ok found → found.Perm (own ++ more.flatMap (·.kept s))

namespace Surveys

variable {levels more later : List AskedLevel} {part part' whole : List Nat → Prop}
  {own own' found : List Evidence} {mid after : QueryLog}
  {answer : Except SourceError (List Evidence)}

/-- A part that asks for nothing. -/
theorem idle (before : Explored source s root log levels)
    (come : ∀ collected, answer = .ok collected → collected = own) :
    Surveys source s root log levels part own (answer, log ++ sentFor levels) [] := by
  rw [← List.append_nil levels] at before
  refine ⟨before, by rw [List.append_nil], List.nodup_nil, ?_, ?_⟩
  · intro l none
    cases none
  · intro collected answered
    rw [come collected answered, List.flatMap_nil, List.append_nil]

theorem nothing (before : Explored source s root log levels) :
    Surveys source s root log levels part [] (.ok [], log ++ sentFor levels) [] := by
  refine idle before ?_
  intro collected come
  cases come
  rfl

/-- After a refusal it does not matter what would have been collected. -/
theorem refused {cause : SourceError}
    (h : Surveys source s root log levels part own (.error cause, after) more)
    (wider : ∀ p, part p → whole p) :
    Surveys source s root log levels whole own' (.error cause, after) more := by
  refine ⟨h.explored, h.sent, h.once, fun l member => wider _ (h.inPart l member), ?_⟩
  intro collected come
  cases come

theorem report (h : Surveys source s root log levels part own (.ok found, after) more)
    (e : Evidence) :
    Surveys source s root log levels part (e :: own) (.ok (e :: found), after) more := by
  refine ⟨h.explored, h.sent, h.once, h.inPart, ?_⟩
  intro collected come
  cases come
  exact (h.collected found rfl).cons e

/-- Another part of the tree comes after one that the source has answered for. -/
theorem append (first : Surveys source s root log levels part own (.ok found, mid) more)
    (rest : Surveys source s root log (levels ++ more) part' own' (answer, after) later)
    (apart : ∀ p, part p → ¬part' p) (wider : ∀ p, part p ∨ part' p → whole p) :
    Surveys source s root log levels whole (own ++ own') (answer.map (found ++ ·), after)
      (more ++ later) := by
  constructor
  · rw [← List.append_assoc]
    exact rest.explored
  · rw [← List.append_assoc]
    exact rest.sent
  · rw [List.map_append]
    refine first.once.append rest.once ?_
    intro p earlier further
    obtain ⟨l, member, rfl⟩ := List.mem_map.1 earlier
    obtain ⟨l', member', same⟩ := List.mem_map.1 further
    exact apart _ (first.inPart l member) (same ▸ rest.inPart l' member')
  · intro l member
    exact wider _ ((List.mem_append.1 member).imp (first.inPart l) (rest.inPart l))
  · intro collected come
    cases answer with
    | error cause => cases come
    | ok others =>
        cases come
        have both := (first.collected found rfl).append (rest.collected others rfl)
        rw [List.append_assoc] at both
        rw [List.flatMap_append, List.append_assoc]
        exact both.trans ((List.perm_append_comm_assoc ..).append_left own)

/-- A level comes before what is found below it. -/
theorem descend {l : AskedLevel} {outcome : Except SourceError (List Evidence) × QueryLog}
    (h : Surveys source s root log (levels ++ [l])
      (fun p => ∃ i, 0 ≤ i ∧ l.position ++ [i] <+: p) (l.kept s) outcome more) :
    Surveys source s root log levels (l.position <+: ·) [] outcome (l :: more) := by
  constructor
  · rw [List.append_cons]
    exact h.explored
  · rw [List.append_cons]
    exact h.sent
  · refine List.nodup_cons.2 ⟨?_, h.once⟩
    intro again
    obtain ⟨l', member, same⟩ := List.mem_map.1 again
    obtain ⟨i, -, through⟩ := h.inPart l' member
    have longer := through.length_le
    rw [same, List.length_append, List.length_singleton] at longer
    exact Nat.not_succ_le_self _ longer
  · intro l' member
    rcases List.mem_cons.1 member with rfl | below
    · exact List.prefix_rfl
    · obtain ⟨i, -, through⟩ := h.inPart l' below
      exact (List.prefix_append ..).trans through
  · intro found come
    exact h.collected found come

end Surveys

/-- Ways through different entries of a level do not meet again. -/
theorem place_eq_of_through {position p : List Nat} {i j : Nat} (first : position ++ [i] <+: p)
    (second : position ++ [j] <+: p) : i = j := by
  have sized : (position ++ [i]).length = (position ++ [j]).length := by
    rw [List.length_append, List.length_append, List.length_singleton, List.length_singleton]
  have same := (List.prefix_of_prefix_length_le first second sized.le).eq_of_length sized
  exact List.singleton_inj.1 (List.append_cancel_left same)

/-- Below the entries of a level, from one place on, a drill-down stays in the parts of the tree
that these entries lead to. -/
theorem exists_surveys_reportEach {l : AskedLevel} {below : Evidence → Inquiry (List Evidence)}
    (deeper : ∀ levels, Explored source s root log levels → l ∈ levels →
      ∀ i e, (l.kept s)[i]? = some e → ∃ more, Surveys source s root log levels
        (l.position ++ [i] <+: ·) [] (below e (log ++ sentFor levels)) more)
    {entries : List Evidence} {place : Nat} (left : (l.kept s).drop place = entries)
    {levels : List AskedLevel} (before : Explored source s root log levels) (asked : l ∈ levels) :
    ∃ more, Surveys source s root log levels (fun p => ∃ i, place ≤ i ∧ l.position ++ [i] <+: p)
      entries (reportEach below entries (log ++ sentFor levels)) more := by
  induction entries generalizing place levels with
  | nil => exact ⟨[], .nothing before⟩
  | cons e rest ih =>
      obtain ⟨kept, later⟩ := getElem?_of_drop_eq_cons left
      obtain ⟨more, survey⟩ := deeper levels before asked place e kept
      rw [reportEach_cons_apply]
      cases ran : below e (log ++ sentFor levels) with
      | mk answer mid =>
          rw [ran] at survey
          cases answer with
          | error cause =>
              exact ⟨more, survey.refused fun p through => ⟨place, Nat.le_refl _, through⟩⟩
          | ok found =>
              obtain ⟨others, surveyRest⟩ := ih later survey.explored
                (List.mem_append_left more asked)
              rw [← survey.sent] at surveyRest
              refine ⟨more ++ others, (survey.report e).append surveyRest ?_ ?_⟩
              · rintro p here ⟨i, beyond, through⟩
                rw [place_eq_of_through here through] at beyond
                exact Nat.lt_irrefl i beyond
              · rintro p (here | ⟨i, beyond, through⟩)
                · exact ⟨place, Nat.le_refl _, here⟩
                · exact ⟨i, Nat.le_of_succ_le beyond, through⟩

/-- An expansion asks for one level and yields what this keeps. -/
theorem expand_askedAt {levels : List AskedLevel} {position : List Nat} {filters : List Filter}
    {dimension : String} {l : AskedLevel}
    (here : l = askedAt source root log levels position dimension filters)
    (listed : s.dimensionList[position.length]? = some dimension)
    (inside : position.length < s.stopConditions.maxDepth.toNat) :
    expand source s root filters position.length (log ++ sentFor levels) =
      (l.answer.map fun _ => l.kept s, log ++ sentFor (levels ++ [l])) := by
  subst here
  rw [expand_eq _ listed inside, sentFor_append, List.append_assoc]
  refine Prod.ext ?_ rfl
  dsimp only [askedAt, AskedLevel.kept]
  cases source.breakdown (log ++ sentFor levels) (root.refine dimension filters) with
  | error cause => rfl
  | ok rows =>
      dsimp only [Except.map]
      rfl

/-- A visit to a position that levels lead to stays at it and below. -/
theorem exists_surveys_visit {levels : List AskedLevel} {position : List Nat}
    {filters : List Filter} (before : Explored source s root log levels)
    (opens : Opens s root levels position filters) :
    ∃ more, Surveys source s root log levels (position <+: ·) []
      (visit source s root filters position.length (log ++ sentFor levels)) more := by
  -- Each level down has one dimension less to go, and opens the positions of the next one.
  induction hleft : s.dimensionList.length - position.length using Nat.strongRecOn
    generalizing levels position filters with
  | ind left ih =>
      rw [visit_eq_expand, Inquiry.bind_apply]
      by_cases limit : position.length < s.depthLimit
      · obtain ⟨inside, short⟩ := Nat.lt_min.1 limit
        have listed := List.getElem?_eq_getElem short
        have asked := Explored.ask before opens listed inside
        obtain ⟨l, here⟩ : ∃ l, l = askedAt source root log levels position
          s.dimensionList[position.length] filters := ⟨_, rfl⟩
        obtain rfl : l.position = position := congrArg AskedLevel.position here
        obtain rfl : l.query.filters = filters := congrArg (·.query.filters) here
        rw [expand_askedAt here listed inside]
        rw [← here] at asked
        have deeper : ∀ levels', Explored source s root log levels' → l ∈ levels' →
            ∀ i e, (l.kept s)[i]? = some e → ∃ more, Surveys source s root log levels'
              (l.position ++ [i] <+: ·) [] (visit source s root (l.query.filters ++ [e.filter])
                (l.position.length + 1) (log ++ sentFor levels')) more := by
          intro levels' before' member i e kept
          have lower : s.dimensionList.length - (l.position ++ [i]).length < left := by
            rw [List.length_append, List.length_singleton]
            omega
          have visited := ih _ lower before' (.below member kept) rfl
          rwa [List.length_append, List.length_singleton] at visited
        cases l.answer with
        | error cause =>
            refine ⟨_, .descend (.idle asked ?_)⟩
            intro collected come
            cases come
        | ok rows =>
            obtain ⟨more, survey⟩ := exists_surveys_reportEach deeper List.drop_zero asked
              (List.mem_append_right levels List.mem_cons_self)
            exact ⟨_, .descend survey⟩
      · rw [expand_eq_nil _ (Nat.not_lt.1 limit)]
        exact ⟨[], .nothing before⟩

theorem exists_surveys_walk (source : Source) (s : BreakdownSettings) (root : BreakdownQuery)
    (log : QueryLog) :
    ∃ levels, Surveys source s root log [] ([] <+: ·) [] (walk source s root log) levels := by
  have unasked : Explored source s root log [] := .start
  obtain ⟨levels, survey⟩ := exists_surveys_visit unasked .top
  rw [show log ++ sentFor [] = log from List.append_nil log] at survey
  rw [walk_apply]
  exact ⟨levels, survey⟩

end Survey

/-- What a breakdown costs at most: its queries ask for levels of the tree of kept entries, each
once, and when it passes it has collected what these levels keep. -/
structure BreakdownSettings.WithinBudget (s : BreakdownSettings) (source : Source) (c : Context)
    (log : QueryLog) (outcome : Except SourceError Verdict × QueryLog)
    (levels : List AskedLevel) : Prop where
  explored : ∀ first root, s.firstQuery c = .ok (first, root) → Explored source s root log levels
  sent : outcome.2 = log ++ sentFor levels
  once : (levels.map (·.position)).Nodup
  silent : s.depthLimit = 0 → outcome.2 = log
  queries : levels.length ≤ ∑ i ∈ Finset.range s.depthLimit, s.stopConditions.topK.toNat ^ i
  collected : ∀ delta next, outcome.1 = .ok (.pass delta next) → ∃ first root found,
    s.firstQuery c = .ok (first, root) ∧ (walk source s root log).1 = .ok found ∧
    delta = some (s.publish first (s.published found)) ∧
    found.Perm (levels.flatMap (·.kept s)) ∧
    found.length ≤ ∑ i ∈ Finset.range s.depthLimit, s.stopConditions.topK.toNat ^ (i + 1) ∧
    ∀ e ∈ found, e.depth.toNat < s.depthLimit

/-- Whatever the source answers, a breakdown stays within its budget. -/
theorem Step.withinBudget_of_breakdown (source : Source) {step : Step} {s : BreakdownSettings}
    (kind : step.settings = .breakdown s) (c : Context) (log : QueryLog) :
    ∃ levels, s.WithinBudget source c log (runLeaf source step c log) levels := by
  unfold runLeaf
  rw [kind]
  dsimp only
  rw [runBreakdown_eq]
  cases asked : s.firstQuery c with
  | error cause =>
      refine ⟨[], ?_, (List.append_nil log).symm, List.nodup_nil, fun _ => rfl, Nat.zero_le _, ?_⟩
      · intro first root other
        cases asked.symm.trans other
      · intro delta next passed
        cases passed
  | ok query =>
      obtain ⟨first, root⟩ := query
      obtain ⟨levels, survey⟩ := exists_surveys_walk source s root log
      have fits := survey.explored.length_le survey.once
      dsimp only
      rw [← map_eq_pure_bind, Inquiry.map_apply]
      refine ⟨levels, ?_, survey.sent, survey.once, ?_, fits, ?_⟩
      · intro first' root' other
        cases asked.symm.trans other
        exact survey.explored
      · intro flat
        rw [flat] at fits
        rw [survey.sent, List.eq_nil_of_length_eq_zero (Nat.le_zero.1 fits)]
        exact List.append_nil log
      · intro delta next passed
        cases walked : (walk source s root log).1 with
        | error cause =>
            rw [walked] at passed
            cases passed
        | ok found =>
            rw [walked] at passed
            cases passed
            have same := survey.collected found walked
            refine ⟨first, root, found, asked, walked, rfl, same, ?_, ?_⟩
            · rw [same.length_eq]
              exact survey.explored.length_flatMap_kept_le survey.once
            · intro e member
              exact survey.explored.depth_lt (same.mem_iff.1 member)

/-- Three levels are asked for at most, and all the entries that they keep are collected. -/
theorem Step.withinBudget_of_mailForEach :
    ∃ levels root found, BreakdownSettings.productsThenMail.WithinBudget Source.mailForEach
        .compared [] (runLeaf Source.mailForEach drillToMail .compared []) levels ∧
      levels.length ≤ 3 ∧ (walk Source.mailForEach .productsThenMail root []).1 = .ok found ∧
      found.Perm (levels.flatMap (·.kept .productsThenMail)) ∧
      found.map (·.value) = ["p1", "mail", "p2", "mail"] := by
  have kind : drillToMail.settings = .breakdown .productsThenMail := rfl
  obtain ⟨levels, budget⟩ := withinBudget_of_breakdown .mailForEach kind .compared []
  have answers : ∀ log q, Source.mailForEach.breakdown log q = .ok q.mailForEachRows :=
    fun _ _ => rfl
  obtain ⟨first, root, asked, all, -⟩ := exists_findings_mailForEach
  have come := comesTo_runBreakdown .productsThenMail root answers drillToMail asked []
  obtain ⟨first', root', found, asked', walked, -, same, -, -⟩ := budget.collected _ _ come
  cases asked.symm.trans asked'
  cases (comesTo_walk .productsThenMail root answers []).symm.trans walked
  exact ⟨levels, root, _, budget, budget.queries, walked, same, all⟩

end RootCause
