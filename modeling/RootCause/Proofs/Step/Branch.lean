import RootCause.Step.Branch

/-!
What a branch finds. The first rule that applies is taken, and its breakdown match, if it has one,
hands on the first entry that meets the conditions.
-/

namespace RootCause

/-- The first entry, within the limit, that meets every condition. -/
def BreakdownMatch.firstMatch? (m : BreakdownMatch) (c : Context) : Option Evidence :=
  let entries := (c.breakdowns.get? m.dimension).getD []
  let scanned := match m.limit with
    | none => entries
    | some limit => entries.take limit.toNat
  scanned.find? fun e => m.conditions.all (·.holdsOfEntry e.toJson)

theorem BreakdownMatch.find?_eq (m : BreakdownMatch) (c : Context) :
    m.find? c = (m.firstMatch? c).map Evidence.toJson := by
  unfold find?
  rw [List.find?_map]
  rfl

/-- Scratch that hands an entry on. -/
def Delta.ofMatch (e : Evidence) : Delta :=
  .ofScratch (.ofList [(matchedBreakdownKey, e.toJson)])

namespace BranchRule

/-- The metrics match, and so does an entry if the rule asks for one. -/
def applies (rule : BranchRule) (c : Context) : Bool :=
  rule.metricsMatch c && rule.anyInBreakdowns.all fun m => (m.firstMatch? c).isSome

/-- The entry that the breakdown match of a rule finds, none for a rule without one. -/
def found? (rule : BranchRule) (c : Context) : Option Evidence :=
  rule.anyInBreakdowns.bind (·.firstMatch? c)

theorem outcome?_eq (rule : BranchRule) (c : Context) :
    rule.outcome? c = if rule.applies c then some ((rule.found? c).map .ofMatch) else none := by
  unfold outcome? applies found?
  cases rule.metricsMatch c with
  | false => rfl
  | true =>
      cases rule.anyInBreakdowns with
      | none => rfl
      | some m =>
          dsimp only
          rw [m.find?_eq]
          simp only [↓reduceIte, Bool.true_and, Option.all_some, Option.bind_some]
          cases m.firstMatch? c with
          | none => rfl
          | some e => rfl

end BranchRule

namespace BranchSettings

/-- The rule that a branch takes, none if it takes the default route or no route at all. -/
def rule? (s : BranchSettings) (c : Context) : Option BranchRule := s.rules.find? (·.applies c)

/-- The entry that a branch matches. It is none for the default route and for a rule without a
breakdown match. -/
def found? (s : BranchSettings) (c : Context) : Option Evidence := (s.rule? c).bind (·.found? c)

theorem found?_eq_none {s : BranchSettings} {c : Context}
    (h : ∀ rule, s.rule? c = some rule → rule.anyInBreakdowns = none) : s.found? c = none := by
  unfold found? BranchRule.found?
  cases taken : s.rule? c with
  | none => rfl
  | some rule => rw [Option.bind_some, h rule taken, Option.bind_none]

theorem findSome?_outcome? (s : BranchSettings) (c : Context) :
    (s.rules.findSome? fun rule => (rule.outcome? c).map (rule, ·)) =
      (s.rule? c).map fun rule => (rule, (rule.found? c).map .ofMatch) := by
  unfold rule?
  induction s.rules with
  | nil => rfl
  | cons rule rest ih =>
      rw [List.findSome?_cons, List.find?_cons, rule.outcome?_eq]
      cases rule.applies c with
      | false => exact ih
      | true => rfl

theorem runBranch_eq (s : BranchSettings) (c : Context) :
    runBranch s c =
      match s.rule? c with
      | some rule => .pass ((rule.found? c).map .ofMatch) rule.target
      | none =>
        match s.fallback.bind (·.target) with
        | some target => .pass none (some target)
        | none => .fail .noRoute := by
  unfold runBranch
  rw [s.findSome?_outcome?]
  cases s.rule? c with
  | none => rfl
  | some rule => rfl

/-- A branch that passes hands on the entry that it matches and nothing else. -/
theorem delta_of_runBranch {s : BranchSettings} {c : Context} {delta : Option Delta}
    {next : Option String} (h : runBranch s c = .pass delta next) :
    delta = (s.found? c).map .ofMatch := by
  rw [s.runBranch_eq] at h
  unfold found?
  cases taken : s.rule? c with
  | none =>
      rw [taken] at h
      dsimp only at h
      split at h
      · cases h
        rfl
      · cases h
  | some rule =>
      rw [taken] at h
      cases h
      rfl

end BranchSettings

end RootCause
