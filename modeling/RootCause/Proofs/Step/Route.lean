import RootCause.Proofs.Dict
import RootCause.Proofs.First
import RootCause.Proofs.Step.Branch
import RootCause.Proofs.Step.Condition
import RootCause.Step.Dispatch

/-!
The route that a branch takes: that of its first rule that qualifies, else the default one. What a
rule asks of the metrics and of a breakdown is stated without the search that decides it.
-/

namespace RootCause

namespace BreakdownMatch

variable {m : BreakdownMatch} {c : Context} {e : Evidence}

/-- The entries that a search goes through: those under its key, as far as the limit lets it. -/
def scanned (m : BreakdownMatch) (c : Context) : List Evidence :=
  let entries := (c.breakdowns.get? m.dimension).getD []
  match m.limit with
  | none => entries
  | some limit => entries.take limit.toNat

/-- An entry that the search is for. -/
def Admits (m : BreakdownMatch) (e : Evidence) : Prop := ∀ cond ∈ m.conditions, cond.MetBy e

theorem all_holdsOfEntry_iff :
    m.conditions.all (·.holdsOfEntry e.toJson) ↔ m.Admits e := by
  rw [List.all_eq_true]
  exact forall₂_congr fun cond _ => cond.holdsOfEntry_iff

theorem firstMatch?_eq_some_iff :
    m.firstMatch? c = some e ↔ ∃ i, FirstAt m.Admits (m.scanned c) i e :=
  find?_eq_some_iff_firstAt fun _ _ => all_holdsOfEntry_iff

theorem isSome_firstMatch?_iff : (m.firstMatch? c).isSome ↔ ∃ e ∈ m.scanned c, m.Admits e :=
  List.find?_isSome.trans (exists_congr fun _ => and_congr_right fun _ => all_holdsOfEntry_iff)

end BreakdownMatch

namespace BranchRule

variable {rule : BranchRule} {c : Context} {delta : Option Delta}

/-- Every matcher that a rule has is content with the context. -/
structure Qualifies (rule : BranchRule) (c : Context) : Prop where
  all : ∀ conditions ∈ rule.all, ∀ cond ∈ conditions, cond.MetIn c
  any : ∀ conditions ∈ rule.any, conditions = [] ∨ ∃ cond ∈ conditions, cond.MetIn c
  entry : ∀ m ∈ rule.anyInBreakdowns, ∃ e ∈ m.scanned c, m.Admits e

theorem metricsMatch_iff :
    rule.metricsMatch c ↔
      (∀ conditions ∈ rule.all, ∀ cond ∈ conditions, cond.MetIn c) ∧
      ∀ conditions ∈ rule.any, conditions = [] ∨ ∃ cond ∈ conditions, cond.MetIn c := by
  unfold metricsMatch
  simp only [Bool.and_eq_true, Bool.or_eq_true, List.all_eq_true, List.any_eq_true,
    List.isEmpty_iff, Condition.holdsOfMetrics_iff]
  -- An absent list is an empty one, and that asks nothing.
  refine and_congr ?_ ?_
  · cases rule.all <;> simp
  · cases rule.any <;> simp

theorem applies_iff : rule.applies c ↔ rule.Qualifies c := by
  have entry : rule.anyInBreakdowns.all (fun m => (m.firstMatch? c).isSome) ↔
      ∀ m ∈ rule.anyInBreakdowns, ∃ e ∈ m.scanned c, m.Admits e := by
    rw [Option.all_eq_true]
    exact forall₂_congr fun m _ => m.isSome_firstMatch?_iff
  unfold applies
  rw [Bool.and_eq_true, metricsMatch_iff, entry]
  constructor
  · rintro ⟨⟨all, any⟩, entry⟩
    exact ⟨all, any, entry⟩
  · rintro ⟨all, any, entry⟩
    exact ⟨⟨all, any⟩, entry⟩

/-- What a rule hands on when it is taken: nothing, or a scratch with the first entry that its
search is for. -/
inductive HandsOn (rule : BranchRule) (c : Context) : Option Delta → Prop
  | nothing (unasked : rule.anyInBreakdowns = none) : HandsOn rule c none
  | entry {m : BreakdownMatch} {i : Nat} {e : Evidence} {scratch : Dict Json}
      (asked : rule.anyInBreakdowns = some m) (first : FirstAt m.Admits (m.scanned c) i e)
      (only : scratch.entries = [(matchedBreakdownKey, e.toJson)]) :
      HandsOn rule c (some { scratch := some scratch })

theorem handsOn_iff (qualifies : rule.Qualifies c) :
    rule.HandsOn c delta ↔ delta = (rule.found? c).map .ofMatch := by
  unfold found?
  constructor
  · intro hands
    cases hands with
    | nothing unasked => rw [unasked]; rfl
    | @entry m i e scratch asked first only =>
        have same : scratch = .ofList [(matchedBreakdownKey, e.toJson)] := Dict.ext only
        have found := BreakdownMatch.firstMatch?_eq_some_iff.2 ⟨i, first⟩
        rw [asked, Option.bind_some, found, same]
        rfl
  · rintro rfl
    cases asked : rule.anyInBreakdowns with
    | none => exact .nothing asked
    | some m =>
        -- A rule that qualifies has an entry to hand on.
        obtain ⟨e, found⟩ := Option.isSome_iff_exists.1
          (m.isSome_firstMatch?_iff.2 (qualifies.entry m asked))
        obtain ⟨i, first⟩ := BreakdownMatch.firstMatch?_eq_some_iff.1 found
        rw [Option.bind_some, found]
        exact .entry asked first rfl

end BranchRule

namespace BranchSettings

variable {s : BranchSettings} {c : Context} {v : Verdict}

/-- What a branch comes to: a pass of its first rule that qualifies, a pass by the default route
when no rule does, and a failure when no route is left. -/
inductive Takes (s : BranchSettings) (c : Context) : Verdict → Prop
  | rule {i : Nat} {rule : BranchRule} {delta : Option Delta}
      (first : FirstAt (·.Qualifies c) s.rules i rule) (hands : rule.HandsOn c delta) :
      Takes s c (.pass delta rule.target)
  | fallback {route : BranchRoute} {target : String}
      (unmatched : ∀ rule ∈ s.rules, ¬rule.Qualifies c) (default : s.fallback = some route)
      (named : route.target = some target) : Takes s c (.pass none (some target))
  | stuck (unmatched : ∀ rule ∈ s.rules, ¬rule.Qualifies c)
      (unnamed : ∀ route ∈ s.fallback, route.target = none) : Takes s c (.fail .noRoute)

theorem rule?_eq_some_iff {rule : BranchRule} :
    s.rule? c = some rule ↔ ∃ i, FirstAt (·.Qualifies c) s.rules i rule :=
  find?_eq_some_iff_firstAt fun _ _ => BranchRule.applies_iff

theorem rule?_eq_none_iff : s.rule? c = none ↔ ∀ rule ∈ s.rules, ¬rule.Qualifies c :=
  find?_eq_none_iff_forall fun _ _ => BranchRule.applies_iff

theorem takes_iff : s.Takes c v ↔ v = runBranch s c := by
  rw [runBranch_eq]
  constructor
  · intro takes
    cases takes with
    | @rule i rule delta first hands =>
        rw [rule?_eq_some_iff.2 ⟨i, first⟩, (BranchRule.handsOn_iff first.holds).1 hands]
    | fallback unmatched default named =>
        rw [rule?_eq_none_iff.2 unmatched, default]
        dsimp only [Option.bind_some]
        rw [named]
    | stuck unmatched unnamed =>
        rw [rule?_eq_none_iff.2 unmatched, Option.bind_eq_none_iff.2 unnamed]
  · rintro rfl
    cases taken : s.rule? c with
    | some rule =>
        obtain ⟨i, first⟩ := rule?_eq_some_iff.1 taken
        exact .rule first ((BranchRule.handsOn_iff first.holds).2 rfl)
    | none =>
        have unmatched := rule?_eq_none_iff.1 taken
        cases route : s.fallback.bind (·.target) with
        | some target =>
            obtain ⟨way, default, named⟩ := Option.bind_eq_some_iff.1 route
            exact .fallback unmatched default named
        | none => exact .stuck unmatched (Option.bind_eq_none_iff.1 route)

end BranchSettings

/-- A branch always passes or fails, in the one way that its rules and its default route give, and
asks nothing. What is absent meets no condition. -/
theorem Step.routed_of_branch {source : Source} {step : Step} {s : BranchSettings}
    (kind : step.settings = .branch s) (c : Context) (log : QueryLog) :
    (∃ v, runLeaf source step c log = (.ok v, log) ∧ ∀ v', s.Takes c v' ↔ v' = v) ∧
    (∀ cond : Condition, c.metric? cond.metric = none → cond.holdsOfMetrics c = false) ∧
    ∀ (cond : Condition) (e : Evidence), cond.metric ∉ e.fields.map (·.1) →
      cond.holdsOfEntry e.toJson = false := by
  refine ⟨⟨runBranch s c, ?_, fun v' => BranchSettings.takes_iff⟩, ?_, ?_⟩
  · unfold runLeaf
    rw [kind]
    rfl
  · intro cond absent
    unfold Condition.holdsOfMetrics
    rw [absent]
  · intro cond e absent
    unfold Condition.holdsOfEntry
    rw [resolveField?_toJson, Dict.lookup_eq_none_of_notMem absent]

/-- Three rules with mail as their aim: the first asks for a metric, and the second looks at one
entry only. -/
def BranchSettings.towardsMail : BranchSettings where
  rules := [
    ⟨some [⟨"cvr", .ne, .null⟩], none, none, some "rate"⟩,
    ⟨none, some [⟨"data_valid", .eq, .bool true⟩],
      some ⟨"utm_source", [⟨"value", .eq, .string "mail"⟩], some 1⟩, some "leading"⟩,
    ⟨none, some [], some ⟨"utm_source", [⟨"value", .eq, .string "mail"⟩], none⟩, some "listed"⟩]
  fallback := some ⟨some "elsewhere"⟩

def Context.mailSecond : Context where
  runMeta := none
  filters := []
  metrics := .ofList [("data_valid", .flag true)]
  rootCausePath := []
  breakdowns := .ofList
    [("utm_source", [.untouched "utm_source" "search", .untouched "utm_source" "mail"])]
  scratch := ∅
  executionTrace := []

theorem Step.routed_towardsMail :
    (∀ v, BranchSettings.towardsMail.Takes .mailSecond v ↔
      v = .pass (some (.ofMatch (.untouched "utm_source" "mail"))) (some "listed")) ∧
    Condition.holdsOfMetrics ⟨"cvr", .ne, .null⟩ .mailSecond = false ∧
    Condition.holdsOfEntry ⟨"product_id", .ne, .null⟩
      (Evidence.untouched "utm_source" "mail").toJson = false := by
  let step : Step := ⟨"route", .branch .towardsMail, none, none⟩
  obtain ⟨⟨v, ran, taken⟩, metric, field⟩ :=
    @Step.routed_of_branch .silent step _ rfl .mailSecond []
  cases Except.ok.inj (congrArg Prod.fst ran)
  exact ⟨taken, metric _ rfl, field _ _ (by decide)⟩

end RootCause
