import RootCause.Proofs.Insight.Grammar
import RootCause.Proofs.Insight.Ranked
import RootCause.Proofs.Insight.Tokens
import RootCause.Step.Dispatch

/-!
Names that an insight keeps for itself. A metric of such a name does not show, whatever it says, and
under every other name nothing but the metric shows.
-/

namespace RootCause

/-- The names of the tokens that an insight computes in a context. -/
def Context.tokenNames (c : Context) : List String :=
  (if c.runMeta.isSome then metaNames else []) ++ totalNames ++
  (if c.topFinding?.isSome then topNames else []) ++
  (List.range (selectRanked c.scoredEvidence).length).flatMap (fun i => slotNames (i + 1)) ++
  ["evidence_count", "confidence_score"]

/-- What shows for a metric. -/
def Context.metricText (c : Context) (name : String) : String :=
  match c.metric? name with
  | none | some .missing => "unknown"
  | some value => value.display

theorem names_computedTokens (c : Context) (confidence : Binary64) :
    (computedTokens c c.topFinding? (selectRanked c.scoredEvidence) confidence).map (·.1) =
      c.tokenNames := by
  unfold computedTokens Context.tokenNames
  rw [List.map_append, List.map_append, List.map_append, List.map_append, names_totalTokens,
    names_rankedTokens]
  cases c.runMeta <;> cases c.topFinding? <;> rfl

section Metrics

variable {m : Metrics} {name text : String}

/-- A metric that has a value is told under its name. -/
theorem told_eq_some {key : String} {value : MetricValue}
    (told : (if value.isMissing then none else some (key, value.display)) = some (name, text)) :
    key = name ∧ value.isMissing = false ∧ value.display = text := by
  split at told
  · cases told
  · next present =>
    cases told
    exact ⟨rfl, Bool.eq_false_iff.2 present, rfl⟩

theorem mem_metricTokens_iff :
    (name, text) ∈ metricTokens m ↔
      ∃ value, m.get? name = some value ∧ value.isMissing = false ∧ value.display = text := by
  unfold metricTokens
  rw [List.mem_filterMap]
  constructor
  · rintro ⟨⟨key, value⟩, member, told⟩
    obtain ⟨rfl, present, shown⟩ := told_eq_some told
    exact ⟨value, (Dict.lookup_eq_some_iff_mem m.ascending).2 member, present, shown⟩
  · rintro ⟨value, found, present, rfl⟩
    refine ⟨(name, value), (Dict.lookup_eq_some_iff_mem m.ascending).1 found, ?_⟩
    dsimp only
    rw [present]
    rfl

theorem ascending_metricTokens (m : Metrics) : Ascending (metricTokens m) := by
  unfold metricTokens
  refine List.Pairwise.filterMap _ ?_ m.ascending
  rintro ⟨key, value⟩ ⟨key', value'⟩ before ⟨name, text⟩ told ⟨name', text'⟩ told'
  obtain ⟨rfl, -, -⟩ := told_eq_some told
  obtain ⟨rfl, -, -⟩ := told_eq_some told'
  exact before

theorem get?_metricTokens (m : Metrics) (name : String) :
    (Dict.ofList (metricTokens m)).get? name =
      (m.get? name).bind fun value => if value.isMissing then none else some value.display := by
  have distinct := (ascending_metricTokens m).nodup_keys
  unfold Dict.ofList
  cases shown : (m.get? name).bind fun value =>
      if value.isMissing then none else some value.display with
  | some text =>
      obtain ⟨value, found, told⟩ := Option.bind_eq_some_iff.1 shown
      refine Dict.get?_insertAll_of_mem distinct (mem_metricTokens_iff.2 ⟨value, found, ?_⟩) _
      split at told
      · cases told
      · next present => exact ⟨Bool.eq_false_iff.2 present, Option.some.inj told⟩
  | none =>
      rw [Dict.get?_insertAll_of_notMem, Dict.get?_empty]
      intro taken
      obtain ⟨⟨_, text⟩, given, rfl⟩ := List.mem_map.1 taken
      obtain ⟨value, found, present, -⟩ := mem_metricTokens_iff.1 given
      rw [found, Option.bind_some, present] at shown
      cases shown

end Metrics

section Tokens

variable {c : Context} {m : Metrics}

/-- The tokens of an insight in a context. -/
def Context.tokens (c : Context) : Dict String :=
  insightTokens c c.topFinding? (selectRanked c.scoredEvidence) (confidence c.topFinding?)

theorem Context.tokens_eq (c : Context) :
    c.tokens = (Dict.ofList (metricTokens c.metrics)).insertAll
      (computedTokens c c.topFinding? (selectRanked c.scoredEvidence)
        (confidence c.topFinding?)) :=
  Dict.insertAll_append ..

/-- Under a name that is not computed a template shows the metric. -/
theorem shownText_tokens {name : String} (free : name ∉ c.tokenNames) :
    shownText c.tokens name = c.metricText name := by
  rw [← names_computedTokens c (confidence c.topFinding?)] at free
  unfold shownText Context.metricText Context.metric?
  rw [c.tokens_eq, Dict.get?_insertAll_of_notMem free, get?_metricTokens]
  cases c.metrics.get? name with
  | none => rfl
  | some value => cases value <;> rfl

/-- The metrics that are told in another form. -/
def totalSources : List String := [
  "cvr_delta_pct", "sessions_delta_pct", "orders_delta_pct", "atc_rate_delta_pct",
  "current_cvr", "baseline_cvr", "current_atc_rate", "baseline_atc_rate"]

/-- No metric that is told in another form has the name of a computed token. -/
theorem notMem_tokenNames_of_source {name : String} (source : name ∈ totalSources) :
    name ∉ c.tokenNames := by
  have fixed : ∀ name ∈ totalSources, name ∉ metaNames ∧ name ∉ totalNames ∧ name ∉ topNames ∧
      name ∉ ["evidence_count", "confidence_score"] ∧ name.toList.head? ≠ some 'r' := by decide
  obtain ⟨notMeta, notTotal, notTop, notLast, notSlot⟩ := fixed name source
  unfold Context.tokenNames
  simp only [List.mem_append, not_or]
  refine ⟨⟨⟨⟨?_, notTotal⟩, ?_⟩, ?_⟩, notLast⟩
  · intro member
    split at member
    · exact notMeta member
    · cases member
  · intro member
    split at member
    · exact notTop member
    · cases member
  · intro member
    obtain ⟨slot, -, own⟩ := List.mem_flatMap.1 member
    exact notSlot (head?_of_mem_slotNames own)

theorem totalTokens_congr
    (same : ∀ name ∈ totalSources, m.get? name = c.metrics.get? name) :
    totalTokens { c with metrics := m } = totalTokens c := by
  have number : ∀ name ∈ totalSources,
      Context.metricDouble? { c with metrics := m } name = c.metricDouble? name := by
    intro name source
    unfold Context.metricDouble? Context.metric?
    rw [same name source]
  have change : ∀ name ∈ ["cvr", "sessions", "orders", "atc_rate"],
      name ++ "_delta_pct" ∈ totalSources := by decide
  have rate : ∀ name ∈ ["current_cvr", "baseline_cvr", "current_atc_rate", "baseline_atc_rate"],
      name ∈ totalSources := by decide
  unfold totalTokens
  simp only [number, change, rate, List.mem_cons, true_or, or_true]

/-- What a metric says under the name of a computed token makes no difference to any token. -/
theorem tokens_congr
    (same : ∀ name, name ∉ c.tokenNames → m.get? name = c.metrics.get? name) :
    Context.tokens { c with metrics := m } = c.tokens := by
  have totals := totalTokens_congr fun name source => same name (notMem_tokenNames_of_source source)
  have computed : ∀ top ranked confidence,
      computedTokens { c with metrics := m } top ranked confidence =
        computedTokens c top ranked confidence := by
    intro top ranked confidence
    unfold computedTokens
    rw [totals]
  apply Dict.ext_get?
  intro name
  rw [Context.tokens_eq, Context.tokens_eq, computed]
  apply Dict.get?_insertAll_congr
  intro free
  rw [get?_metricTokens, get?_metricTokens, same name]
  rw [← names_computedTokens c (confidence c.topFinding?)]
  exact free

end Tokens

theorem Insight.ofContext_eq (template : InsightTemplate) (c : Context) :
    Insight.ofContext template c =
      ⟨renderTemplate template.summary c.tokens,
        template.details.map (renderTemplate · c.tokens), RootCause.confidence c.topFinding?⟩ := rfl

/-- Metrics do not stand in for what an insight computes. Contexts that differ in metrics under
computed names have one verdict, and a template shows under any other name the metric of that
name. -/
theorem Step.unspoofed_of_insight {step : Step} {i : InsightSettings}
    (kind : step.settings = .insight i) (source : Source) (log : QueryLog) (c : Context) :
    (∀ m : Metrics, (∀ name, name ∉ c.tokenNames → m.get? name = c.metrics.get? name) →
      runLeaf source step { c with metrics := m } log = runLeaf source step c log) ∧
    ∃ (insight : Insight) (value : String → String),
      runLeaf source step c log =
        (.ok (.pass (some (.ofScratch (.ofList [(Insight.scratchKey, insight.toJson)])))
          step.next), log) ∧
      insight.summary.toList = (Template.parse i.template.summary.toList).filled value ∧
      insight.details.map String.toList =
        i.template.details.map (fun line => (Template.parse line.toList).filled value) ∧
      ∀ name, name ∉ c.tokenNames → value name = c.metricText name := by
  have told : ∀ c : Context, runLeaf source step c log =
      (.ok (runInsight step i c), log) := by
    intro c
    unfold runLeaf
    rw [kind]
    rfl
  constructor
  · intro m same
    rw [told, told, runInsight, runInsight, Insight.ofContext_eq, Insight.ofContext_eq,
      tokens_congr same]
    rfl
  · refine ⟨.ofContext i.template c, shownText c.tokens, told c, ?_, ?_, ?_⟩
    · exact Template.toList_renderTemplate (Template.text_parse _) c.tokens
    · rw [Insight.ofContext_eq, List.map_map]
      apply List.map_congr_left
      intro line _
      exact Template.toList_renderTemplate (Template.text_parse _) c.tokens
    · intro name free
      exact shownText_tokens free

/-- One segment has changed. -/
def Context.noted : Context where
  runMeta := none
  filters := []
  metrics := .ofList [("note", .text "calm")]
  rootCausePath := []
  breakdowns := .ofList [("utm_source", [.ofSessions "utm_source" "google" (-37)])]
  scratch := ∅
  executionTrace := []

def Template.noted : Template :=
  slot "at ".toList "top_value".toList ⟨by decide, by decide⟩ ⟨by decide, by decide⟩ <|
  slot ": ".toList " note ".toList ⟨by decide, by decide⟩ ⟨by decide, by decide⟩ <|
  slot " ".toList "gap".toList ⟨by decide, by decide⟩ ⟨by decide, by decide⟩ <|
  literal [] (by decide)

def Step.tellNoted : Step where
  id := "tell"
  settings := .insight ⟨⟨String.ofList Template.noted.text, []⟩⟩
  next := none
  onFail := none

theorem Context.scoredEvidence_noted :
    Context.noted.scoredEvidence = [.ofSessions "utm_source" "google" (-37)] :=
  rank_eq_self (List.pairwise_singleton ..)

theorem Context.tokenNames_noted :
    Context.noted.tokenNames =
      totalNames ++ topNames ++ slotNames 1 ++ ["evidence_count", "confidence_score"] := by
  unfold tokenNames topFinding?
  rw [scoredEvidence_noted]
  decide

/-- A metric that says something else about the segment is not shown. -/
theorem Step.unspoofed_of_tellNoted :
    runLeaf .silent .tellNoted
      { Context.noted with metrics := Context.noted.metrics.insert "top_value" (.text "meta") } [] =
    runLeaf .silent .tellNoted .noted [] ∧
    ∃ (insight : Insight) (top : String),
      runLeaf .silent .tellNoted .noted [] =
        (.ok (.pass (some (.ofScratch (.ofList [(Insight.scratchKey, insight.toJson)]))) none),
          []) ∧
      insight.summary.toList = "at ".toList ++ top.toList ++ ": calm unknown".toList := by
  have kind : tellNoted.settings =
      .insight ⟨⟨String.ofList Template.noted.text, []⟩⟩ := rfl
  obtain ⟨unspoofed, insight, value, told, shown, -, others⟩ :=
    unspoofed_of_insight kind .silent [] .noted
  refine ⟨unspoofed _ ?_, insight, value "top_value", told, ?_⟩
  · intro name free
    rw [Dict.get?_insert, if_neg]
    rintro rfl
    rw [Context.tokenNames_noted] at free
    exact absurd (by decide) free
  · have parts : Template.parse (String.ofList Template.noted.text).toList = .noted := by
      rw [String.toList_ofList, Template.parse_text]
    have free : "note" ∉ Context.noted.tokenNames ∧ "gap" ∉ Context.noted.tokenNames := by
      rw [Context.tokenNames_noted]
      decide
    have note : value "note" = "calm" := (others "note" free.1).trans (by decide)
    have gap : value "gap" = "unknown" := (others "gap" free.2).trans (by decide)
    have names : String.ofList (trim "top_value".toList) = "top_value" ∧
        String.ofList (trim " note ".toList) = "note" ∧
        String.ofList (trim "gap".toList) = "gap" := by decide
    have filled : Template.noted.filled value =
        "at ".toList ++ (value "top_value").toList ++
          (": ".toList ++ (value "note").toList ++ (" ".toList ++ (value "gap").toList ++ [])) := by
      rw [← names.1, ← names.2.1, ← names.2.2]
      rfl
    rw [shown, parts, filled, note, gap]
    rfl

end RootCause
