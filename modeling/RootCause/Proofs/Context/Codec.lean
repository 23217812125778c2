import RootCause.Context.Basic
import RootCause.Proofs.Evidence
import RootCause.Proofs.Time.Written

/-!
Contexts written as JSON and read again, in either form. A context that is kept between runs comes
back with its window bounds cut to the whole second and with nothing else changed; from then on
writing and reading change nothing.
-/

namespace RootCause

theorem DateTime.isBlankText_text (t : DateTime) : isBlankText t.text = false := by
  obtain ⟨first, others, shown⟩ := List.exists_cons_of_ne_nil t.dateText_ne_nil
  have visible : isBlank first = false := (visible_dateText (shown ▸ List.mem_cons_self)).1
  rw [isBlankText, text, String.toList_ofList, toChars, shown, List.cons_append, List.all_cons,
    visible, Bool.false_and]

def TimeWindow.wholeSeconds (w : TimeWindow) : TimeWindow :=
  ⟨w.start.map DateTime.wholeSecond, w.stop.map DateTime.wholeSecond⟩

def RunMeta.wholeSeconds (m : RunMeta) : RunMeta :=
  { m with
    window := m.window.map TimeWindow.wholeSeconds
    baselineWindow := m.baselineWindow.map TimeWindow.wholeSeconds }

/-- The context whose window bounds are cut to the whole second. -/
def Context.wholeSeconds (c : Context) : Context :=
  { c with runMeta := c.runMeta.map RunMeta.wholeSeconds }

def MetricValue.Finite (value : MetricValue) : Prop := ∀ x ∈ value.toDouble?, x.isFinite

/-- Every double of a context is finite or absent. -/
structure Context.Finite (c : Context) : Prop where
  metrics : ∀ e ∈ c.metrics.entries, e.2.Finite
  breakdowns : ∀ e ∈ c.breakdowns.entries, ∀ evidence ∈ e.2, evidence.Finite

/-- The values that a context leaves free are in normal form. -/
structure Context.Normal (c : Context) : Prop where
  rootCausePath : ∀ j ∈ c.rootCausePath, j.Normal
  scratch : ∀ e ∈ c.scratch.entries, e.2.Normal

section Written

variable {α : Type} {write : α → Json} {cut : α → α} (same : ∀ a, write (cut a) = write a)
include same

theorem Json.ofOption_map (value : Option α) :
    ofOption write (value.map cut) = ofOption write value := by
  cases value with
  | none => rfl
  | some a => exact same a

theorem Json.memberIfSome_map (key : String) (value : Option α) :
    memberIfSome key write (value.map cut) = memberIfSome key write value := by
  cases value with
  | none => rfl
  | some a => exact congrArg (fun j => [(key, j)]) (same a)

omit same

theorem TimeWindow.toJson_wholeSeconds (w : TimeWindow) : w.wholeSeconds.toJson = w.toJson := by
  have bound : ∀ bound : Option DateTime,
      Json.ofOption (fun t => .string t.text) (bound.map DateTime.wholeSecond) =
        Json.ofOption (fun t => .string t.text) bound := Json.ofOption_map fun _ => rfl
  unfold toJson wholeSeconds
  dsimp only
  rw [bound, bound]

theorem RunMeta.toJson_wholeSeconds (m : RunMeta) : m.wholeSeconds.toJson = m.toJson := by
  unfold toJson wholeSeconds
  dsimp only
  rw [Json.memberIfSome_map TimeWindow.toJson_wholeSeconds,
    Json.memberIfSome_map TimeWindow.toJson_wholeSeconds]

/-- What a context loses is not written. -/
theorem Context.toJson_wholeSeconds (c : Context) : c.wholeSeconds.toJson = c.toJson := by
  unfold toJson wholeSeconds
  dsimp only
  rw [Json.memberIfSome_map RunMeta.toJson_wholeSeconds]

end Written

variable (f : Json.Form)

theorem TimeWindow.boundOfJson?_form (bound : Option DateTime) :
    boundOfJson? (f.of (.ofOption (fun t => .string t.text) bound)) =
      some (bound.map DateTime.wholeSecond) := by
  cases bound with
  | none =>
      rw [Json.ofOption, f.of_null]
      rfl
  | some t =>
      rw [Json.ofOption, f.of_string, boundOfJson?, t.isBlankText_text, DateTime.ofText?_text]
      rfl

theorem TimeWindow.ofJson?_form (w : TimeWindow) :
    ofJson? (f.of w.toJson) = some w.wholeSeconds := by
  obtain ⟨r, read, found⟩ : ∃ r : Record, (f.of w.toJson).record? shape = some r ∧ _ :=
    Json.exists_plain_record? _ _ _ (.refl _) (by simp) f
  simp only [List.forall_mem_cons, List.lookup_cons, String.reduceBEq, Option.map_some] at found
  unfold ofJson?
  rw [read]
  simp only [Option.bind_eq_bind, Option.bind_some, Record.orElse, found, boundOfJson?_form,
    Option.pure_def]
  rfl

theorem RunMeta.ofJson?_form (m : RunMeta) : ofJson? (f.of m.toJson) = some m.wholeSeconds := by
  obtain ⟨r, read, found⟩ : ∃ r : Record, (f.of m.toJson).record? shape = some r ∧ _ :=
    Json.exists_plain_record? _
      (["baselineWindow"] ++ ["metric", "tenantId"] ++ ["triggeredAt"] ++ ["window"]) _
      (by
        simp only [List.map_append]
        refine ((List.Sublist.append ?_ (.refl _)).append ?_).append ?_ <;>
          exact Json.keys_memberIfSome_sublist ..)
      (by simp) f
  simp only [List.forall_mem_cons, List.lookup_append, List.lookup_cons, String.reduceBEq,
    Json.lookup_memberIfSome, String.reduceEq, ↓reduceIte, Option.map_some, Option.none_or,
    Option.or_none, List.lookup_nil] at found
  obtain ⟨tenant, metric, triggered, window, baseline, -⟩ := found
  have trigger : r.optional "triggeredAt" Json.toText? = some m.triggeredAt :=
    Record.optional_eq triggered rfl fun s _ => Json.toText?_form f s
  have current := Record.optional_eq_map window rfl fun w _ => TimeWindow.ofJson?_form f w
  have before := Record.optional_eq_map baseline rfl fun w _ => TimeWindow.ofJson?_form f w
  unfold ofJson?
  rw [read]
  simp only [Option.bind_eq_bind, Option.bind_some, trigger, current, before]
  simp only [Record.orElse, tenant, metric, Json.toText?_form, Option.bind_some, Option.pure_def]
  rfl

theorem Filter.ofJson?_form (filter : Filter) : ofJson? (f.of filter.toJson) = some filter := by
  obtain ⟨r, read, found⟩ : ∃ r : Record, (f.of filter.toJson).record? (.plain _ 2) = some r ∧ _ :=
    Json.exists_plain_record? ["dimension", "value"] _ _ (.refl _) (by simp) f
  simp only [List.forall_mem_cons, List.lookup_cons, String.reduceBEq, Option.map_some] at found
  unfold ofJson?
  rw [read]
  simp only [Option.bind_eq_bind, Option.bind_some, Record.required, found, Json.toText?_form,
    Option.pure_def]

theorem MetricValue.ofJson?_form {value : MetricValue} (h : value.Finite) :
    ofJson? (f.of value.toJson) = some value := by
  cases value with
  | number x =>
      have finite : x.isFinite := h x rfl
      rw [toJson, f.of_ofDouble, Json.ofDouble, if_pos finite]
      rfl
  | flag b => rw [toJson, f.of_bool, ofJson?]
  | text s => rw [toJson, f.of_string, ofJson?]
  | missing => rw [toJson, f.of_null, ofJson?]

theorem TraceEntry.instantOfJson?_form (t : Instant) :
    instantOfJson? (f.of (.string t.text)) = some t := by
  rw [f.of_string, instantOfJson?, Instant.ofText?_text]

theorem TraceEntry.ofJson?_form (entry : TraceEntry) :
    ofJson? (f.of entry.toJson) = some entry := by
  obtain ⟨r, read, found⟩ : ∃ r : Record, (f.of entry.toJson).record? (.plain _ 3) = some r ∧ _ :=
    Json.exists_plain_record? ["stepId", "type", "timestamp"] _ _ (.refl _) (by simp) f
  simp only [List.forall_mem_cons, List.lookup_cons, String.reduceBEq, Option.map_some] at found
  unfold ofJson?
  rw [read]
  simp only [Option.bind_eq_bind, Option.bind_some, Record.required, found, Json.toText?_form,
    instantOfJson?_form, Option.pure_def]

theorem Breakdowns.ofJson?_form {b : Breakdowns}
    (h : ∀ e ∈ b.entries, ∀ evidence ∈ e.2, evidence.Finite) :
    ofJson? (f.of (toJson b)) = some b :=
  Json.toDict?_ofDict f fun e listed => Json.toList?_array f fun evidence member =>
    Evidence.ofJson?_form f (h e listed evidence member)

namespace Context

theorem ofJson?_form {c : Context} (finite : c.Finite) (normal : c.Normal) :
    ofJson? (f.of c.toJson) = some c.wholeSeconds := by
  obtain ⟨r, read, found⟩ : ∃ r : Record, (f.of c.toJson).record? shape = some r ∧ _ :=
    Json.exists_plain_record? _
      (["breakdowns", "executionTrace", "filters"] ++ ["meta"] ++
        ["metrics", "rootCausePath", "scratch"]) _
      (by
        simp only [List.map_append]
        exact ((List.Sublist.refl _).append (Json.keys_memberIfSome_sublist ..)).append (.refl _))
      (by simp) f
  simp only [List.forall_mem_cons, List.lookup_append, List.lookup_cons, String.reduceBEq,
    Json.lookup_memberIfSome, String.reduceEq, ↓reduceIte, Option.map_some, Option.none_or,
    Option.or_none, List.lookup_nil] at found
  obtain ⟨runMeta, filters, metrics, rootCausePath, breakdowns, scratch, trace, -⟩ := found
  have about := Record.optional_eq_map runMeta rfl fun m _ => RunMeta.ofJson?_form f m
  have filtered := Json.toList?_array f fun filter (_ : filter ∈ c.filters) =>
    filter.ofJson?_form f
  have measured := Json.toDict?_ofDict f fun e listed =>
    MetricValue.ofJson?_form f (finite.metrics e listed)
  have path : (f.of (.array c.rootCausePath)).toList? Json.toValue? = some c.rootCausePath := by
    have kept : (f.of (.array (c.rootCausePath.map id))).toList? Json.toValue? = _ :=
      Json.toList?_array f fun j listed => Json.toValue?_normal f (normal.rootCausePath j listed)
    rwa [List.map_id] at kept
  have evidence := Breakdowns.ofJson?_form f finite.breakdowns
  have noted : (f.of (.ofDict id c.scratch)).toDict? Json.toValue? = some c.scratch :=
    Json.toDict?_ofDict f fun e listed => Json.toValue?_normal f (normal.scratch e listed)
  have traced := Json.toList?_array f fun entry (_ : entry ∈ c.executionTrace) =>
    entry.ofJson?_form f
  unfold ofJson?
  rw [read]
  simp only [Option.bind_eq_bind, Option.bind_some, about]
  simp only [Record.orElse, filters, metrics, rootCausePath, breakdowns, scratch, trace, filtered,
    measured, path, evidence, noted, traced, Option.bind_some, Option.pure_def]
  rfl

/-- A written context is read with its bounds cut to the whole second, and is then written as
before. -/
theorem reads_wholeSeconds (c : Context) (finite : c.Finite) (normal : c.Normal) :
    ofJson? c.toJson = some c.wholeSeconds ∧
      ofJson? c.toJson.normalize = some c.wholeSeconds ∧
      c.wholeSeconds.toJson = c.toJson :=
  ⟨ofJson?_form .written finite normal, ofJson?_form .normal finite normal,
    c.toJson_wholeSeconds⟩

/-- Half a second into a leap second. -/
def intoLeapSecond : DateTime := ⟨2016, 12, 31, 23, 59, 60, 500000000, by decide, by decide⟩

/-- A context of a run whose window has no end. -/
def openEnded (start : DateTime) : Context where
  runMeta := some ⟨"acme", "cvr", none, some ⟨some start, none⟩, none⟩
  filters := [⟨"channel", "ads"⟩]
  metrics := .ofList [("change", .missing), ("label", .text "null"), ("orders", .number (.ofInt 8))]
  rootCausePath := [.array [.null]]
  breakdowns := .ofList [("channel", [{
    dimension := "channel"
    value := "ads"
    displayValue := ""
    depth := 0
    current := ⟨8, 500, 20, some (.ofRatio 8 500), none⟩
    baseline := ⟨0, 0, 0, none, none⟩
    deltas := ⟨none, none, none, none, none⟩
    sessionShare := .ofNat 1
    orderShare := .ofNat 1
    baselineSessionShare := .ofNat 0
    baselineOrderShare := .ofNat 0
    baseMetric := .orders }])]
  scratch := .ofList [("note", .object [("at", .null), ("of", .array [])])]
  executionTrace := [⟨"drill", "breakdown", ⟨intoLeapSecond⟩⟩]

theorem finite_openEnded : (openEnded intoLeapSecond).Finite where
  metrics := by
    have each : ∀ e ∈ (openEnded intoLeapSecond).metrics.entries,
        ∀ x ∈ e.2.toDouble?, x.isFinite := by decide +kernel
    exact each
  breakdowns := by
    refine List.forall_mem_singleton.2 (List.forall_mem_singleton.2 ?_)
    constructor <;> try decide +kernel
    · exact ⟨by decide +kernel, by decide⟩
    · exact ⟨by decide, by decide⟩
    · exact ⟨by decide, by decide, by decide, by decide, by decide⟩

theorem normal_openEnded (start : DateTime) : (openEnded start).Normal where
  rootCausePath := List.forall_mem_singleton.2 (.array (List.forall_mem_singleton.2 .null))
  scratch := by
    refine List.forall_mem_singleton.2 (.object ?_ ?_)
    · exact List.Pairwise.cons (by decide) (List.pairwise_singleton ..)
    · exact List.forall_mem_cons.2 ⟨.null, List.forall_mem_singleton.2 (.array nofun)⟩

theorem reads_wholeSeconds_openEnded :
    (openEnded intoLeapSecond).Finite ∧ (openEnded intoLeapSecond).Normal ∧
      intoLeapSecond.wholeSecond.second = 60 ∧ intoLeapSecond.wholeSecond ≠ intoLeapSecond ∧
      ofJson? (openEnded intoLeapSecond).toJson = some (openEnded intoLeapSecond.wholeSecond) ∧
      ofJson? (openEnded intoLeapSecond).toJson.normalize =
        some (openEnded intoLeapSecond.wholeSecond) ∧
      (openEnded intoLeapSecond.wholeSecond).toJson = (openEnded intoLeapSecond).toJson :=
  have cut : (openEnded intoLeapSecond).wholeSeconds = openEnded intoLeapSecond.wholeSecond := rfl
  ⟨finite_openEnded, normal_openEnded _, rfl, by decide,
    cut ▸ reads_wholeSeconds _ finite_openEnded (normal_openEnded _)⟩

end Context

end RootCause
