import RootCause.Proofs.Evidence
import RootCause.Workflow.Codec

/-!
Workflows written as JSON and read again, in either form. A workflow leaves two kinds of values
free, those of conditions and of metadata. When these are in normal form, nothing is lost.
-/

namespace RootCause

def Condition.Normal (c : Condition) : Prop := c.value.Normal

def BreakdownMatch.Normal (m : BreakdownMatch) : Prop := ∀ c ∈ m.conditions, c.Normal

structure BranchRule.Normal (b : BranchRule) : Prop where
  all : ∀ cs ∈ b.all, ∀ c ∈ cs, c.Normal
  any : ∀ cs ∈ b.any, ∀ c ∈ cs, c.Normal
  anyInBreakdowns : ∀ m ∈ b.anyInBreakdowns, m.Normal

def StepSettings.Normal : StepSettings → Prop
  | .branch s => ∀ rule ∈ s.rules, rule.Normal
  | _ => True

/-- The values that a workflow leaves free are in normal form. -/
structure Workflow.Normal (w : Workflow) : Prop where
  steps : ∀ s ∈ w.steps, s.settings.Normal
  metadata : ∀ e ∈ w.metadata.entries, e.2.Normal

instance : LawfulNamed CompareOp := ⟨by intro op; cases op <;> rfl⟩
instance : LawfulNamed FilterMode := ⟨by intro mode; cases mode <;> rfl⟩
instance : LawfulNamed MinSessionsMode := ⟨by intro mode; cases mode <;> rfl⟩
instance : LawfulNamed RankBy := ⟨by intro key; cases key <;> rfl⟩
instance : LawfulNamed RankOrder := ⟨by intro order; cases order <;> rfl⟩
instance : LawfulNamed StepKind := ⟨by intro kind; cases kind <;> rfl⟩
instance : LawfulNamed FailAction := ⟨by intro action; cases action <;> rfl⟩

variable (f : Json.Form)

theorem Condition.ofJson?_form {c : Condition} (h : c.Normal) :
    ofJson? (f.of c.toJson) = some c := by
  obtain ⟨r, read, found⟩ : ∃ r : Record, (f.of c.toJson).record? (.plain _ 3) = some r ∧ _ :=
    Json.exists_plain_record? ["metric", "op", "value"] _ _ (.refl _) (by simp) f
  simp only [List.forall_mem_cons, List.lookup_cons, String.reduceBEq, Option.map_some] at found
  unfold ofJson?
  rw [read]
  simp only [Option.bind_eq_bind, Option.bind_some, Record.required, found, Json.toText?_form,
    Json.toNamed?_form, Json.toValue?_normal f h, Option.pure_def]

theorem Condition.toList?_form {cs : List Condition} (h : ∀ c ∈ cs, c.Normal) :
    (f.of (.array (cs.map toJson))).toList? ofJson? = some cs :=
  Json.toList?_array f fun c member => ofJson?_form f (h c member)

theorem BreakdownMatch.ofJson?_form {m : BreakdownMatch} (h : m.Normal) :
    ofJson? (f.of m.toJson) = some m := by
  obtain ⟨r, read, found⟩ : ∃ r : Record, (f.of m.toJson).record? (.plain _ 1) = some r ∧ _ :=
    Json.exists_plain_record? ["dimension", "conditions", "limit"]
      (["conditions", "dimension"] ++ ["limit"]) _
      (by
        rw [List.map_append]
        exact (List.Sublist.refl _).append (Json.keys_memberIfSome_sublist ..))
      (by simp) f
  simp only [List.forall_mem_cons, List.lookup_append, List.lookup_cons, String.reduceBEq,
    Json.lookup_memberIfSome, String.reduceEq, ↓reduceIte, Option.map_some, Option.none_or,
    Option.or_none, List.lookup_nil] at found
  obtain ⟨dimension, conditions, limit, -⟩ := found
  have limited : r.optional "limit" Json.toCount? = some m.limit :=
    Record.optional_eq limit rfl fun n _ => Json.toCount?_form f n
  unfold ofJson?
  rw [read]
  simp only [Option.bind_eq_bind, Option.bind_some, Record.required, dimension, Json.toText?_form,
    Record.orElse, conditions, Condition.toList?_form f h, limited, Option.pure_def]

theorem BranchRule.ofJson?_form {b : BranchRule} (h : b.Normal) :
    ofJson? (f.of b.toJson) = some b := by
  obtain ⟨r, read, found⟩ : ∃ r : Record, (f.of b.toJson).record? (.plain _ 0) = some r ∧ _ :=
    Json.exists_plain_record? ["all", "any", "any_in_breakdowns", "then"]
      (["all"] ++ ["any"] ++ ["any_in_breakdowns"] ++ ["then"]) _
      (by
        simp only [List.map_append]
        refine ((List.Sublist.append ?_ ?_).append ?_).append ?_ <;>
          exact Json.keys_memberIfSome_sublist ..)
      (by simp) f
  simp only [List.forall_mem_cons, List.lookup_append, Json.lookup_memberIfSome, String.reduceEq,
    ↓reduceIte, Option.none_or, Option.or_none] at found
  obtain ⟨all, any, anyInBreakdowns, target, -⟩ := found
  have everyOne : r.optional "all" (Json.toList? Condition.ofJson?) = some b.all :=
    Record.optional_eq all rfl fun cs given => Condition.toList?_form f (h.all cs given)
  have someOne : r.optional "any" (Json.toList? Condition.ofJson?) = some b.any :=
    Record.optional_eq any rfl fun cs given => Condition.toList?_form f (h.any cs given)
  have search : r.optional "any_in_breakdowns" BreakdownMatch.ofJson? = some b.anyInBreakdowns :=
    Record.optional_eq anyInBreakdowns rfl fun m given =>
      BreakdownMatch.ofJson?_form f (h.anyInBreakdowns m given)
  have aim : r.optional "then" Json.toText? = some b.target :=
    Record.optional_eq target rfl fun s _ => Json.toText?_form f s
  unfold ofJson?
  rw [read]
  simp only [Option.bind_eq_bind, Option.bind_some, everyOne, someOne, search, aim,
    Option.pure_def]

theorem BranchRoute.ofJson?_form (b : BranchRoute) : ofJson? (f.of b.toJson) = some b := by
  obtain ⟨r, read, found⟩ : ∃ r : Record, (f.of b.toJson).record? (.plain _ 0) = some r ∧ _ :=
    Json.exists_plain_record? ["then"] _ _ (Json.keys_memberIfSome_sublist ..) (by simp) f
  have target := found "then" List.mem_cons_self
  rw [Json.lookup_memberIfSome, if_pos rfl] at target
  have aim : r.optional "then" Json.toText? = some b.target :=
    Record.optional_eq target rfl fun s _ => Json.toText?_form f s
  unfold ofJson?
  rw [read]
  simp only [Option.bind_eq_bind, Option.bind_some, aim, Option.pure_def]

theorem StopConditions.ofJson?_form (s : StopConditions) : ofJson? (f.of s.toJson) = some s := by
  obtain ⟨r, read, found⟩ : ∃ r : Record, (f.of s.toJson).record? (.plain _ 0) = some r ∧ _ :=
    Json.exists_plain_record?
      ["max_depth", "min_sessions", "min_current_sessions", "min_baseline_sessions", "top_k"]
      (["max_depth"] ++ ["min_baseline_sessions"] ++ ["min_current_sessions"] ++
        ["min_sessions", "top_k"]) _
      (by
        simp only [List.map_append]
        refine ((List.Sublist.append (.refl _) ?_).append ?_).append (.refl _) <;>
          exact Json.keys_memberIfSome_sublist ..)
      (by simp) f
  simp only [List.forall_mem_cons, List.lookup_append, List.lookup_cons, String.reduceBEq,
    Json.lookup_memberIfSome, String.reduceEq, ↓reduceIte, Option.map_some, Option.none_or,
    Option.or_none, List.lookup_nil] at found
  obtain ⟨maxDepth, minSessions, minCurrent, minBaseline, topK, -⟩ := found
  have current : r.optional "min_current_sessions" Json.toCount? = some s.minCurrentSessions :=
    Record.optional_eq minCurrent rfl fun n _ => Json.toCount?_form f n
  have baseline : r.optional "min_baseline_sessions" Json.toCount? = some s.minBaselineSessions :=
    Record.optional_eq minBaseline rfl fun n _ => Json.toCount?_form f n
  unfold ofJson?
  rw [read]
  simp only [Option.bind_eq_bind, Option.bind_some, Record.orElse, maxDepth, minSessions, topK,
    Json.toCount?_form, current, baseline, Option.pure_def]

theorem InsightTemplate.ofJson?_form (t : InsightTemplate) : ofJson? (f.of t.toJson) = some t := by
  obtain ⟨r, read, found⟩ : ∃ r : Record, (f.of t.toJson).record? (.plain _ 0) = some r ∧ _ :=
    Json.exists_plain_record? ["summary", "details"] _ _ (.refl _) (by simp) f
  simp only [List.forall_mem_cons, List.lookup_cons, String.reduceBEq, Option.map_some] at found
  unfold ofJson?
  rw [read]
  simp only [Option.bind_eq_bind, Option.bind_some, Record.orElse, found, Json.toText?_form,
    Json.toList?_ofStrings, Option.pure_def]

theorem FailPolicy.ofJson?_form (p : FailPolicy) : ofJson? (f.of p.toJson) = some p := by
  obtain ⟨r, read, found⟩ : ∃ r : Record, (f.of p.toJson).record? (.plain _ 1) = some r ∧ _ :=
    Json.exists_plain_record? ["action", "reason"] (["action"] ++ ["reason"]) _
      (by
        rw [List.map_append]
        exact (List.Sublist.refl _).append (Json.keys_memberIfSome_sublist ..))
      (by simp) f
  simp only [List.forall_mem_cons, List.lookup_append, List.lookup_cons, String.reduceBEq,
    Json.lookup_memberIfSome, String.reduceEq, ↓reduceIte, Option.map_some, Option.none_or,
    Option.or_none, List.lookup_nil] at found
  obtain ⟨action, reason, -⟩ := found
  have told : r.optional "reason" Json.toText? = some p.reason :=
    Record.optional_eq reason rfl fun s _ => Json.toText?_form f s
  unfold ofJson?
  rw [read]
  simp only [Option.bind_eq_bind, Option.bind_some, Record.required, action, Json.toNamed?_form,
    told, Option.pure_def]

/-- The fields of a step that are not settings. -/
def Step.ownFields : List String := ["id", "next", "on_fail", "type"]

/-- Members that give the settings of a step, beside its own fields. -/
structure StepSettings.WrittenIn (s : StepSettings) (members : List (String × Json)) : Prop where
  distinct : (members.map (·.1)).Nodup
  agree : ∀ name ∉ Step.ownFields, members.lookup name = s.members.lookup name

namespace StepSettings

variable {members : List (String × Json)}

theorem WrittenIn.exists_record? {s : StepSettings} (h : s.WrittenIn members)
    (names : List String) (apart : ∀ name ∈ names, name ∉ Step.ownFields) (required : Nat) :
    ∃ r : Record, (f.of (.object members)).record? (.plain names required) = some r ∧
      ∀ name ∈ names, r.lookup name = (s.members.lookup name).map f.of := by
  obtain ⟨r, read, found⟩ :=
    Json.exists_plain_record? names _ required (.refl _) h.distinct f
  refine ⟨r, read, fun name known => ?_⟩
  rw [found name known, h.agree name (apart name known)]

theorem WrittenIn.branch {s : BranchSettings} (h : (branch s).WrittenIn members)
    (normal : ∀ rule ∈ s.rules, rule.Normal) :
    BranchSettings.ofJson? (f.of (.object members)) = some s := by
  obtain ⟨r, read, found⟩ := h.exists_record? f ["rules", "default"] (by decide) 0
  simp only [List.forall_mem_cons, StepSettings.members, BranchSettings.members,
    List.lookup_append, List.lookup_cons, String.reduceBEq, Json.lookup_memberIfSome,
    String.reduceEq, ↓reduceIte, Option.map_some, Option.none_or, Option.or_none,
    List.lookup_nil] at found
  obtain ⟨rules, fallback, -⟩ := found
  have route : r.optional "default" BranchRoute.ofJson? = some s.fallback :=
    Record.optional_eq fallback rfl fun b _ => BranchRoute.ofJson?_form f b
  have listed := Json.toList?_array f fun rule member =>
    BranchRule.ofJson?_form f (normal rule member)
  unfold BranchSettings.ofJson?
  rw [read]
  simp only [Option.bind_eq_bind, Option.bind_some, Record.orElse, rules, listed, route,
    Option.pure_def]

theorem WrittenIn.breakdown {s : BreakdownSettings} (h : (breakdown s).WrittenIn members) :
    BreakdownSettings.ofJson? (f.of (.object members)) = some s := by
  obtain ⟨r, read, found⟩ : ∃ r : Record,
      (f.of (.object members)).record? BreakdownSettings.shape = some r ∧ _ :=
    h.exists_record? f _ (by decide) 0
  simp only [List.forall_mem_cons, StepSettings.members, BreakdownSettings.members,
    List.lookup_append, List.lookup_cons, String.reduceBEq, Json.lookup_memberIfSome,
    Json.lookup_memberUnless, String.reduceEq, ↓reduceIte, Option.map_some, Option.none_or,
    Option.or_none, List.lookup_nil] at found
  obtain ⟨dimension, dimensions, baseMetric, stopConditions, rankBy, rankOrder, filterMode,
    minSessionsMode, outputKey, -⟩ := found
  have single : r.optional "dimension" Json.toText? = some s.dimension :=
    Record.optional_eq dimension rfl fun d _ => Json.toText?_form f d
  have listed : r.orElse "dimensions" (Json.toList? Json.toText?) [] = some s.dimensions :=
    Record.orElse_unless_eq dimensions (Json.toList?_ofStrings f _) fun empty =>
      (List.isEmpty_iff.1 empty).symm
  have output : r.optional "output_key" Json.toText? = some s.outputKey :=
    Record.optional_eq outputKey rfl fun key _ => Json.toText?_form f key
  unfold BreakdownSettings.ofJson?
  rw [read]
  simp only [Option.bind_eq_bind, Option.bind_some, single, listed, output]
  simp only [Record.orElse, baseMetric, stopConditions, rankBy, rankOrder, filterMode,
    minSessionsMode, Json.toNamed?_form, StopConditions.ofJson?_form, Option.bind_some,
    Option.pure_def]

/-- Settings that are one field. -/
theorem WrittenIn.exists_single {s : StepSettings} (h : s.WrittenIn members) {name : String}
    {j : Json} (single : s.members = [(name, j)]) (apart : name ∉ Step.ownFields)
    {α : Type} {decode : Json → Option α} {a : α} (reads : decode (f.of j) = some a) :
    ∃ r : Record, (f.of (.object members)).record? (.plain [name] 0) = some r ∧
      ∀ default, r.orElse name decode default = some a := by
  have apart' : ∀ key ∈ [name], key ∉ Step.ownFields := List.forall_mem_singleton.2 apart
  obtain ⟨r, read, found⟩ := h.exists_record? f _ apart' 0
  have value := found name List.mem_cons_self
  rw [single, List.lookup_cons_self, Option.map_some] at value
  exact ⟨r, read, fun _ => Record.orElse_eq value reads⟩

theorem ofJson?_form {s : StepSettings} (normal : s.Normal) (h : s.WrittenIn members) :
    ofJson? (f.of (.object members)) s.kind = some s := by
  unfold ofJson?
  cases s with
  | validation s =>
      obtain ⟨r, read, checks⟩ :=
        h.exists_single f rfl (by decide) (Json.toList?_ofStrings f s.checks)
      simp only [kind, read, Option.bind_eq_bind, Option.bind_some, checks, Option.pure_def]
  | metricCompare s =>
      obtain ⟨r, read, metrics⟩ :=
        h.exists_single f rfl (by decide) (Json.toList?_ofStrings f s.metrics)
      simp only [kind, read, Option.bind_eq_bind, Option.bind_some, metrics, Option.pure_def]
  | branch s => simp only [kind, h.branch f normal, Option.map_some]
  | breakdown s => simp only [kind, h.breakdown f, Option.map_some]
  | composite s =>
      obtain ⟨r, read, steps⟩ :=
        h.exists_single f rfl (by decide) (Json.toList?_ofStrings f s.steps)
      simp only [kind, read, Option.bind_eq_bind, Option.bind_some, steps, Option.pure_def]
  | insight s =>
      obtain ⟨r, read, template⟩ :=
        h.exists_single f rfl (by decide) (InsightTemplate.ofJson?_form f s.template)
      simp only [kind, read, Option.bind_eq_bind, Option.bind_some, template, Option.pure_def]

/-- The keys that settings of a kind may be written under. -/
def fieldNames : StepKind → List String
  | .validation => ["checks"]
  | .metricCompare => ["metrics"]
  | .branch => ["default"] ++ ["rules"]
  | .breakdown =>
    ["base_metric"] ++ ["dimension"] ++ ["dimensions"] ++ ["filter_mode", "min_sessions_mode"] ++
      ["output_key"] ++ ["rank_by", "rank_order", "stop_conditions"]
  | .composite => ["steps"]
  | .insight => ["template"]

theorem keys_members_sublist (s : StepSettings) :
    (s.members.map (·.1)).Sublist (fieldNames s.kind) := by
  cases s with
  | validation | metricCompare | composite | insight => exact .refl _
  | branch s =>
      simp only [StepSettings.members, BranchSettings.members, List.map_append]
      exact (Json.keys_memberIfSome_sublist ..).append (.refl _)
  | breakdown s =>
      simp only [StepSettings.members, BreakdownSettings.members, List.map_append]
      exact (((((List.Sublist.refl _).append (Json.keys_memberIfSome_sublist ..)).append
        (Json.keys_memberUnless_sublist ..)).append (.refl _)).append
        (Json.keys_memberIfSome_sublist ..)).append (.refl _)

theorem lookup_members_of_own (s : StepSettings) {name : String} (own : name ∈ Step.ownFields) :
    s.members.lookup name = none := by
  refine Dict.lookup_eq_none_of_notMem fun given => ?_
  have apart : ∀ key ∈ fieldNames s.kind, key ∉ Step.ownFields := by
    cases s.kind <;> decide
  exact apart name (s.keys_members_sublist.subset given) own

end StepSettings

namespace Step

/-- The members of a written step. -/
def members (s : Step) : List (String × Json) :=
  [("id", .string s.id), ("type", .string s.typeName)] ++ s.settings.members ++
    Json.memberIfSome "next" .string s.next ++
    Json.memberIfSome "on_fail" FailPolicy.toJson s.onFail

theorem keys_members_nodup (s : Step) : (s.members.map (·.1)).Nodup := by
  have sub : (s.members.map (·.1)).Sublist
      (["id", "type"] ++ StepSettings.fieldNames s.kind ++ ["next"] ++ ["on_fail"]) := by
    simp only [members, List.map_append]
    exact (((List.Sublist.refl _).append s.settings.keys_members_sublist).append
      (Json.keys_memberIfSome_sublist ..)).append (Json.keys_memberIfSome_sublist ..)
  refine List.Nodup.sublist sub ?_
  cases s.kind <;> decide

theorem writtenIn_members (s : Step) : s.settings.WrittenIn s.members := by
  refine ⟨s.keys_members_nodup, fun name apart => ?_⟩
  simp only [ownFields, List.mem_cons, not_or] at apart
  obtain ⟨id, next, onFail, type, -⟩ := apart
  simp only [members, List.lookup_append, Dict.lookup_cons_ite, Json.lookup_memberIfSome, id, type,
    next, onFail, ↓reduceIte, List.lookup_nil, Option.none_or, Option.or_none]

theorem ofJson?_form {s : Step} (normal : s.settings.Normal) :
    ofJson? (f.of s.toJson) = some s := by
  obtain ⟨r, read, found⟩ : ∃ r : Record, (f.of s.toJson).record? shape = some r ∧ _ :=
    Json.exists_plain_record? _ _ _ (.refl _) s.keys_members_nodup f
  have noNext : s.settings.members.lookup "next" = none :=
    StepSettings.lookup_members_of_own s.settings (by decide)
  have noPolicy : s.settings.members.lookup "on_fail" = none :=
    StepSettings.lookup_members_of_own s.settings (by decide)
  simp only [List.forall_mem_cons, members, List.lookup_append, List.lookup_cons,
    String.reduceBEq, Json.lookup_memberIfSome, noNext, noPolicy, String.reduceEq, ↓reduceIte,
    Option.some_or, Option.map_some, Option.none_or, Option.or_none, List.lookup_nil] at found
  obtain ⟨id, next, onFail, type, -⟩ := found
  have settings := StepSettings.ofJson?_form f normal s.writtenIn_members
  have following : r.optional "next" Json.toText? = some s.next :=
    Record.optional_eq next rfl fun s _ => Json.toText?_form f s
  have policy : r.optional "on_fail" FailPolicy.ofJson? = some s.onFail :=
    Record.optional_eq onFail rfl fun p _ => FailPolicy.ofJson?_form f p
  have kind : StepKind.ofJson? (.string s.typeName) = some s.settings.kind :=
    LawfulNamed.ofName?_name s.settings.kind
  obtain ⟨given, form, -⟩ := f.exists_of_object s.keys_members_nodup
  have object : f.of s.toJson = .object given := form
  rw [form] at settings
  rw [object] at read ⊢
  unfold ofJson?
  dsimp only
  rw [read]
  simp only [Option.bind_eq_bind, Option.bind_some, Record.required, id, type,
    Json.Form.of_string, Json.toText?, kind, settings, following, policy, Option.pure_def]

end Step

theorem Condition.normal_of_ofJson? {j : Json} {c : Condition} (h : ofJson? j = some c) :
    c.Normal := by
  unfold ofJson? at h
  simp only [Option.bind_eq_bind, Option.bind_eq_some_iff] at h
  obtain ⟨r, -, metric, -, op, -, value, read, made⟩ := h
  cases made
  refine Record.forall_of_required (P := Json.Normal) ?_ read
  rintro j - ⟨⟩
  exact j.normal_normalize

theorem BreakdownMatch.normal_of_ofJson? {j : Json} {m : BreakdownMatch}
    (h : ofJson? j = some m) : m.Normal := by
  unfold ofJson? at h
  simp only [Option.bind_eq_bind, Option.bind_eq_some_iff] at h
  obtain ⟨r, -, dimension, -, conditions, read, limit, -, made⟩ := h
  cases made
  refine Record.forall_of_orElse (P := fun cs => ∀ c ∈ cs, c.Normal) ?_ (by simp) read
  exact fun listed => Json.forall_of_toList? Condition.normal_of_ofJson? listed

theorem BranchRule.normal_of_ofJson? {j : Json} {b : BranchRule} (h : ofJson? j = some b) :
    b.Normal := by
  unfold ofJson? at h
  simp only [Option.bind_eq_bind, Option.bind_eq_some_iff] at h
  obtain ⟨r, -, all, readAll, any, readAny, search, readSearch, target, -, made⟩ := h
  have listed : ∀ {j cs}, Json.toList? Condition.ofJson? j = some cs → ∀ c ∈ cs, c.Normal :=
    fun read => Json.forall_of_toList? Condition.normal_of_ofJson? read
  cases made
  exact ⟨Record.forall_of_optional listed readAll, Record.forall_of_optional listed readAny,
    Record.forall_of_optional BreakdownMatch.normal_of_ofJson? readSearch⟩

theorem StepSettings.normal_of_ofJson? {j : Json} {kind : StepKind} {s : StepSettings}
    (h : ofJson? j kind = some s) : s.Normal := by
  unfold ofJson? BranchSettings.ofJson? at h
  cases kind with
  | branch =>
      obtain ⟨settings, given, rfl⟩ := Option.map_eq_some_iff.1 h
      simp only [Option.bind_eq_bind, Option.bind_eq_some_iff] at given
      obtain ⟨r, -, rules, read, fallback, -, made⟩ := given
      cases made
      refine Record.forall_of_orElse (P := fun rules => ∀ rule ∈ rules, rule.Normal) ?_
        (by simp) read
      exact fun listed => Json.forall_of_toList? BranchRule.normal_of_ofJson? listed
  | breakdown =>
      obtain ⟨settings, -, rfl⟩ := Option.map_eq_some_iff.1 h
      trivial
  | validation | metricCompare | composite | insight =>
      simp only [Option.bind_eq_bind, Option.bind_eq_some_iff] at h
      obtain ⟨r, -, field, -, made⟩ := h
      cases made
      trivial

theorem Step.normal_of_ofJson? {j : Json} {s : Step} (h : ofJson? j = some s) :
    s.settings.Normal := by
  unfold ofJson? at h
  split at h
  · simp only [Option.bind_eq_bind, Option.bind_eq_some_iff] at h
    obtain ⟨r, -, id, -, kind, -, settings, read, next, -, policy, -, made⟩ := h
    cases made
    exact StepSettings.normal_of_ofJson? read
  · cases h

/-- What is read from a value has free values in normal form. -/
theorem Workflow.normal_of_ofJson? {j : Json} {w : Workflow} (h : ofJson? j = some w) :
    w.Normal := by
  unfold ofJson? at h
  simp only [Option.bind_eq_bind, Option.bind_eq_some_iff] at h
  obtain ⟨r, -, id, -, version, -, description, -, steps, readSteps, metadata, readMetadata,
    made⟩ := h
  cases made
  refine ⟨Record.forall_of_required (P := fun steps => ∀ s ∈ steps, s.settings.Normal) ?_ readSteps,
    Record.forall_of_orElse (P := fun d => ∀ e ∈ d.entries, e.2.Normal) ?_ nofun readMetadata⟩
  · exact fun listed => Json.forall_of_toList? Step.normal_of_ofJson? listed
  · refine fun read => Json.forall_of_toDict? (P := Json.Normal) ?_ read
    rintro j - ⟨⟩
    exact j.normal_normalize

namespace Workflow

/-- The members of a written workflow. -/
def members (w : Workflow) : List (String × Json) :=
  Json.memberIfSome "description" .string w.description ++
    [("id", .string w.id)] ++
    (if w.metadata.isEmpty then [] else [("metadata", .ofDict (fun j => j) w.metadata)]) ++
    [("steps", .array (w.steps.map Step.toJson)), ("version", .string w.version)]

/-- The keys that a workflow may be written under, in their order. -/
def fieldNames : List String := ["description"] ++ ["id"] ++ ["metadata"] ++ ["steps", "version"]

theorem keys_members_sublist (w : Workflow) : (w.members.map (·.1)).Sublist fieldNames := by
  simp only [members, List.map_append]
  exact (((Json.keys_memberIfSome_sublist ..).append (.refl _)).append
    (Json.keys_memberUnless_sublist ..)).append (.refl _)

theorem keys_members_nodup (w : Workflow) : (w.members.map (·.1)).Nodup :=
  w.keys_members_sublist.nodup (by decide)

/-- New names for fields, each of which is read as the old one. -/
def Renames (rename : String → String) : Prop :=
  ∀ key ∈ fieldNames, shape.fieldOf? (rename key) = some key

/-- The members of a written workflow under other names. -/
def membersAs (w : Workflow) (rename : String → String) : List (String × Json) :=
  w.members.map fun m => (rename m.1, m.2)

variable {rename : String → String} (renames : Renames rename)
include renames

theorem keys_membersAs_nodup (w : Workflow) : ((w.membersAs rename).map (·.1)).Nodup := by
  have keys : (w.membersAs rename).map (·.1) = (w.members.map (·.1)).map rename := by
    simp only [membersAs, List.map_map, Function.comp_def]
  rw [keys]
  refine List.pairwise_map.2 (w.keys_members_nodup.imp_of_mem ?_)
  intro a b hA hB apart same
  have readA := renames a (w.keys_members_sublist.subset hA)
  have readB := renames b (w.keys_members_sublist.subset hB)
  rw [same, readB, Option.some.injEq] at readA
  exact apart readA.symm

theorem given_membersAs (w : Workflow) : shape.given (w.membersAs rename) = w.members := by
  unfold Shape.given membersAs
  rw [List.filterMap_map]
  have known : ∀ m ∈ w.members, shape.fieldOf? (rename m.1) = some m.1 := fun m member =>
    renames m.1 (w.keys_members_sublist.subset (List.mem_map_of_mem member))
  generalize w.members = members at known
  induction members with
  | nil => rfl
  | cons m rest ih =>
      obtain ⟨here, later⟩ := List.forall_mem_cons.1 known
      rw [List.filterMap_cons, Function.comp_apply, here, Option.map_some, ih later]

theorem ofJson?_form {w : Workflow} (normal : w.Normal) :
    ofJson? (f.of (.object (w.membersAs rename))) = some w := by
  have given := given_membersAs renames w
  obtain ⟨r, read, found⟩ := Json.exists_record? shape (keys_membersAs_nodup renames w)
    (by rw [given]; exact w.keys_members_nodup) f
  have description := found "description"
  have id := found "id"
  have version := found "version"
  have steps := found "steps"
  have metadata := found "metadata"
  simp only [given, members, List.lookup_append, List.lookup_cons, String.reduceBEq,
    Json.lookup_memberIfSome, Json.lookup_memberUnless, String.reduceEq, ↓reduceIte,
    Option.map_some, Option.none_or, Option.or_none, List.lookup_nil]
    at description id version steps metadata
  have told : r.optional "description" Json.toText? = some w.description :=
    Record.optional_eq description rfl fun s _ => Json.toText?_form f s
  have listed := Json.toList?_array f fun s member => Step.ofJson?_form f (normal.steps s member)
  have extra : r.orElse "metadata" (Json.toDict? Json.toValue?) ∅ = some w.metadata :=
    Record.orElse_unless_eq metadata
      (Json.toDict?_ofDict f fun e member => Json.toValue?_normal f (normal.metadata e member))
      fun empty => Dict.ext (List.isEmpty_iff.1 empty).symm
  unfold ofJson?
  rw [read]
  simp only [Option.bind_eq_bind, Option.bind_some, told, extra]
  simp only [Record.required, id, version, steps, Json.toText?_form, listed, Option.bind_some,
    Option.pure_def]

end Workflow

end RootCause
