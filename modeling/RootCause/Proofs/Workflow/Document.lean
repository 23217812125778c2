import RootCause.Proofs.Workflow.Codec
import RootCause.Proofs.Workflow.Validation
import RootCause.Workflow.File

/-!
Documents of workflows. What an accepted document stands for can be written, under the names of
today or under the older ones, and is accepted again as the same workflow.
-/

namespace RootCause

/-- A value whose outermost object has other keys. -/
def Json.renameKeys (rename : String → String) : Json → Json
  | .object members => .object (members.map fun m => (rename m.1, m.2))
  | other => other

namespace Workflow

/-- The older name of a key. -/
def legacyKey (key : String) : String :=
  if key = "id" then "workflow_id" else if key = "steps" then "nodes" else key

theorem renames_same : Renames fun key => key := by
  intro key known
  revert key
  decide

theorem renames_legacyKey : Renames legacyKey := by
  intro key known
  revert key
  decide

theorem eq_of_fieldOf?_steps {key : String} (h : shape.fieldOf? key = some "steps") :
    key = "steps" ∨ key = "nodes" := by
  obtain ⟨field, found, name⟩ := Option.map_eq_some_iff.1 h
  have named := List.find?_some found
  have listed := List.mem_of_find?_eq_some found
  have steps : field = ("steps", ["nodes"]) := by
    have only : ∀ field ∈ shape.fields, field.1 = "steps" → field = ("steps", ["nodes"]) := by
      decide
    exact only field listed name
  subst steps
  rcases Bool.or_eq_true_iff.1 named with today | older
  · exact .inl (beq_iff_eq.1 today).symm
  · exact .inr (List.mem_singleton.1 (List.contains_iff_mem.1 older))

variable (f : Json.Form)

theorem typeName_of_form (s : Step) :
    ((f.of s.toJson).get? "type").bind Json.asString? = some s.typeName := by
  have type : s.members.lookup "type" = some (.string s.typeName) := by
    simp [Step.members, List.lookup_cons]
  have got := f.get?_of_object s.keys_members_nodup "type"
  rw [type, Option.map_some, f.of_string] at got
  exact congrArg (·.bind Json.asString?) got

theorem unknownType?_form (steps : List Step) :
    unknownType? (steps.map fun s => f.of s.toJson) = none := by
  unfold unknownType?
  rw [List.findSome?_eq_none_iff]
  intro j member
  obtain ⟨s, -, rfl⟩ := List.mem_map.1 member
  have known : (Named.ofName? (α := StepKind) s.typeName).isSome := by
    rw [Step.typeName, LawfulNamed.ofName?_name]
    rfl
  rw [typeName_of_form]
  exact if_pos known

section Renamed

variable {rename : String → String} (renames : Renames rename)
include renames

theorem lookup_membersAs (w : Workflow) {key : String} {j : Json}
    (member : (key, j) ∈ w.members) : (w.membersAs rename).lookup (rename key) = some j :=
  (Dict.lookup_eq_some_iff_of_nodup (keys_membersAs_nodup renames w)).2
    (List.mem_map_of_mem (f := fun m => (rename m.1, m.2)) member)

/-- A document names its steps in one of two ways, and they are found either way. -/
theorem steps_of_document (w : Workflow) :
    let document := f.of (.object (w.membersAs rename))
    (document.get? "steps" <|> document.get? "nodes") =
      some (f.of (.array (w.steps.map Step.toJson))) := by
  intro document
  have keys := keys_membersAs_nodup renames w
  have written : ("steps", Json.array (w.steps.map Step.toJson)) ∈ w.members := by
    simp [members]
  have found := lookup_membersAs renames w written
  rw [f.get?_of_object keys, f.get?_of_object keys]
  rcases eq_of_fieldOf?_steps (renames "steps" (by decide)) with today | older
  · rw [today] at found
    rw [found]
    rfl
  · have absent : (w.membersAs rename).lookup "steps" = none := by
      refine Dict.lookup_eq_none_of_notMem fun given => ?_
      simp only [membersAs, List.map_map, List.mem_map, Function.comp_apply] at given
      obtain ⟨m, member, same⟩ := given
      have reads := renames m.1 (w.keys_members_sublist.subset (List.mem_map_of_mem member))
      rw [same] at reads
      have itself : "steps" = m.1 := Option.some.inj reads
      rw [← itself, older] at same
      exact absurd same (by decide)
    rw [older] at found
    rw [absent, found]
    rfl

theorem ofDocument?_form {w : Workflow} (normal : w.Normal) (valid : w.validate = .ok ()) :
    ofDocument? (f.of (.object (w.membersAs rename))) = .ok w := by
  have steps := steps_of_document f renames w
  unfold ofDocument?
  simp only [steps, Option.bind_some, f.of_array, Json.asArray?, Option.getD_some, List.map_map,
    Function.comp_def, unknownType?_form f, ofJson?_form f renames normal, valid]

end Renamed

theorem toJson_eq (w : Workflow) : w.toJson = .object (w.membersAs fun key => key) :=
  congrArg Json.object (List.map_id _).symm

theorem validate_of_ofDocument? {document : Json} {w : Workflow}
    (h : ofDocument? document = .ok w) : ofJson? document = some w ∧ w.validate = .ok () := by
  unfold ofDocument? at h
  dsimp only at h
  split at h
  · cases h
  · split at h
    · cases h
    · next read =>
      split at h
      · cases h
      · next valid =>
        cases h
        exact ⟨read, valid⟩

theorem exists_document_of_ofText {format : TextFormat} {text : String} {w : Workflow}
    (h : ofText format text = .ok w) : ∃ document, ofDocument? document = .ok w := by
  unfold ofText at h
  split at h
  · cases h
  · next document _ => exact ⟨document, h⟩

/-- A written workflow is read as itself. What an accepted document stands for is accepted again
when it is written, also under the older names. -/
theorem reads_back :
    (∀ w : Workflow, w.Normal → ∀ f : Json.Form, ofJson? (f.of w.toJson) = some w) ∧
    ∀ (format : TextFormat) (text : String) (w : Workflow), ofText format text = .ok w →
      ∀ f : Json.Form, ofDocument? (f.of w.toJson) = .ok w ∧
        ofDocument? (f.of (w.toJson.renameKeys legacyKey)) = .ok w := by
  constructor
  · intro w normal f
    rw [toJson_eq]
    exact ofJson?_form f renames_same normal
  · intro format text w accepted f
    obtain ⟨document, loaded⟩ := exists_document_of_ofText accepted
    obtain ⟨read, valid⟩ := validate_of_ofDocument? loaded
    have normal := normal_of_ofJson? read
    constructor
    · rw [toJson_eq]
      exact ofDocument?_form f renames_same normal valid
    · exact ofDocument?_form f renames_legacyKey normal valid

/-- A route over a value with members, into a drill-down that leaves most of its fields out. -/
def routed : Workflow where
  id := "cvr-drop"
  version := "v3"
  description := none
  steps := [
    ⟨"route", .branch ⟨[⟨some [], none,
        some ⟨"top", [⟨"value", .ne, .object [("at", .null), ("of", .array [.bool true])]⟩], none⟩,
        some "drill"⟩], some ⟨none⟩⟩, none, some ⟨.escalate, some ""⟩⟩,
    ⟨"drill", .breakdown ⟨some "product_id", [], .orders, {}, .delta, .desc, .all, .bothLow, none⟩,
      some "route", none⟩]
  metadata := .ofList [("owner", .null)]

theorem normal_routed : routed.Normal := by
  have value : (Json.object [("at", .null), ("of", .array [.bool true])]).Normal := by
    refine .object (List.Pairwise.cons ?_ (List.pairwise_singleton ..)) ?_
    · decide
    · simp only [List.forall_mem_cons]
      exact ⟨.null, .array (List.forall_mem_singleton.2 (.bool true)), nofun⟩
  constructor
  · refine List.forall_mem_cons.2 ⟨?_, List.forall_mem_singleton.2 trivial⟩
    refine List.forall_mem_singleton.2 ⟨?_, nofun, ?_⟩
    · rintro cs ⟨⟩
      nofun
    · rintro m ⟨⟩
      exact List.forall_mem_singleton.2 value
  · exact List.forall_mem_singleton.2 .null

/-- A document under the older names. -/
def olderText : String :=
  "\x7b\"workflow_id\":\"w\",\"version\":\"1\",\"metadata\":\x7b\"n\":[0.5]\x7d," ++
    "\"nodes\":[\x7b\"id\":\"a\",\"type\":\"validation\"\x7d]\x7d"

theorem reads_back_routed :
    (routed.Normal ∧ ofJson? routed.toJson = some routed ∧
      ofJson? routed.toJson.normalize = some routed) ∧
    ∃ w : Workflow, ofText .json olderText = .ok w ∧ w.id = "w" ∧
      ofDocument? w.toJson.normalize = .ok w ∧
      ofDocument? (w.toJson.renameKeys legacyKey).normalize = .ok w := by
  have accepted : (ofText .json olderText).toOption.map (·.id) = some "w" := by decide +kernel
  obtain ⟨w, loaded, named⟩ := Option.map_eq_some_iff.1 accepted
  have read : ofText .json olderText = .ok w := by
    cases result : ofText .json olderText with
    | error e =>
        rw [result] at loaded
        cases loaded
    | ok v =>
        rw [result] at loaded
        cases loaded
        rfl
  have own := reads_back.1 routed normal_routed
  exact ⟨⟨normal_routed, own .written, own .normal⟩, w, read, named,
    reads_back.2 .json olderText w read .normal⟩

end Workflow

end RootCause
