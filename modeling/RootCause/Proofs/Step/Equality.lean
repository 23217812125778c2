import RootCause.Proofs.Step.Condition

/-!
Values compared with themselves. Equality is decided on numbers where a value denotes one, and NaN
is the number that differs from itself: a text that names it is not equal to itself, and everything
else is.
-/

namespace RootCause

/-- A character before the letters is in lower case as it is in the text. -/
theorem eq_of_toLower_eq {c d : Char} (before : d < 'A') (h : c.toLower = d) : c = d := by
  unfold Char.toLower at h
  split at h
  · next upper =>
    have low : 65 ≤ c.val := upper.1
    have high : c.val ≤ 90 := upper.2
    have shifted : d.val = c.val + 32 := (congrArg Char.val h).symm
    have small : d.val < 65 := before
    grind
  · exact h

theorem map_toLower_ne_cons {sign : Char} (before : sign < 'A') {cs : List Char}
    (unsigned : ∀ rest, cs ≠ sign :: rest) (name : List Char) :
    cs.map Char.toLower ≠ sign :: name := by
  intro same
  obtain ⟨c, rest, rfl, lowered, -⟩ := List.map_eq_cons_iff.1 same
  exact unsigned rest (congrArg (· :: rest) (eq_of_toLower_eq before lowered))

namespace Binary64

theorem eqv_self (x : Binary64) : x.eqv x = !x.isNaN := by
  unfold eqv
  rw [decide_eq_true rfl, Bool.and_true, Bool.and_self]

theorem isNaN_toBinary64 (negative : Bool) (d : Decimal) :
    (d.toBinary64 negative).isNaN = false := by
  unfold Decimal.toBinary64
  split
  · rfl
  · split
    · rfl
    · split
      · rfl
      · exact nearest_isNaN ..

/-- Of the unsigned numbers only the name of NaN is read as NaN. -/
theorem exists_isNaN_readUnsigned_iff {negative : Bool} {cs : List Char} :
    (∃ x ∈ readUnsigned negative cs, x.isNaN) ↔ cs.map Char.toLower = "nan".toList := by
  have named : cs.map Char.toLower = "nan".toList ↔
      String.ofList (cs.map Char.toLower) = "nan" := by
    constructor
    · intro same
      rw [same, String.ofList_toList]
    · intro same
      rw [← same, String.toList_ofList]
  rw [named]
  unfold readUnsigned
  dsimp only
  generalize String.ofList (cs.map Char.toLower) = name
  split
  · next infinite =>
    have other : name ≠ "nan" := by rcases infinite with rfl | rfl <;> decide
    have number : (infinity negative).isNaN = false := rfl
    simp [other, number]
  · split
    · next same =>
      have unordered : (nan negative).isNaN = true := rfl
      simp [same, unordered]
    · next other => simp [other, isNaN_toBinary64]

/-- The ways to write NaN, apart from letter case. -/
def namesOfNaN : List (List Char) := ["nan".toList, "+nan".toList, "-nan".toList]

theorem exists_isNaN_read?_iff {cs : List Char} :
    (∃ x ∈ read? cs, x.isNaN) ↔ cs.map Char.toLower ∈ namesOfNaN := by
  unfold read?
  split
  · next rest =>
    rw [exists_isNaN_readUnsigned_iff]
    simp [namesOfNaN]
  · next rest =>
    rw [exists_isNaN_readUnsigned_iff]
    simp [namesOfNaN]
  · next minus plus =>
    -- A text without a sign is no name with one, in any letter case.
    have notPlus := map_toLower_ne_cons (by decide) plus "nan".toList
    have notMinus := map_toLower_ne_cons (by decide) minus "nan".toList
    rw [exists_isNaN_readUnsigned_iff, namesOfNaN, List.mem_cons, List.mem_cons,
      List.mem_singleton]
    constructor
    · exact .inl
    · rintro (same | same | same)
      · exact same
      · exact absurd same notPlus
      · exact absurd same notMinus

end Binary64

namespace Json

/-- Every double in the value is finite. -/
inductive Finite : Json → Prop
  | null : Finite null
  | bool (b : Bool) : Finite (bool b)
  | integer (n : Int) : Finite (number (.integer n))
  | double {x : Binary64} (h : x.isFinite) : Finite (number (.double x))
  | string (s : String) : Finite (string s)
  | array {items : List Json} (each : ∀ item ∈ items, item.Finite) : Finite (array items)
  | object {members : List (String × Json)} (each : ∀ m ∈ members, m.2.Finite) :
      Finite (object members)

/-- A text that is read as NaN once the white space around it is dropped. -/
def NamesNaN : Json → Prop
  | .string s => (trim s.toList).map Char.toLower ∈ Binary64.namesOfNaN
  | _ => False

instance : DecidablePred NamesNaN
  | .string s =>
    inferInstanceAs (Decidable ((trim s.toList).map Char.toLower ∈ Binary64.namesOfNaN))
  | .null | .bool _ | .number _ | .array _ | .object _ => isFalse id

theorem sameItems_self {items : List Json} (each : ∀ item ∈ items, item.same item) :
    sameItems items items := by
  induction items with
  | nil => rfl
  | cons item rest ih =>
      obtain ⟨here, later⟩ := List.forall_mem_cons.1 each
      rw [sameItems, here, ih later, Bool.and_self]

theorem sameMembers_self {members : List (String × Json)} (each : ∀ m ∈ members, m.2.same m.2) :
    sameMembers members members := by
  induction members with
  | nil => rfl
  | cons m rest ih =>
      obtain ⟨key, value⟩ := m
      obtain ⟨here, later⟩ := List.forall_mem_cons.1 each
      rw [sameMembers, beq_self_eq_true, here, ih later, Bool.and_self, Bool.and_self]

theorem Finite.same_self {v : Json} (h : v.Finite) : v.same v := by
  induction h with
  | null => rfl
  | bool b => exact beq_self_eq_true b
  | integer n => exact decide_eq_true rfl
  | @double x finite =>
      rw [same, Number.same, Binary64.eqv_self, Binary64.isNaN_of_isFinite finite, Bool.not_false]
  | string s => exact beq_self_eq_true s
  | array each ih => exact sameItems_self ih
  | object each ih => exact sameMembers_self ih

/-- A number that a value with finite doubles denotes is NaN only if a text names it. -/
theorem Finite.exists_isNaN_asComparable?_iff {v : Json} (h : v.Finite) :
    (∃ x ∈ v.asComparable?, x.isNaN) ↔ v.NamesNaN := by
  cases h with
  | string s => exact Binary64.exists_isNaN_read?_iff
  | integer n =>
      have number : (Binary64.ofInt n).isNaN = false := Binary64.nearest_isNaN ..
      simp [asComparable?, Number.toDouble, number, NamesNaN]
  | double finite =>
      simp [asComparable?, Number.toDouble, Binary64.isNaN_of_isFinite finite, NamesNaN]
  | null | bool | array | object => simp [asComparable?, NamesNaN]

theorem finite_ofDouble (x : Binary64) : (ofDouble x).Finite := by
  unfold ofDouble
  split
  · next h => exact .double h
  · exact .null

theorem finite_ofOption_ofDouble (value : Option Binary64) : (ofOption ofDouble value).Finite := by
  cases value with
  | none => exact .null
  | some x => exact finite_ofDouble x

theorem Finite.of_mem_entries {v : Json} (h : v.Finite) : ∀ m ∈ v.entries, m.2.Finite := by
  cases h with
  | object each => exact each
  | _ => exact List.forall_mem_nil _

end Json

theorem MetricValue.finite_toJson (value : MetricValue) : value.toJson.Finite := by
  cases value with
  | number x => exact Json.finite_ofDouble x
  | flag b => exact .bool b
  | text s => exact .string s
  | missing => exact .null

theorem SegmentFigures.finite_toJson (f : SegmentFigures) : f.toJson.Finite := by
  refine .object ?_
  simp only [List.forall_mem_cons, Json.finite_ofOption_ofDouble, true_and]
  exact ⟨.integer _, .integer _, .integer _, List.forall_mem_nil _⟩

theorem SegmentDeltas.finite_toJson (d : SegmentDeltas) : d.toJson.Finite := by
  refine .object ?_
  simp only [List.forall_mem_cons, Json.finite_ofOption_ofDouble, true_and]
  exact List.forall_mem_nil _

namespace Evidence

theorem finite_toJson (e : Evidence) : e.toJson.Finite := by
  refine .object ?_
  simp only [List.forall_mem_cons, Json.finite_ofDouble, SegmentFigures.finite_toJson,
    SegmentDeltas.finite_toJson, true_and]
  exact ⟨.string _, .integer _, .string _, .string _, .string _, List.forall_mem_nil _⟩

theorem finite_of_mem_fields {e : Evidence} : ∀ m ∈ e.fields, m.2.Finite := by
  unfold fields
  simp only [List.forall_mem_append]
  exact ⟨⟨⟨e.deltas.finite_toJson.of_mem_entries, e.current.finite_toJson.of_mem_entries⟩,
    e.baseline.finite_toJson.of_mem_entries⟩, e.finite_toJson.of_mem_entries⟩

theorem finite_of_field {e : Evidence} {name : String} {v : Json}
    (found : e.fields.lookup name = some v) : v.Finite := by
  obtain ⟨before, after, split, -⟩ := List.lookup_eq_some_iff.1 found
  have member : (name, v) ∈ e.fields := split ▸ List.mem_append_right before List.mem_cons_self
  exact finite_of_mem_fields _ member

end Evidence

namespace CompareOp

theorem compare_ne (a b : Json) : ne.compare a b = !eq.compare a b := by
  unfold compare
  cases a.asComparable? with
  | none => rfl
  | some x => cases b.asComparable? <;> rfl

theorem compare_eq_self {v : Json} (h : v.Finite) : eq.compare v v ↔ ¬v.NamesNaN := by
  rw [← h.exists_isNaN_asComparable?_iff]
  unfold compare
  cases v.asComparable? with
  | none => simp [h.same_self]
  | some x => simp [compareNumbers, Binary64.eqv_self]

theorem compare_ne_self {v : Json} (h : v.Finite) : ne.compare v v ↔ v.NamesNaN := by
  rw [compare_ne, Bool.not_eq_true', Bool.eq_false_iff, ne_eq, compare_eq_self h,
    Classical.not_not]

end CompareOp

namespace Condition

variable {name : String} {v : Json}

theorem holdsOfMetrics_self_iff {c : Context} {value : MetricValue}
    (found : c.metric? name = some value) :
    holdsOfMetrics ⟨name, .eq, value.toJson⟩ c ↔ ¬value.toJson.NamesNaN := by
  unfold holdsOfMetrics
  rw [found]
  exact CompareOp.compare_eq_self value.finite_toJson

theorem holdsOfEntry_self_iff {e : Evidence} (found : e.fields.lookup name = some v) :
    holdsOfEntry ⟨name, .eq, v⟩ e.toJson ↔ ¬v.NamesNaN := by
  unfold holdsOfEntry
  rw [resolveField?_toJson, found]
  exact CompareOp.compare_eq_self (Evidence.finite_of_field found)

end Condition

/-- Whatever a metric or a field of an entry holds is equal to itself and does not differ from
itself, except for a text that names NaN. -/
theorem CompareOp.reflexive_unless_namesNaN (c : Context) (e : Evidence) :
    (∀ v : Json, v.Finite →
      (eq.compare v v ↔ ¬v.NamesNaN) ∧ (ne.compare v v ↔ v.NamesNaN)) ∧
    (∀ (name : String) (value : MetricValue), c.metric? name = some value →
      value.toJson.Finite ∧
      (Condition.holdsOfMetrics ⟨name, .eq, value.toJson⟩ c ↔ ¬value.toJson.NamesNaN)) ∧
    (∀ (name : String) (v : Json), e.fields.lookup name = some v →
      v.Finite ∧ (Condition.holdsOfEntry ⟨name, .eq, v⟩ e.toJson ↔ ¬v.NamesNaN)) ∧
    (Condition.holdsOfEntry ⟨"value", .eq, .string e.value⟩ e.toJson ↔
      ¬(Json.string e.value).NamesNaN) ∧
    (Condition.holdsOfEntry ⟨"display_value", .eq, .string e.displayValue⟩ e.toJson ↔
      ¬(Json.string e.displayValue).NamesNaN) := by
  refine ⟨?_, ?_, ?_, Condition.holdsOfEntry_self_iff rfl, Condition.holdsOfEntry_self_iff rfl⟩
  · intro v finite
    exact ⟨compare_eq_self finite, compare_ne_self finite⟩
  · intro name value found
    exact ⟨value.finite_toJson, Condition.holdsOfMetrics_self_iff found⟩
  · intro name v found
    exact ⟨Evidence.finite_of_field found, Condition.holdsOfEntry_self_iff found⟩

theorem CompareOp.reflexive_unless_namesNaN_google :
    eq.compare (.string "google") (.string "google") ∧
    ne.compare (.string " -NaN") (.string " -NaN") ∧
    Condition.holdsOfMetrics ⟨"source", .eq, .string "google"⟩
      ⟨none, [], .ofList [("source", .text "google")], [], ∅, ∅, []⟩ ∧
    Condition.holdsOfEntry ⟨"sessions", .eq, .number (.integer 0)⟩
      (Evidence.untouched "utm_source" "google").toJson := by
  obtain ⟨value, metric, field, -⟩ := reflexive_unless_namesNaN
    ⟨none, [], .ofList [("source", .text "google")], [], ∅, ∅, []⟩
    (.untouched "utm_source" "google")
  have ordinary : ¬(Json.string "google").NamesNaN := by decide
  exact ⟨(value _ (.string _)).1.2 ordinary, (value _ (.string _)).2.2 (by decide),
    (metric "source" (.text "google") rfl).2.2 ordinary,
    (field "sessions" (.number (.integer 0)) rfl).2.2 (by decide)⟩

/-- A text that names NaN differs from itself, and a search for an entry of that name does not
find it. -/
theorem CompareOp.not_reflexive_nan :
    eq.compare (.string "nan") (.string "nan") = false ∧
    ne.compare (.string "nan") (.string "nan") = true ∧
    Condition.holdsOfEntry ⟨"value", .eq, .string "nan"⟩
      (Evidence.untouched "utm_source" "nan").toJson = false :=
  ⟨rfl, rfl, rfl⟩

end RootCause
