import RootCause.Evidence
import RootCause.Proofs.Json.Record

/-!
Evidence written as JSON and read again. Null stands for an absent double, and a double that is
not finite is written as null too; apart from those nothing is lost.
-/

namespace RootCause

structure SegmentFigures.Finite (f : SegmentFigures) : Prop where
  cvr : ∀ x ∈ f.cvr, x.isFinite
  atcRate : ∀ x ∈ f.atcRate, x.isFinite

structure SegmentDeltas.Finite (d : SegmentDeltas) : Prop where
  cvr : ∀ x ∈ d.cvr, x.isFinite
  atcRate : ∀ x ∈ d.atcRate, x.isFinite
  atcSessions : ∀ x ∈ d.atcSessions, x.isFinite
  orders : ∀ x ∈ d.orders, x.isFinite
  sessions : ∀ x ∈ d.sessions, x.isFinite

/-- Every double of an entry is finite or absent. -/
structure Evidence.Finite (e : Evidence) : Prop where
  current : e.current.Finite
  baseline : e.baseline.Finite
  deltas : e.deltas.Finite
  sessionShare : e.sessionShare.isFinite
  orderShare : e.orderShare.isFinite
  baselineSessionShare : e.baselineSessionShare.isFinite
  baselineOrderShare : e.baselineOrderShare.isFinite

namespace Json

theorem toOption?_ofDouble {value : Option Binary64} (h : ∀ x ∈ value, x.isFinite) :
    (ofOption ofDouble value).toOption? toDouble? = some value :=
  toOption?_ofOption rfl fun x member => toDouble?_ofDouble (h x member)

@[simp] theorem Form.of_ofOption_ofDouble (f : Form) (value : Option Binary64) :
    f.of (ofOption ofDouble value) = ofOption ofDouble value := by
  cases value with
  | none => exact f.of_null
  | some x => exact f.of_ofDouble x

end Json

instance : LawfulNamed BaseMetric := ⟨by intro b; cases b <;> rfl⟩

variable (f : Json.Form)

theorem SegmentFigures.ofJson?_form {s : SegmentFigures} (h : s.Finite) :
    ofJson? (f.of s.toJson) = some s := by
  obtain ⟨r, read, found⟩ : ∃ r : Record, (f.of s.toJson).record? shape = some r ∧ _ :=
    Json.exists_plain_record? _ _ _ (.refl _) (by simp) f
  simp only [List.forall_mem_cons, List.lookup_cons, String.reduceBEq, Option.map_some] at found
  unfold ofJson?
  rw [read]
  simp only [Option.bind_eq_bind, Option.bind_some, Record.required, Record.optional,
    Record.orElse, found, Json.toCount?_form, Json.Form.of_ofOption_ofDouble,
    Json.toOption?_ofDouble h.cvr, Json.toOption?_ofDouble h.atcRate, Option.pure_def]

theorem SegmentDeltas.ofJson?_form {d : SegmentDeltas} (h : d.Finite) :
    ofJson? (f.of d.toJson) = some d := by
  obtain ⟨r, read, found⟩ : ∃ r : Record, (f.of d.toJson).record? shape = some r ∧ _ :=
    Json.exists_plain_record? _ _ _ (.refl _) (by simp) f
  simp only [List.forall_mem_cons, List.lookup_cons, String.reduceBEq, Option.map_some] at found
  unfold ofJson?
  rw [read]
  simp only [Option.bind_eq_bind, Option.bind_some, Record.optional, Record.orElse, found,
    Json.Form.of_ofOption_ofDouble, Json.toOption?_ofDouble h.cvr,
    Json.toOption?_ofDouble h.atcRate, Json.toOption?_ofDouble h.atcSessions,
    Json.toOption?_ofDouble h.orders, Json.toOption?_ofDouble h.sessions, Option.pure_def]

theorem Evidence.ofJson?_form {e : Evidence} (h : e.Finite) :
    ofJson? (f.of e.toJson) = some e := by
  obtain ⟨r, read, found⟩ : ∃ r : Record, (f.of e.toJson).record? shape = some r ∧ _ :=
    Json.exists_plain_record? _ _ _ (.refl _) (by simp) f
  simp only [List.forall_mem_cons, List.lookup_cons, String.reduceBEq, Option.map_some] at found
  unfold ofJson?
  rw [read]
  simp only [Option.bind_eq_bind, Option.bind_some, Record.required, found, Json.toText?_form,
    Json.toCount?_form, SegmentFigures.ofJson?_form f h.current,
    SegmentFigures.ofJson?_form f h.baseline, SegmentDeltas.ofJson?_form f h.deltas,
    Json.Form.of_ofDouble, Json.toDouble?_ofDouble h.sessionShare,
    Json.toDouble?_ofDouble h.orderShare, Json.toDouble?_ofDouble h.baselineSessionShare,
    Json.toDouble?_ofDouble h.baselineOrderShare, Json.toNamed?_form, Option.pure_def]

end RootCause
