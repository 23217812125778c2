import RootCause.Json.Basic
import RootCause.Proofs.Dict

/-!
JSON values in normal form, and the two forms in which a written value is handed on: member by
member as it was written, or in normal form. As long as an object gives each key once, its normal
form says the same under every key.
-/

namespace RootCause.Json

/-- At every level the keys of an object are in strictly ascending order. -/
inductive Normal : Json → Prop
  | null : Normal null
  | bool (b : Bool) : Normal (bool b)
  | number (n : Number) : Normal (number n)
  | string (s : String) : Normal (string s)
  | array {items : List Json} (each : ∀ item ∈ items, item.Normal) : Normal (array items)
  | object {members : List (String × Json)} (keys : Ascending members)
      (each : ∀ m ∈ members, m.2.Normal) : Normal (object members)

theorem normalizeItems_eq_map (items : List Json) : normalizeItems items = items.map normalize := by
  induction items with
  | nil => rfl
  | cons item rest ih => rw [normalizeItems, List.map_cons, ih]

theorem normalizeMembers_of_ascending {done members : List (String × Json)}
    (h : Ascending (done ++ members)) :
    normalizeMembers done members = done ++ members.map fun m => (m.1, m.2.normalize) := by
  induction members generalizing done with
  | nil => rw [normalizeMembers, List.map_nil, List.append_nil]
  | cons m rest ih =>
      obtain ⟨key, value⟩ := m
      have last : ∀ e ∈ done, e.1 < key := fun e member =>
        (List.pairwise_append.1 h).2.2 e member (key, value) List.mem_cons_self
      have ascending : Ascending ((done ++ [(key, value.normalize)]) ++ rest) := by
        have keys := List.pairwise_map.2 h
        refine List.pairwise_map.1 ?_
        rw [List.append_assoc]
        rw [List.map_append] at keys ⊢
        exact keys
      rw [normalizeMembers, putEntry_of_forall_lt last, ih ascending, List.map_cons,
        List.append_assoc, List.singleton_append]

theorem normalizeMembers_perm {done members : List (String × Json)}
    (h : ((done ++ members).map (·.1)).Nodup) :
    (normalizeMembers done members).Perm
      (done ++ members.map fun m => (m.1, m.2.normalize)) := by
  induction members generalizing done with
  | nil => rw [normalizeMembers, List.map_nil, List.append_nil]
  | cons m rest ih =>
      obtain ⟨key, value⟩ := m
      have moved : (done ++ (key, value) :: rest).Perm ((key, value) :: (done ++ rest)) :=
        List.perm_middle
      have nodup := (moved.map (·.1)).nodup_iff.1 h
      rw [List.map_cons] at nodup
      obtain ⟨free, others⟩ := List.nodup_cons.1 nodup
      rw [List.map_append, List.mem_append, not_or] at free
      have put := putEntry_perm value.normalize free.1
      have distinct : ((putEntry key value.normalize done ++ rest).map (·.1)).Nodup := by
        have same := (put.append_right rest).map fun e => e.1
        exact same.nodup_iff.2 nodup
      rw [normalizeMembers, List.map_cons]
      exact (ih distinct).trans ((put.append_right _).trans List.perm_middle.symm)

theorem Normal.normalize_eq {j : Json} (h : j.Normal) : j.normalize = j := by
  induction h with
  | null | bool | number | string => rfl
  | @array items each ih =>
      rw [normalize, normalizeItems_eq_map, List.map_congr_left ih, List.map_id']
  | @object members keys each ih =>
      have same : members.map (fun m => (m.1, m.2.normalize)) = members.map id :=
        List.map_congr_left fun m member => by rw [ih m member]; rfl
      have ascending : Ascending ([] ++ members) := keys
      rw [normalize, normalizeMembers_of_ascending ascending, List.nil_append, same, List.map_id]

mutual

theorem normal_normalize : ∀ j : Json, j.normalize.Normal
  | .null => .null
  | .bool b => .bool b
  | .number n => .number n
  | .string s => .string s
  | .array items => .array (normal_of_mem_normalizeItems items)
  | .object members =>
      have ⟨keys, each⟩ := normal_normalizeMembers members [] List.Pairwise.nil (by simp)
      .object keys each

theorem normal_of_mem_normalizeItems : ∀ items : List Json, ∀ j ∈ normalizeItems items, j.Normal
  | [], j, member => nomatch member
  | item :: rest, j, member => by
      rw [normalizeItems, List.mem_cons] at member
      rcases member with rfl | later
      · exact normal_normalize item
      · exact normal_of_mem_normalizeItems rest j later

theorem normal_normalizeMembers : ∀ (members done : List (String × Json)), Ascending done →
    (∀ m ∈ done, m.2.Normal) →
    Ascending (normalizeMembers done members) ∧
      ∀ m ∈ normalizeMembers done members, m.2.Normal
  | [], done, keys, each => by
      rw [normalizeMembers]
      exact ⟨keys, each⟩
  | (key, value) :: rest, done, keys, each => by
      rw [normalizeMembers]
      refine normal_normalizeMembers rest _ (ascending_putEntry key _ keys) ?_
      intro m member
      rcases mem_putEntry member with rfl | earlier
      · exact normal_normalize value
      · exact each m earlier

end

/-- How a written value is handed on. -/
inductive Form where
  | written
  | normal

namespace Form

def of : Form → Json → Json
  | .written, j => j
  | .normal, j => j.normalize

variable (f : Form)

@[simp] theorem of_null : f.of .null = .null := by cases f <;> rfl

@[simp] theorem of_bool (b : Bool) : f.of (.bool b) = .bool b := by cases f <;> rfl

@[simp] theorem of_number (n : Number) : f.of (.number n) = .number n := by cases f <;> rfl

@[simp] theorem of_string (s : String) : f.of (.string s) = .string s := by cases f <;> rfl

@[simp] theorem of_ofCount (n : UInt64) : f.of (ofCount n) = ofCount n := f.of_number _

@[simp] theorem of_ofDouble (x : Binary64) : f.of (ofDouble x) = ofDouble x := by
  unfold ofDouble
  split
  · exact f.of_number _
  · exact f.of_null

@[simp] theorem of_array (items : List Json) : f.of (.array items) = .array (items.map f.of) := by
  cases f with
  | written => exact congrArg array (List.map_id _).symm
  | normal => exact congrArg array (normalizeItems_eq_map items)

theorem of_normal {j : Json} (h : j.Normal) : f.of j = j := by
  cases f with
  | written => rfl
  | normal => exact h.normalize_eq

/-- The members of an object that gives each key once, up to their order. -/
theorem exists_of_object {members : List (String × Json)} (h : (members.map (·.1)).Nodup) :
    ∃ given, f.of (.object members) = .object given ∧
      given.Perm (members.map fun m => (m.1, f.of m.2)) := by
  cases f with
  | written => exact ⟨members, rfl, .of_eq (List.map_id _).symm⟩
  | normal => exact ⟨normalizeMembers [] members, rfl, normalizeMembers_perm h⟩

theorem get?_of_object {members : List (String × Json)} (h : (members.map (·.1)).Nodup)
    (key : String) : (f.of (.object members)).get? key = (members.lookup key).map f.of := by
  obtain ⟨given, form, perm⟩ := f.exists_of_object h
  have nodup : (given.map (·.1)).Nodup := by
    refine (perm.map (·.1)).nodup_iff.2 ?_
    rw [List.map_map]
    exact h
  rw [form, get?, Dict.lookup_eq_of_perm perm nodup]
  exact Dict.lookup_map_snd (fun _ => f.of) key members

theorem of_object {members : List (String × Json)} (h : Ascending members) :
    f.of (.object members) = .object (members.map fun m => (m.1, f.of m.2)) := by
  cases f with
  | written => exact congrArg object (List.map_id _).symm
  | normal =>
      have keys : Ascending ([] ++ members) := h
      exact congrArg object (normalizeMembers_of_ascending keys)

end Form

end RootCause.Json
