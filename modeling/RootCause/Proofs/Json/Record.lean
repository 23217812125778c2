import RootCause.Json.Record
import RootCause.Proofs.Json.Normal

/-!
Records written as objects and read again, in either form. What a record reads under a field is
what the object says under its key, as long as the object gives no key twice.
-/

namespace RootCause

/-- Values are found by their own names. -/
class LawfulNamed (α : Type) [Named α] : Prop where
  ofName?_name : ∀ a : α, Named.ofName? (Named.name a) = some a

namespace Shape

/-- The members that count as fields, under their declared names. -/
def given (shape : Shape) (members : List (String × Json)) : Record :=
  members.filterMap fun m => (shape.fieldOf? m.1).map (·, m.2)

theorem fieldOf?_plain (names : List String) (required : Nat) (key : String) :
    (plain names required).fieldOf? key = if key ∈ names then some key else none := by
  unfold fieldOf? plain
  induction names with
  | nil => rfl
  | cons name names ih =>
      rw [List.map_cons, List.find?_cons]
      by_cases here : name = key
      · simp only [here, BEq.rfl, Bool.true_or, Option.map_some, List.mem_cons, true_or, if_true]
      · have other : (key ∈ name :: names) = (key ∈ names) := by simp [Ne.symm here]
        simp only [beq_false_of_ne here, List.contains_nil, Bool.or_false, other]
        exact ih

theorem given_plain (names : List String) (required : Nat) (members : List (String × Json)) :
    (plain names required).given members = members.filter (·.1 ∈ names) := by
  have each : (fun m : String × Json => ((plain names required).fieldOf? m.1).map (·, m.2)) =
      Option.guard fun m => m.1 ∈ names := by
    funext m
    rw [fieldOf?_plain]
    by_cases known : m.1 ∈ names <;> simp [Option.guard, known]
  unfold given
  rw [each, List.filterMap_eq_filter]

end Shape

namespace Json

variable {members : List (String × Json)} {α : Type}

theorem exists_record? (shape : Shape) (keys : (members.map (·.1)).Nodup)
    (distinct : ((shape.given members).map (·.1)).Nodup) (f : Form) :
    ∃ r : Record, (f.of (.object members)).record? shape = some r ∧
      ∀ name, r.lookup name = ((shape.given members).lookup name).map f.of := by
  obtain ⟨handed, form, perm⟩ := f.exists_of_object keys
  have same : (shape.given handed).Perm ((shape.given members).map fun m => (m.1, f.of m.2)) := by
    have moved := perm.filterMap fun m => (shape.fieldOf? m.1).map (·, m.2)
    refine moved.trans (.of_eq ?_)
    unfold Shape.given
    rw [List.filterMap_map, List.map_filterMap]
    congr 1
    funext m
    cases known : shape.fieldOf? m.1 <;> simp [known]
  have nodup : ((shape.given handed).map (·.1)).Nodup := by
    refine (same.map (·.1)).nodup_iff.2 ?_
    rw [List.map_map]
    exact distinct
  refine ⟨shape.given handed, ?_, ?_⟩
  · rw [form]
    exact if_pos nodup
  · intro name
    rw [Dict.lookup_eq_of_perm same nodup]
    exact Dict.lookup_map_snd (fun _ => f.of) name _

/-- A record without other names for its fields. Members it does not know do not matter. -/
theorem exists_plain_record? (names written : List String) (required : Nat)
    (sub : (members.map (·.1)).Sublist written) (distinct : written.Nodup) (f : Form) :
    ∃ r : Record, (f.of (.object members)).record? (.plain names required) = some r ∧
      ∀ name ∈ names, r.lookup name = (members.lookup name).map f.of := by
  have keys := distinct.sublist sub
  have given := Shape.given_plain names required members
  have distinct : (((Shape.plain names required).given members).map (·.1)).Nodup := by
    rw [given]
    exact keys.sublist (List.filter_sublist.map _)
  obtain ⟨r, read, found⟩ := exists_record? _ keys distinct f
  refine ⟨r, read, fun name known => ?_⟩
  rw [found, given]
  congr 1
  apply Option.ext
  intro j
  rw [Dict.lookup_eq_some_iff_of_nodup keys,
    Dict.lookup_eq_some_iff_of_nodup (keys.sublist (List.filter_sublist.map _)), List.mem_filter]
  simp [known]

theorem lookup_memberIfSome (key name : String) (write : α → Json) (value : Option α) :
    (memberIfSome key write value).lookup name = if name = key then value.map write else none := by
  cases value with
  | none => simp [memberIfSome]
  | some a => simp [memberIfSome, Dict.lookup_cons_ite]

theorem keys_memberIfSome_sublist (key : String) (write : α → Json) (value : Option α) :
    ((memberIfSome key write value).map (·.1)).Sublist [key] := by
  cases value with
  | none => exact List.nil_sublist _
  | some a => exact .refl _

theorem lookup_memberUnless (empty : Bool) (key name : String) (j : Json) :
    (if empty then [] else [(key, j)] : List (String × Json)).lookup name =
      if name = key then (if empty then none else some j) else none := by
  cases empty with
  | true => simp
  | false => simp [Dict.lookup_cons_ite]

theorem keys_memberUnless_sublist (empty : Bool) (key : String) (j : Json) :
    ((if empty then [] else [(key, j)] : List (String × Json)).map (·.1)).Sublist [key] := by
  cases empty with
  | true => exact List.nil_sublist _
  | false => exact .refl _

theorem toCount?_ofCount (n : UInt64) : (ofCount n).toCount? = some n := by
  have fits : (0 : Int) ≤ n.toNat ∧ (n.toNat : Int).toNat < UInt64.size :=
    ⟨Int.natCast_nonneg _, n.toNat_lt⟩
  unfold ofCount toCount?
  dsimp only
  rw [if_pos fits, Int.toNat_natCast, UInt64.ofNat_toNat]

theorem toDouble?_ofDouble {x : Binary64} (h : x.isFinite) : (ofDouble x).toDouble? = some x := by
  unfold ofDouble
  rw [if_pos h]
  rfl

theorem toOption?_of_refuses {decode : Json → Option α} {j : Json} {a : α}
    (refuses : decode .null = none) (reads : decode j = some a) :
    j.toOption? decode = some (some a) := by
  unfold toOption?
  split
  · rw [refuses] at reads
    cases reads
  · rw [reads, Option.map_some]

/-- An absent value is written as null. -/
theorem toOption?_ofOption {decode : Json → Option α} {write : α → Json} {value : Option α}
    (refuses : decode .null = none) (reads : ∀ a ∈ value, decode (write a) = some a) :
    (ofOption write value).toOption? decode = some value := by
  cases value with
  | none => rfl
  | some a => exact toOption?_of_refuses refuses (reads a rfl)

theorem mapM_map_eq_some {β : Type} {decode : β → Option α} {write : α → β} {items : List α}
    (reads : ∀ a ∈ items, decode (write a) = some a) :
    (items.map write).mapM decode = some items := by
  induction items with
  | nil => rfl
  | cons a rest ih =>
      obtain ⟨here, later⟩ := List.forall_mem_cons.1 reads
      rw [List.map_cons, List.mapM_cons, here, ih later]
      rfl

theorem exists_of_mem_mapM {β : Type} {decode : β → Option α} {items : List β} {read : List α}
    (h : items.mapM decode = some read) : ∀ a ∈ read, ∃ item ∈ items, decode item = some a := by
  induction items generalizing read with
  | nil =>
      cases h
      simp
  | cons item rest ih =>
      rw [List.mapM_cons] at h
      obtain ⟨a, here, h⟩ := Option.bind_eq_some_iff.1 h
      obtain ⟨others, later, h⟩ := Option.bind_eq_some_iff.1 h
      cases h
      intro b member
      rcases List.mem_cons.1 member with rfl | member
      · exact ⟨item, List.mem_cons_self, here⟩
      · obtain ⟨item', listed, decoded⟩ := ih later b member
        exact ⟨item', List.mem_cons_of_mem _ listed, decoded⟩

section Gives

variable {decode : Json → Option α} {P : α → Prop} (gives : ∀ {j a}, decode j = some a → P a)
include gives

theorem forall_of_toList? {j : Json} {items : List α} (read : j.toList? decode = some items) :
    ∀ a ∈ items, P a := by
  unfold toList? at read
  split at read
  · next given =>
      intro a member
      obtain ⟨item, -, decoded⟩ := exists_of_mem_mapM read a member
      exact gives decoded
  · cases read

theorem forall_of_toDict? {j : Json} {d : Dict α} (read : j.toDict? decode = some d) :
    ∀ e ∈ d.entries, P e.2 := by
  unfold toDict? at read
  split at read
  · next given =>
      obtain ⟨entries, decoded, rfl⟩ := Option.map_eq_some_iff.1 read
      intro e member
      rcases Dict.mem_entries_insertAll member with kept | written
      · cases kept
      · obtain ⟨m, -, read⟩ := exists_of_mem_mapM decoded e written
        obtain ⟨a, here, rfl⟩ := Option.map_eq_some_iff.1 read
        exact gives here
  · cases read

theorem forall_of_toOption? {j : Json} {value : Option α} (read : j.toOption? decode = some value) :
    ∀ a ∈ value, P a := by
  unfold toOption? at read
  split at read
  · cases read
    nofun
  · obtain ⟨a, decoded, rfl⟩ := Option.map_eq_some_iff.1 read
    intro b same
    cases same
    exact gives decoded

end Gives

variable (f : Form)

theorem toText?_form (s : String) : (f.of (string s)).toText? = some s := by
  rw [f.of_string, toText?]

theorem toCount?_form (n : UInt64) : (f.of (ofCount n)).toCount? = some n := by
  rw [f.of_ofCount, toCount?_ofCount]

theorem toNamed?_form [Named α] [LawfulNamed α] (inSettings : Bool) (a : α) :
    (f.of (ofNamed a)).toNamed? inSettings = some a := by
  unfold ofNamed
  rw [f.of_string]
  exact LawfulNamed.ofName?_name a

theorem toList?_array {decode : Json → Option α} {write : α → Json} {items : List α}
    (reads : ∀ a ∈ items, decode (f.of (write a)) = some a) :
    (f.of (.array (items.map write))).toList? decode = some items := by
  rw [f.of_array, List.map_map]
  exact mapM_map_eq_some reads

theorem toList?_ofStrings (texts : List String) :
    (f.of (ofStrings texts)).toList? toText? = some texts :=
  toList?_array f fun s _ => toText?_form f s

theorem toDict?_ofDict {decode : Json → Option α} {write : α → Json} {d : Dict α}
    (reads : ∀ e ∈ d.entries, decode (f.of (write e.2)) = some e.2) :
    (f.of (ofDict write d)).toDict? decode = some d := by
  have ascending : Ascending (d.entries.map fun e => (e.1, write e.2)) :=
    List.pairwise_map.2 d.ascending
  have entries : ((d.entries.map fun e => (e.1, f.of (write e.2))).mapM fun m =>
      (decode m.2).map fun value => (m.1, value)) = some d.entries := by
    refine mapM_map_eq_some fun e member => ?_
    dsimp only
    rw [reads e member, Option.map_some]
  unfold ofDict
  rw [f.of_object ascending, List.map_map]
  unfold toDict?
  dsimp only [Function.comp_def]
  rw [entries, Option.map_some, Dict.ofList_entries]

theorem toValue?_normal {j : Json} (h : j.Normal) : (f.of j).toValue? = some j := by
  rw [f.of_normal h, toValue?, h.normalize_eq]

end Json

namespace Record

variable {α : Type} {r : Record} {name : String} {decode : Json → Option α} {j : Json} {a : α}

theorem orElse_eq {default : α} (found : r.lookup name = some j) (reads : decode j = some a) :
    r.orElse name decode default = some a := by
  unfold orElse
  rw [found]
  exact reads

theorem orElse_eq_default {default : α} (found : r.lookup name = none) :
    r.orElse name decode default = some default := by
  unfold orElse
  rw [found]

/-- A field that is left out when its value is the default one. -/
theorem orElse_unless_eq {empty : Bool} {default : α} {f : Json.Form}
    (found : r.lookup name = (if empty then none else some j).map f.of)
    (reads : decode (f.of j) = some a) (same : empty → default = a) :
    r.orElse name decode default = some a := by
  cases empty with
  | true => rw [orElse_eq_default found, same rfl]
  | false => exact orElse_eq found reads

/-- A field that is left out when its value is absent, and that comes back cut. -/
theorem optional_eq_map {write : α → Json} {value : Option α} {f : Json.Form} {cut : α → α}
    (found : r.lookup name = (value.map write).map f.of) (refuses : decode .null = none)
    (reads : ∀ a ∈ value, decode (f.of (write a)) = some (cut a)) :
    r.optional name decode = some (value.map cut) := by
  cases value with
  | none => exact orElse_eq_default found
  | some a => exact orElse_eq found (Json.toOption?_of_refuses refuses (reads a rfl))

/-- A field that is left out when its value is absent. -/
theorem optional_eq {write : α → Json} {value : Option α} {f : Json.Form}
    (found : r.lookup name = (value.map write).map f.of) (refuses : decode .null = none)
    (reads : ∀ a ∈ value, decode (f.of (write a)) = some a) :
    r.optional name decode = some value := by
  have uncut : r.optional name decode = some (value.map id) :=
    optional_eq_map found refuses reads
  rwa [Option.map_id, id] at uncut

theorem forall_of_required {P : α → Prop} (gives : ∀ {j a}, decode j = some a → P a)
    (read : r.required name decode = some a) : P a := by
  unfold required at read
  split at read
  · cases read
  · exact gives read

theorem forall_of_orElse {P : α → Prop} (gives : ∀ {j a}, decode j = some a → P a)
    {default : α} (blank : P default) (read : r.orElse name decode default = some a) : P a := by
  unfold orElse at read
  split at read
  · cases read
    exact blank
  · exact gives read

theorem forall_of_optional {P : α → Prop} (gives : ∀ {j a}, decode j = some a → P a)
    {value : Option α} (read : r.optional name decode = some value) : ∀ a ∈ value, P a := by
  refine forall_of_orElse (P := fun value => ∀ a ∈ value, P a) ?_ ?_ read
  · exact fun read => Json.forall_of_toOption? gives read
  · intro a absent
    cases absent

end Record

end RootCause
