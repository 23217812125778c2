/-!
Finite maps from strings, kept in ascending key order.

Two maps with the same look-ups are equal, because the order of the entries is part of the
type.
-/

namespace RootCause

/-- Puts `value` under `key`: in place of an entry of that key, else at its place in the
order. -/
def putEntry {β : Type} (key : String) (value : β) : List (String × β) → List (String × β)
  | [] => [(key, value)]
  | (k, v) :: rest =>
    if key = k then (key, value) :: rest
    else if key < k then (key, value) :: (k, v) :: rest
    else (k, v) :: putEntry key value rest

/-- Strictly ascending keys. -/
def Ascending {β : Type} (entries : List (String × β)) : Prop :=
  entries.Pairwise (fun a b => a.1 < b.1)

theorem mem_putEntry {β : Type} {key : String} {value : β} {e : String × β} :
    ∀ {entries : List (String × β)}, e ∈ putEntry key value entries →
      e = (key, value) ∨ e ∈ entries
  | [], h => by simpa [putEntry] using h
  | (k, v) :: rest, h => by
    unfold putEntry at h
    split at h
    · grind
    · split at h
      · grind
      · have := @mem_putEntry β key value e rest
        grind

theorem ascending_putEntry {β : Type} (key : String) (value : β) :
    ∀ {entries : List (String × β)}, Ascending entries → Ascending (putEntry key value entries)
  | [], _ => by simp [putEntry, Ascending]
  | (k, v) :: rest, h => by
    have hrest : Ascending rest := (List.pairwise_cons.1 h).2
    have hhead := (List.pairwise_cons.1 h).1
    have ih := ascending_putEntry key value hrest
    unfold putEntry
    split
    · exact List.pairwise_cons.2 ⟨by grind, hrest⟩
    · split
      · exact List.pairwise_cons.2 ⟨by grind, h⟩
      · refine List.pairwise_cons.2 ⟨?_, ih⟩
        intro e he
        rcases mem_putEntry he with rfl | hm
        · grind
        · exact hhead e hm

/-- A map from strings to `β`. -/
structure Dict (β : Type) where
  entries : List (String × β)
  ascending : Ascending entries

namespace Dict

variable {β : Type}

@[ext] theorem ext {a b : Dict β} (h : a.entries = b.entries) : a = b := by
  cases a; cases b; cases h; rfl

def empty : Dict β := ⟨[], List.Pairwise.nil⟩

instance : EmptyCollection (Dict β) := ⟨empty⟩
instance : Inhabited (Dict β) := ⟨empty⟩

instance [DecidableEq β] : DecidableEq (Dict β) := fun a b =>
  decidable_of_iff (a.entries = b.entries) ⟨ext, fun h => h ▸ rfl⟩

def isEmpty (d : Dict β) : Bool := d.entries.isEmpty

def get? (d : Dict β) (key : String) : Option β := d.entries.lookup key

def insert (d : Dict β) (key : String) (value : β) : Dict β :=
  ⟨putEntry key value d.entries, ascending_putEntry key value d.ascending⟩

/-- Inserts the entries from left to right; of equal keys the last one stays. -/
def insertAll (d : Dict β) (entries : List (String × β)) : Dict β :=
  entries.foldl (fun d e => d.insert e.1 e.2) d

def ofList (entries : List (String × β)) : Dict β := empty.insertAll entries

/-- The values in key order. -/
def values (d : Dict β) : List β := d.entries.map (·.2)

theorem lookup_putEntry (key : String) (value : β) (k : String) :
    ∀ entries : List (String × β),
      (putEntry key value entries).lookup k = if k = key then some value else entries.lookup k
  | [] => by simp only [putEntry, List.lookup_cons, List.lookup_nil]; grind
  | (k', v') :: rest => by
    have ih := lookup_putEntry key value k rest
    unfold putEntry
    split
    · simp only [List.lookup_cons]; grind
    · split
      · simp only [List.lookup_cons]; grind
      · simp only [List.lookup_cons]; grind

theorem get?_insert (d : Dict β) (key : String) (value : β) (k : String) :
    (d.insert key value).get? k = if k = key then some value else d.get? k :=
  lookup_putEntry key value k d.entries

@[simp] theorem get?_empty (k : String) : (empty : Dict β).get? k = none := rfl

end Dict

end RootCause
