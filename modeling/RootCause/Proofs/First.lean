/-!
The first element of a list that has a property, with its place. It is what a search from the front
of the list finds.
-/

namespace RootCause

/-- The element in place `i` has the property, and no element before it has. -/
structure FirstAt {α : Type} (p : α → Prop) (l : List α) (i : Nat) (a : α) : Prop where
  here : l[i]? = some a
  holds : p a
  earlier : ∀ j < i, ∀ b, l[j]? = some b → ¬p b

section Search

variable {α : Type} {p : α → Prop} {l : List α}

theorem FirstAt.mem {i : Nat} {a : α} (h : FirstAt p l i a) : a ∈ l := List.mem_of_getElem? h.here

variable {test : α → Bool} (decides : ∀ a ∈ l, test a ↔ p a)
include decides

theorem find?_eq_some_iff_firstAt {a : α} : l.find? test = some a ↔ ∃ i, FirstAt p l i a := by
  rw [List.find?_eq_some_iff_getElem]
  constructor
  · rintro ⟨holds, i, inside, rfl, earlier⟩
    refine ⟨i, List.getElem?_eq_getElem inside, (decides _ (List.getElem_mem _)).1 holds, ?_⟩
    intro j before b found has
    obtain ⟨_, rfl⟩ := List.getElem?_eq_some_iff.1 found
    have refused := earlier j before
    rw [(decides _ (List.getElem_mem _)).2 has] at refused
    cases refused
  · rintro ⟨i, first⟩
    obtain ⟨inside, here⟩ := List.getElem?_eq_some_iff.1 first.here
    refine ⟨(decides a first.mem).2 first.holds, i, inside, here, ?_⟩
    intro j before
    have found := List.getElem?_eq_getElem (Nat.lt_trans before inside)
    rw [Bool.not_eq_true', Bool.eq_false_iff]
    intro has
    exact first.earlier j before _ found ((decides _ (List.getElem_mem _)).1 has)

theorem find?_eq_none_iff_forall : l.find? test = none ↔ ∀ a ∈ l, ¬p a := by
  rw [List.find?_eq_none]
  exact forall₂_congr fun a member => not_congr (decides a member)

end Search

end RootCause
