import RootCause.Insight.Template

/-!
Where a template is split, and what a token that comes next is rendered as.
-/

namespace RootCause

/-- What a pair of `c` can follow and be the first one: there is no pair in it, and it does not end
in half of one. -/
structure StopsBefore (c : Char) (cs : List Char) : Prop where
  noPair : ¬[c, c] <:+: cs
  noHalf : cs.getLast? ≠ some c

namespace StopsBefore

variable {c a : Char} {cs : List Char}

theorem of_notMem (h : c ∉ cs) : StopsBefore c cs where
  noPair pair := h (pair.subset List.mem_cons_self)
  noHalf last := h (List.mem_of_getLast? last)

theorem tail (h : StopsBefore c (a :: cs)) : StopsBefore c cs where
  noPair pair := h.noPair (List.infix_cons pair)
  noHalf last := h.noHalf (by rw [List.getLast?_cons, last]; rfl)

theorem cons (h : StopsBefore c cs) (apart : a = c → cs ≠ [] ∧ cs.head? ≠ some c) :
    StopsBefore c (a :: cs) where
  noPair pair := by
    rcases List.infix_cons_iff.1 pair with front | later
    · obtain ⟨here, next⟩ := List.cons_prefix_cons.1 front
      exact (apart here.symm).2 (List.singleton_prefix_iff_head?_eq_some.1 next)
    · exact h.noPair later
  noHalf last := by
    cases cs with
    | nil => exact (apart (Option.some.inj last)).1 rfl
    | cons b cs =>
        rw [List.getLast?_cons_cons] at last
        exact h.noHalf last

/-- A text without a pair can follow: no pair joins the two. -/
theorem noPair_append (h : StopsBefore c cs) {behind : List Char} (plain : ¬[c, c] <:+: behind) :
    ¬[c, c] <:+: cs ++ behind := by
  intro pair
  rcases List.infix_append_iff.1 pair with inside | later | ⟨front, back, parts, left, right⟩
  · exact h.noPair inside
  · exact plain later
  · cases front with
    | nil =>
        rw [List.nil_append] at parts
        exact plain (parts ▸ right.isInfix)
    | cons d front =>
        cases front with
        | nil =>
            cases parts
            exact h.noHalf (List.singleton_suffix_iff_getLast?_eq_some.1 left)
        | cons e front =>
            obtain ⟨-, -, rfl, rfl⟩ : c = d ∧ c = e ∧ front = [] ∧ back = [] := by simpa using parts
            rw [List.append_nil] at parts
            exact h.noPair (parts ▸ left.isInfix)

end StopsBefore

section Splitting

variable {c : Char} {cs before behind : List Char}

theorem splitAtPair_append (h : StopsBefore c before) (behind : List Char) :
    splitAtPair c (before ++ c :: c :: behind) = some (before, behind) := by
  induction before with
  | nil =>
      rw [List.nil_append, splitAtPair, if_pos ⟨rfl, rfl⟩]
  | cons a before ih =>
      obtain ⟨b, rest, next⟩ : ∃ b rest, before ++ c :: c :: behind = b :: rest :=
        List.exists_cons_of_ne_nil (by simp)
      have first : ¬(a = c ∧ b = c) := by
        rintro ⟨here, there⟩
        cases before with
        | nil => exact h.noHalf (congrArg some here)
        | cons d before =>
            have same : d = c := (List.cons.inj next).1.trans there
            rw [here, same] at h
            exact h.noPair (List.prefix_append [c, c] before).isInfix
      have split := ih h.tail
      rw [next] at split
      rw [List.cons_append, next, splitAtPair, if_neg first, split]
      rfl

theorem splitAtPair_eq_some (h : splitAtPair c cs = some (before, behind)) :
    cs = before ++ c :: c :: behind ∧ StopsBefore c before := by
  fun_induction splitAtPair c cs generalizing before behind with
  | case1 a b rest pair =>
      obtain ⟨rfl, rfl⟩ := pair
      cases h
      exact ⟨rfl, .of_notMem List.not_mem_nil⟩
  | case2 a b rest other ih =>
      obtain ⟨⟨before, behind⟩, split, parts⟩ := Option.map_eq_some_iff.1 h
      cases parts
      obtain ⟨text, stops⟩ := ih split
      refine ⟨congrArg (a :: ·) text, stops.cons ?_⟩
      -- The first pair is not yet here, so what comes next is not half of one.
      intro here
      have next : b ≠ c := fun there => other ⟨here, there⟩
      cases before with
      | nil => exact absurd (List.cons.inj text).1 next
      | cons d before =>
          rw [← (List.cons.inj text).1]
          exact ⟨List.cons_ne_nil b before, fun half => next (Option.some.inj half)⟩
  | case3 => cases h

theorem splitAtPair_eq_none_iff : splitAtPair c cs = none ↔ ¬[c, c] <:+: cs := by
  constructor
  · intro unsplit pair
    fun_induction splitAtPair c cs with
    | case1 => cases unsplit
    | case2 a b rest other ih =>
        rcases List.infix_cons_iff.1 pair with front | later
        · obtain ⟨here, next⟩ := List.cons_prefix_cons.1 front
          exact other ⟨here.symm, (List.cons_prefix_cons.1 next).1.symm⟩
        · exact ih (Option.map_eq_none_iff.1 unsplit) later
    | case3 cs short =>
        have long := pair.length_le
        cases cs with
        | nil => cases long
        | cons a cs =>
            cases cs with
            | nil => exact absurd long (by simp)
            | cons b rest => exact short a b rest rfl
  · intro noPair
    cases split : splitAtPair c cs with
    | none => rfl
    | some parts =>
        obtain ⟨before, behind⟩ := parts
        obtain ⟨rfl, -⟩ := splitAtPair_eq_some split
        exact absurd ⟨before, behind, by simp⟩ noPair

end Splitting

section Rendering

variable {before key : List Char}

/-- The value that a template shows for a token. -/
def shownText (tokens : Dict String) (name : String) : String := (tokens.get? name).getD "unknown"

theorem render_slot (tokens : Dict String) (opens : StopsBefore '{' before)
    (closes : StopsBefore '}' key) (behind : List Char) :
    render tokens (before ++ '{' :: '{' :: (key ++ '}' :: '}' :: behind)) =
      before ++ (shownText tokens (String.ofList (trim key))).toList ++ render tokens behind := by
  have start := splitAtPair_append opens (key ++ '}' :: '}' :: behind)
  have stop := splitAtPair_append closes behind
  rw [render, start]
  dsimp only
  rw [stop]
  rfl

end Rendering

end RootCause
