import Mathlib.Algebra.Order.BigOperators.Group.List
import Mathlib.Algebra.Order.Ring.Nat
import Mathlib.Data.List.Nodup
import RootCause.Source.Tables

/-!
Sums of counts. They do not depend on the order of the rows, they fit when the counts add up to no
more than 64 bits hold, and the sums of groups make up the sum of all rows that are in a group.
-/

namespace RootCause

namespace Amount

/-- An integer that is not negative. -/
def IsCount (a : Amount) : Prop := ∃ n : Nat, a = .integer n

def count (a : Amount) : Nat := a.whole.toNat

/-- What counts add up to, however much that is. -/
def total (amounts : List Amount) : Nat := (amounts.map count).sum

theorem foldlM_addTo {amounts : List Amount} (counts : ∀ a ∈ amounts, a.IsCount) {start : Nat}
    (fits : (start : Int) ≤ maxInteger) :
    amounts.foldlM addTo (start : Int) =
      if ((start + total amounts : Nat) : Int) ≤ maxInteger then
        some ((start + total amounts : Nat) : Int)
      else none := by
  induction amounts generalizing start with
  | nil => exact (if_pos fits).symm
  | cons a rest ih =>
      obtain ⟨⟨n, rfl⟩, later⟩ := List.forall_mem_cons.1 counts
      have least : minInteger ≤ (start : Int) + n := by
        unfold minInteger
        omega
      have added : start + total (.integer n :: rest) = start + n + total rest := by
        rw [total, List.map_cons, List.sum_cons, ← Nat.add_assoc]
        rfl
      rw [List.foldlM_cons, added, addTo]
      by_cases here : (start : Int) + n ≤ maxInteger
      · have next : ((start + n : Nat) : Int) ≤ maxInteger := by omega
        rw [if_pos ⟨least, here⟩]
        exact ih later next
      · have tooMuch : ¬((start + n + total rest : Nat) : Int) ≤ maxInteger := by omega
        rw [if_neg fun both => here both.2, if_neg tooMuch]
        rfl

theorem sum_of_counts {amounts : List Amount} (counts : ∀ a ∈ amounts, a.IsCount) :
    sum amounts =
      if (total amounts : Int) ≤ maxInteger then some (total amounts : Int) else none := by
  have none : ((0 : Nat) : Int) ≤ maxInteger := by decide
  have folded := foldlM_addTo counts none
  rwa [Nat.zero_add] at folded

theorem sum_eq_some_iff {amounts : List Amount} (counts : ∀ a ∈ amounts, a.IsCount) {n : Int} :
    sum amounts = some n ↔ n = total amounts ∧ (total amounts : Int) ≤ maxInteger := by
  rw [sum_of_counts counts]
  constructor
  · intro summed
    split at summed
    · next fits => exact ⟨(Option.some.inj summed).symm, fits⟩
    · cases summed
  · rintro ⟨rfl, fits⟩
    exact if_pos fits

theorem exists_sum_iff {amounts : List Amount} (counts : ∀ a ∈ amounts, a.IsCount) :
    (∃ n, sum amounts = some n) ↔ (total amounts : Int) ≤ maxInteger := by
  simp only [sum_eq_some_iff counts, exists_eq_left]

theorem total_eq_of_perm {as bs : List Amount} (h : as.Perm bs) : total as = total bs :=
  (h.map count).sum_nat

theorem total_le_of_sublist {as bs : List Amount} (h : as.Sublist bs) : total as ≤ total bs :=
  (h.map count).sum_le_sum fun _ _ => Nat.zero_le _

theorem total_le_of_subperm {as bs : List Amount} (h : as.Subperm bs) : total as ≤ total bs := by
  obtain ⟨same, perm, part⟩ := h
  rw [← total_eq_of_perm perm]
  exact total_le_of_sublist part

/-- No integer below zero. -/
def NonNegative (a : Amount) : Prop := ∀ n, a = .integer n → 0 ≤ n

/-- There is no sum over a text. -/
theorem exists_integer_of_foldlM {amounts : List Amount} {start n : Int}
    (h : amounts.foldlM addTo start = some n) : ∀ a ∈ amounts, ∃ m, a = .integer m := by
  induction amounts generalizing start with
  | nil => exact nofun
  | cons a rest ih =>
      rw [List.foldlM_cons] at h
      obtain ⟨next, added, later⟩ := Option.bind_eq_some_iff.1 h
      refine List.forall_mem_cons.2 ⟨?_, ih later⟩
      cases a with
      | integer m => exact ⟨m, rfl⟩
      | text s => cases added

/-- What is summed up and not negative is a count. -/
theorem isCount_of_sum {amounts : List Amount} {n : Int} (h : sum amounts = some n)
    (least : ∀ a ∈ amounts, a.NonNegative) : ∀ a ∈ amounts, a.IsCount := by
  intro a member
  obtain ⟨m, rfl⟩ := exists_integer_of_foldlM h a member
  exact ⟨m.toNat, by rw [Int.toNat_of_nonneg (least _ member m rfl)]⟩

end Amount

theorem toNat_countOfSum {n : Nat} (fits : (n : Int) ≤ Amount.maxInteger) :
    (countOfSum n).toNat = n := by
  have small : n < UInt64.size := by
    unfold Amount.maxInteger at fits
    rw [UInt64.size]
    omega
  exact UInt64.toNat_ofNat_of_lt' small

theorem toNat_countOfSum_of_sum {amounts : List Amount} (counts : ∀ a ∈ amounts, a.IsCount)
    {n : Int} (h : Amount.sum amounts = some n) : (countOfSum n).toNat = Amount.total amounts := by
  obtain ⟨rfl, fits⟩ := (Amount.sum_eq_some_iff counts).1 h
  exact toNat_countOfSum fits

/-- Of amounts that are not negative, some come to no more than all. -/
theorem countOfSum_le_of_subperm {as bs : List Amount} (part : as.Subperm bs)
    (least : ∀ b ∈ bs, b.NonNegative) {m n : Int} (summed : Amount.sum as = some m)
    (all : Amount.sum bs = some n) : (countOfSum m).toNat ≤ (countOfSum n).toNat := by
  have counts := Amount.isCount_of_sum all least
  rw [toNat_countOfSum_of_sum (fun a member => counts a (part.subset member)) summed,
    toNat_countOfSum_of_sum counts all]
  exact Amount.total_le_of_subperm part

theorem nodup_eraseDups {α : Type} [BEq α] [LawfulBEq α] : ∀ l : List α, l.eraseDups.Nodup
  | [] => List.nodup_nil
  | a :: rest => by
      have absent : a ∉ (rest.filter fun b => !b == a).eraseDups := by
        rw [List.mem_eraseDups, List.mem_filter]
        simp
      rw [List.eraseDups_cons]
      exact List.nodup_cons.2 ⟨absent, nodup_eraseDups _⟩
  termination_by l => l.length
  decreasing_by exact Nat.lt_succ_of_le (List.length_filter_le ..)

section Groups

variable {α κ : Type} [DecidableEq κ] {key : α → Option κ} (weight : α → Nat) {values : List κ}

theorem sum_of_one (distinct : values.Nodup) {a : α} (covered : ∀ v ∈ key a, v ∈ values) :
    (values.map fun v => if key a == some v then weight a else 0).sum =
      if (key a).isSome then weight a else 0 := by
  cases known : key a with
  | none => simp
  | some k =>
      have others : ∀ v, v ≠ k → v ∈ values → (if some k == some v then weight a else 0) = 0 := by
        intro v other _
        rw [Option.some_beq_some, beq_false_of_ne (Ne.symm other)]
        rfl
      rw [List.sum_map_eq_nsmul_single k _ others,
        List.count_eq_one_of_mem distinct (covered k known), one_nsmul, beq_self_eq_true]
      rfl

/-- The groups make up all rows with a key. -/
theorem sum_of_groups (distinct : values.Nodup) {rows : List α}
    (covered : ∀ a ∈ rows, ∀ v ∈ key a, v ∈ values) :
    (values.map fun v => ((rows.filter fun a => key a == some v).map weight).sum).sum =
      ((rows.filter fun a => (key a).isSome).map weight).sum := by
  induction rows with
  | nil => simp
  | cons a rest ih =>
      obtain ⟨here, later⟩ := List.forall_mem_cons.1 covered
      have more : ∀ p : α → Bool, (((a :: rest).filter p).map weight).sum =
          (if p a then weight a else 0) + ((rest.filter p).map weight).sum := by
        intro p
        cases known : p a <;> simp [known]
      simp only [more]
      rw [List.sum_map_add, ih later, sum_of_one weight distinct here]

end Groups

end RootCause
