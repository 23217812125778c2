import RootCause.Score.Rank

/-!
Which rates and changes are there, and the signs of scores. A rate that is not zero has counts
above and below that are not, and a score is minus infinity only for a change that is missing.
-/

namespace RootCause

namespace Binary64

theorem eqv_zero_iff (x : Binary64) : x.eqv (.zero false) ↔ x.magnitude = 0 := by
  have number : (zero false).isNaN = false := rfl
  unfold eqv
  rw [number, Bool.not_false, Bool.and_true, Bool.and_eq_true, decide_eq_true_iff,
    Bool.not_eq_true', isNaN, decide_eq_false_iff_not, Nat.not_lt]
  have key : x.key = (zero false).key ↔ x.magnitude = 0 := by
    unfold key zero
    cases x.negative <;> simp
  rw [key]
  constructor
  · exact And.right
  · intro none
    rw [none]
    exact ⟨Nat.zero_le _, rfl⟩

theorem nearestMagnitude_zero (d : Nat) : nearestMagnitude 0 d = 0 := by
  unfold nearestMagnitude roundQuotient
  rw [Nat.zero_div, Nat.log2_zero]
  simp

/-- Quotients beyond the subnormal numbers are not rounded to zero. -/
theorem nearestMagnitude_pos {n d : Nat} (h : 2 * leastNormal ≤ n / d) :
    0 < nearestMagnitude n d := by
  have positive : 0 < leastNormal := by decide
  have shifted : 1 ≤ (n / d).log2 - 52 := by
    have log : 53 ≤ (n / d).log2 := (Nat.le_log2 (by omega)).2 h
    omega
  have large : leastNormal ≤ ((n / d).log2 - 52) * leastNormal := Nat.le_mul_of_pos_left _ shifted
  unfold nearestMagnitude
  refine Nat.lt_min.2 ⟨by decide, ?_⟩
  omega

theorem magnitude_div_of_zero {x y : Binary64} (hx : x.magnitude = 0) (hy : ¬y.isNaN)
    (nonzero : y.magnitude ≠ 0) : (x / y).magnitude = 0 := by
  have small : x.scaled = 0 := by
    unfold scaled
    rw [hx]
    rfl
  have number : x.isNaN = false := by
    unfold isNaN
    rw [hx]
    rfl
  have finite : x.isInfinite = false := by
    unfold isInfinite
    rw [hx]
    rfl
  have divisor : y.isZero = false := decide_eq_false nonzero
  change (div x y).magnitude = 0
  unfold div
  simp only [number, hy, finite, divisor, small, Nat.zero_mul, Bool.false_eq_true, ↓reduceIte]
  split
  · rfl
  · exact nearestMagnitude_zero _

/-- A number without a minus sign, or none at all. -/
def Unsigned (x : Binary64) : Prop := x.isNaN ∨ x.negative = false

namespace Unsigned

variable {x y : Binary64}

theorem abs (x : Binary64) : x.abs.Unsigned := .inr rfl

theorem div (hx : x.negative = false) (hy : y.negative = false) : (x / y).Unsigned := by
  change (Binary64.div x y).Unsigned
  unfold Binary64.div
  rw [hx, hy]
  dsimp only
  split
  · exact .inr hx
  · split
    · exact .inr hy
    · split
      · split
        · exact .inl rfl
        · exact .inr rfl
      · split
        · exact .inr rfl
        · split
          · split
            · exact .inl rfl
            · exact .inr rfl
          · exact .inr rfl

theorem mul (hx : x.Unsigned) (hy : y.Unsigned) : (x * y).Unsigned := by
  change (Binary64.mul x y).Unsigned
  unfold Binary64.mul
  dsimp only
  split
  · exact hx
  · next number =>
    split
    · exact hy
    · next number' =>
      rw [hx.resolve_left number, hy.resolve_left number']
      split
      · split
        · exact .inl rfl
        · exact .inr rfl
      · exact .inr rfl

theorem ne_infinity (h : x.Unsigned) : x ≠ .infinity true := by
  rintro rfl
  rcases h with number | sign
  · cases number
  · cases sign

end Unsigned

end Binary64

open Binary64

theorem magnitude_countDouble_eq_zero_iff (n : UInt64) : (countDouble n).magnitude = 0 ↔ n = 0 := by
  rw [← UInt64.toNat_inj]
  change nearestMagnitude (n.toNat * unitsPerOne) 1 = 0 ↔ n.toNat = 0
  rcases Nat.eq_zero_or_pos n.toNat with none | some
  · rw [none, Nat.zero_mul]
    exact iff_of_true (nearestMagnitude_zero 1) rfl
  · have units : 2 * leastNormal ≤ n.toNat * unitsPerOne / 1 := by
      rw [Nat.div_one]
      have one : 2 * leastNormal ≤ unitsPerOne := by decide +kernel
      exact Nat.le_trans one (Nat.le_mul_of_pos_left _ some)
    exact iff_of_false (Nat.ne_of_gt (nearestMagnitude_pos units)) (Nat.ne_of_gt some)

theorem countDouble_eqv_zero_iff (n : UInt64) : (countDouble n).eqv (.zero false) ↔ n = 0 := by
  rw [eqv_zero_iff, magnitude_countDouble_eq_zero_iff]

theorem isSome_pctChange_iff (current baseline : Binary64) :
    (pctChange current baseline).isSome ↔ ¬baseline.eqv (.zero false) := by
  unfold pctChange
  split
  · next zero => exact iff_of_false Bool.false_ne_true fun nonzero => nonzero zero
  · next nonzero => exact iff_of_true rfl nonzero

theorem isSome_countChange_iff (current baseline : UInt64) :
    (countChange current baseline).isSome ↔ baseline ≠ 0 := by
  unfold countChange
  rw [isSome_pctChange_iff, countDouble_eqv_zero_iff]

/-- A change of rates is there when both are and the baseline is not zero. -/
theorem isSome_rateChange {current baseline : Option Binary64} (present : current.isSome)
    (nonzero : baseline.any fun r => !r.eqv (.zero false)) :
    (rateChange current baseline).isSome := by
  cases current with
  | none => cases present
  | some x =>
      cases baseline with
      | none => cases nonzero
      | some y =>
          refine (isSome_pctChange_iff x y).2 fun zero => ?_
          rw [Option.any_some, zero] at nonzero
          cases nonzero

/-- A rate that is there and not zero has counts above and below. -/
theorem counts_ne_zero_of_rate {a b : UInt64}
    (h : (rate a b).any fun r => !r.eqv (.zero false)) : a ≠ 0 ∧ b ≠ 0 := by
  unfold rate at h
  split at h
  · cases h
  · next divisor =>
    refine ⟨?_, divisor⟩
    rintro rfl
    have zero : (countDouble 0 / countDouble b).eqv (.zero false) :=
      (eqv_zero_iff _).2 (magnitude_div_of_zero ((magnitude_countDouble_eq_zero_iff 0).2 rfl)
        (Bool.eq_false_iff.1 (nearest_isNaN ..))
        fun none => divisor ((magnitude_countDouble_eq_zero_iff b).1 none))
    rw [Option.any_some, zero] at h
    cases h

@[simp] theorem countDouble_negative (n : UInt64) : (countDouble n).negative = false :=
  nearest_negative ..

theorem share_unsigned (part total : UInt64) : (share part total).Unsigned := by
  unfold share rate
  split
  · exact .inr rfl
  · rw [Option.getD_some]
    exact Unsigned.div (countDouble_negative part) (countDouble_negative total)

theorem weighted_unsigned {value : Option Binary64} (present : value.isSome) {weight : Binary64}
    (h : weight.Unsigned) : (weighted value weight).Unsigned := by
  obtain ⟨x, rfl⟩ := Option.isSome_iff_exists.1 present
  exact (Unsigned.abs x).mul h

end RootCause
