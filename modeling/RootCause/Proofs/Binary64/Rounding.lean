import RootCause.Binary64.Rounding

/-!
Rounding keeps order: a larger quotient is not rounded to a smaller magnitude, and a larger
magnitude does not stand for a smaller number.
-/

namespace RootCause

section Quotients

variable {n d n' d' : Nat}

theorem le_roundQuotient (n d : Nat) : n / d ≤ roundQuotient n d := by
  unfold roundQuotient
  dsimp only
  split
  · exact Nat.le_refl _
  · split
    · exact Nat.le_succ _
    · exact Nat.le_add_right _ _

theorem roundQuotient_le (n d : Nat) : roundQuotient n d ≤ n / d + 1 := by
  unfold roundQuotient
  dsimp only
  split
  · exact Nat.le_succ _
  · split
    · exact Nat.le_refl _
    · exact Nat.add_le_add_left (Nat.le_of_lt_succ (Nat.mod_lt _ Nat.two_pos)) _

theorem div_le_div_of_cross (hd : 0 < d) (hd' : 0 < d') (h : n * d' ≤ n' * d) :
    n / d ≤ n' / d' := by
  refine (Nat.le_div_iff_mul_le hd').2 (Nat.le_of_mul_le_mul_right ?_ hd)
  calc n / d * d' * d = n / d * d * d' := Nat.mul_right_comm ..
    _ ≤ n * d' := Nat.mul_le_mul_right d' (Nat.div_mul_le_self n d)
    _ ≤ n' * d := h

/-- A larger quotient is not rounded to a smaller number. -/
theorem roundQuotient_mono (hd : 0 < d) (hd' : 0 < d') (h : n * d' ≤ n' * d) :
    roundQuotient n d ≤ roundQuotient n' d' := by
  rcases Nat.lt_or_eq_of_le (div_le_div_of_cross hd hd' h) with below | same
  · calc roundQuotient n d ≤ n / d + 1 := roundQuotient_le n d
      _ ≤ n' / d' := below
      _ ≤ roundQuotient n' d' := le_roundQuotient n' d'
  · -- With one integral part the remainders are ordered, and so are their places at a half.
    have parts := Nat.div_add_mod n d
    have parts' := Nat.div_add_mod n' d'
    have remainders : n % d * d' ≤ n' % d' * d := by
      rw [← parts, ← parts', ← same] at h
      have cross : d * (n / d) * d' = d' * (n / d) * d := by ac_rfl
      rw [Nat.add_mul, Nat.add_mul, cross] at h
      exact Nat.le_of_add_le_add_left h
    unfold roundQuotient
    dsimp only
    rw [← same]
    by_cases low : 2 * (n % d) < d
    · rw [if_pos low]
      split
      · exact Nat.le_refl _
      · split
        · exact Nat.le_succ _
        · exact Nat.le_add_right _ _
    · have half : d * d' ≤ 2 * (n' % d') * d := by
        calc d * d' ≤ 2 * (n % d) * d' := Nat.mul_le_mul_right d' (Nat.not_lt.1 low)
          _ = 2 * (n % d * d') := Nat.mul_assoc ..
          _ ≤ 2 * (n' % d' * d) := Nat.mul_le_mul_left 2 remainders
          _ = 2 * (n' % d') * d := (Nat.mul_assoc ..).symm
      rw [Nat.mul_comm d d'] at half
      rw [if_neg low, if_neg (Nat.not_lt.2 (Nat.le_of_mul_le_mul_right half hd))]
      by_cases high : d < 2 * (n % d)
      · have beyond : d' * d < 2 * (n' % d') * d := by
          calc d' * d = d * d' := Nat.mul_comm ..
            _ < 2 * (n % d) * d' := Nat.mul_lt_mul_of_pos_right high hd'
            _ = 2 * (n % d * d') := Nat.mul_assoc ..
            _ ≤ 2 * (n' % d' * d) := Nat.mul_le_mul_left 2 remainders
            _ = 2 * (n' % d') * d := (Nat.mul_assoc ..).symm
        rw [if_pos high]
        exact Nat.le_of_eq (if_pos (Nat.lt_of_mul_lt_mul_right beyond)).symm
      · rw [if_neg high]
        split
        · exact Nat.add_le_add_left (Nat.le_of_lt_succ (Nat.mod_lt _ Nat.two_pos)) _
        · exact Nat.le_refl _

end Quotients

namespace Binary64

section Magnitudes

variable {n d n' d' : Nat} {x y : Binary64}

/-- The significand of a rounded quotient has at most 53 bits, and no fewer unless the exponent is
the least one. -/
theorem significand_bounds {s : Nat} (h : (n / d).log2 - 52 = s) :
    n / (d * Nat.pow 2 s) < 2 * leastNormal ∧
      (s = 0 ∨ leastNormal ≤ n / (d * Nat.pow 2 s)) := by
  have unit : leastNormal = 2 ^ 52 := by decide
  rw [← Nat.div_div_eq_div_mul, unit]
  constructor
  · refine (Nat.div_lt_iff_lt_mul (Nat.two_pow_pos s)).2 ?_
    calc n / d < 2 ^ ((n / d).log2 + 1) := Nat.lt_log2_self
      _ ≤ 2 ^ (1 + 52 + s) := Nat.pow_le_pow_right Nat.two_pos (by omega)
      _ = 2 * 2 ^ 52 * 2 ^ s := by rw [Nat.pow_add, Nat.pow_add, Nat.pow_one]
  · rcases Nat.eq_zero_or_pos s with least | above
    · exact .inl least
    · have some : n / d ≠ 0 := by
        intro none
        rw [none, Nat.log2_zero] at h
        omega
      refine .inr ((Nat.le_div_iff_mul_le (Nat.two_pow_pos s)).2 ?_)
      calc 2 ^ 52 * 2 ^ s = 2 ^ (52 + s) := (Nat.pow_add ..).symm
        _ ≤ 2 ^ (n / d).log2 := Nat.pow_le_pow_right Nat.two_pos (by omega)
        _ ≤ n / d := Nat.log2_self_le some

/-- A larger quotient is not rounded to a smaller magnitude. -/
theorem nearestMagnitude_mono (hd : 0 < d) (hd' : 0 < d') (h : n * d' ≤ n' * d) :
    nearestMagnitude n d ≤ nearestMagnitude n' d' := by
  have quotients := div_le_div_of_cross hd hd' h
  unfold nearestMagnitude
  dsimp only
  generalize shifted : (n / d).log2 - 52 = s
  generalize shifted' : (n' / d').log2 - 52 = s'
  refine Nat.le_min.2 ⟨Nat.min_le_left .., Nat.le_trans (Nat.min_le_right ..) ?_⟩
  by_cases lower : s < s'
  · -- A full significand of the larger exponent is beyond all that of the smaller one.
    have below : roundQuotient n (d * Nat.pow 2 s) ≤ 2 * leastNormal :=
      Nat.le_trans (roundQuotient_le ..) (significand_bounds shifted).1
    have above : leastNormal ≤ roundQuotient n' (d' * Nat.pow 2 s') :=
      Nat.le_trans ((significand_bounds shifted').2.resolve_left (by omega)) (le_roundQuotient ..)
    calc roundQuotient n (d * Nat.pow 2 s) + s * leastNormal
        ≤ 2 * leastNormal + s * leastNormal := Nat.add_le_add_right below _
      _ = leastNormal + (s + 1) * leastNormal := by
          rw [Nat.two_mul, Nat.succ_mul, Nat.add_assoc, Nat.add_comm (s * leastNormal)]
      _ ≤ leastNormal + s' * leastNormal :=
          Nat.add_le_add_left (Nat.mul_le_mul_right _ lower) _
      _ ≤ roundQuotient n' (d' * Nat.pow 2 s') + s' * leastNormal :=
          Nat.add_le_add_right above _
  · have ordered : (n / d).log2 ≤ (n' / d').log2 := by
      rcases Nat.eq_zero_or_pos (n / d) with none | some
      · rw [none, Nat.log2_zero]
        exact Nat.zero_le _
      · refine (Nat.le_log2 (by omega)).2 (Nat.le_trans (Nat.log2_self_le ?_) quotients)
        omega
    obtain rfl : s = s' := by omega
    have scale := Nat.two_pow_pos s
    refine Nat.add_le_add_right (roundQuotient_mono (Nat.mul_pos hd scale) ?_ ?_) _
    · exact Nat.mul_pos hd' scale
    · rw [← Nat.mul_assoc, ← Nat.mul_assoc]
      exact Nat.mul_le_mul_right _ h

/-- A number of larger magnitude is farther from zero. -/
theorem scaled_mono (h : x.magnitude ≤ y.magnitude) : x.scaled ≤ y.scaled := by
  unfold scaled
  generalize x.magnitude = m at h
  generalize y.magnitude = m' at h
  have unit : 0 < leastNormal := by decide
  have remainder := Nat.mod_lt m unit
  by_cases low : m < 2 * leastNormal
  · rw [if_pos low]
    split
    · exact h
    · next high =>
      have exponent : 1 ≤ m' / leastNormal - 1 := by
        have two := (Nat.le_div_iff_mul_le unit).2 (Nat.not_lt.1 high)
        omega
      calc m ≤ leastNormal * 2 := by omega
        _ ≤ leastNormal * 2 ^ (m' / leastNormal - 1) :=
          Nat.mul_le_mul_left _ (Nat.pow_le_pow_right Nat.two_pos exponent)
        _ ≤ (leastNormal + m' % leastNormal) * Nat.pow 2 (m' / leastNormal - 1) :=
          Nat.mul_le_mul_right _ (Nat.le_add_right ..)
  · rw [if_neg low, if_neg (by omega)]
    have exponents : m / leastNormal ≤ m' / leastNormal := Nat.div_le_div_right h
    rcases Nat.lt_or_eq_of_le exponents with below | same
    · have exponent : m / leastNormal - 1 + 1 ≤ m' / leastNormal - 1 := by
        have two := (Nat.le_div_iff_mul_le unit).2 (Nat.not_lt.1 low)
        omega
      calc (leastNormal + m % leastNormal) * Nat.pow 2 (m / leastNormal - 1)
          ≤ leastNormal * 2 * 2 ^ (m / leastNormal - 1) := Nat.mul_le_mul_right _ (by omega)
        _ = leastNormal * 2 ^ (m / leastNormal - 1 + 1) := by rw [Nat.mul_assoc, Nat.pow_succ']
        _ ≤ leastNormal * 2 ^ (m' / leastNormal - 1) :=
          Nat.mul_le_mul_left _ (Nat.pow_le_pow_right Nat.two_pos exponent)
        _ ≤ (leastNormal + m' % leastNormal) * Nat.pow 2 (m' / leastNormal - 1) :=
          Nat.mul_le_mul_right _ (Nat.le_add_right ..)
    · have parts := Nat.div_add_mod m leastNormal
      have parts' := Nat.div_add_mod m' leastNormal
      rw [same] at parts ⊢
      exact Nat.mul_le_mul_right _ (by omega)

theorem scaled_pos (h : x.isZero = false) : 0 < x.scaled := by
  have some : 0 < x.magnitude := Nat.pos_of_ne_zero (of_decide_eq_false h)
  unfold scaled
  split
  · exact some
  · exact Nat.mul_pos (Nat.add_pos_left (by decide) _) (Nat.two_pow_pos _)

end Magnitudes

end Binary64

end RootCause
