import RootCause.Proofs.Binary64.Rounding

/-!
Arithmetic within bounds. Numbers from zero to one have products and quotients of that kind, and
a sum, a product or a quotient of numbers is a number except where an infinity cancels out.
-/

namespace RootCause

namespace Binary64

variable {x y low high : Binary64}

theorem le_iff (x y : Binary64) :
    x.le y ↔ x.isNaN = false ∧ y.isNaN = false ∧ x.key ≤ y.key := by
  unfold le
  rw [Bool.and_eq_true, Bool.and_eq_true, Bool.not_eq_true', Bool.not_eq_true',
    decide_eq_true_iff, and_assoc]

theorem lt_iff (x y : Binary64) :
    x.lt y ↔ x.isNaN = false ∧ y.isNaN = false ∧ x.key < y.key := by
  unfold lt
  rw [Bool.and_eq_true, Bool.and_eq_true, Bool.not_eq_true', Bool.not_eq_true',
    decide_eq_true_iff, and_assoc]

theorem le_refl (number : x.isNaN = false) : x.le x :=
  (le_iff x x).2 ⟨number, number, Int.le_refl _⟩

theorem le_of_not_lt (hx : x.isNaN = false) (hy : y.isNaN = false) (h : ¬x.lt y) : y.le x :=
  (le_iff y x).2 ⟨hy, hx, Int.not_lt.1 fun below => h ((lt_iff x y).2 ⟨hx, hy, below⟩)⟩

theorem le_of_lt (h : x.lt y) : x.le y := by
  obtain ⟨hx, hy, below⟩ := (lt_iff x y).1 h
  exact (le_iff x y).2 ⟨hx, hy, Int.le_of_lt below⟩

theorem lt_of_le_of_lt {z : Binary64} (hxy : x.le y) (hyz : y.lt z) : x.lt z := by
  obtain ⟨hx, -, below⟩ := (le_iff x y).1 hxy
  obtain ⟨-, hz, above⟩ := (lt_iff y z).1 hyz
  exact (lt_iff x z).2 ⟨hx, hz, Int.lt_of_le_of_lt below above⟩

/-- A number that is held within bounds lies within them. -/
theorem clamp_between (number : x.isNaN = false) (ordered : low.le high) :
    low.le (x.clamp low high) ∧ (x.clamp low high).le high := by
  obtain ⟨hlow, hhigh, -⟩ := (le_iff low high).1 ordered
  unfold clamp
  split
  · exact ⟨le_refl hlow, ordered⟩
  · next above =>
    split
    · exact ⟨ordered, le_refl hhigh⟩
    · next below => exact ⟨le_of_not_lt number hlow above, le_of_not_lt hhigh number below⟩

theorem key_of_unsigned (h : x.negative = false) : x.key = x.magnitude := by
  rw [key, h, if_neg Bool.false_ne_true]

theorem key_of_signed (h : x.negative) : x.key = -(x.magnitude : Int) := by
  rw [key, h, if_pos rfl]

theorem natAbs_key (x : Binary64) : x.key.natAbs = x.magnitude := by
  unfold key
  split
  · rw [Int.natAbs_neg, Int.natAbs_natCast]
  · exact Int.natAbs_natCast _

/-- Between finite numbers all are finite. -/
theorem isFinite_of_between (hlow : low.isFinite) (hhigh : high.isFinite)
    (h : low.le x ∧ x.le high) : x.isFinite := by
  obtain ⟨-, -, above⟩ := (le_iff low x).1 h.1
  obtain ⟨-, -, below⟩ := (le_iff x high).1 h.2
  have least : low.magnitude < infinityMagnitude := of_decide_eq_true hlow
  have largest : high.magnitude < infinityMagnitude := of_decide_eq_true hhigh
  rw [← natAbs_key] at least largest
  refine decide_eq_true ?_
  rw [← natAbs_key]
  omega

/-- From zero to a bound are the numbers of no larger magnitude, without the negative ones. -/
theorem between_zero_iff (positive : high.negative = false) (number : high.isNaN = false) :
    (zero false).le x ∧ x.le high ↔
      x.magnitude ≤ high.magnitude ∧ (x.negative → x.magnitude = 0) := by
  have size := x.natAbs_key
  rw [le_iff, le_iff, key_of_unsigned positive]
  change (_ ∧ _ ∧ (0 : Int) ≤ x.key) ∧ _ ↔ _
  constructor
  · rintro ⟨⟨-, -, above⟩, -, -, below⟩
    refine ⟨by omega, fun minus => ?_⟩
    rw [key_of_signed minus] at above
    omega
  · rintro ⟨below, minus⟩
    have bound : high.magnitude ≤ infinityMagnitude := Nat.not_lt.1 (of_decide_eq_false number)
    have number' : x.isNaN = false := decide_eq_false (Nat.not_lt.2 (Nat.le_trans below bound))
    have above : 0 ≤ x.key := by
      cases sign : x.negative with
      | false =>
          rw [key_of_unsigned sign]
          exact Int.natCast_nonneg _
      | true =>
          rw [key_of_signed sign, minus sign]
          exact Int.le_refl 0
    exact ⟨⟨rfl, number', above⟩, number', number, by omega⟩

section Finite

theorem mul_eq (hx : x.isFinite) (hy : y.isFinite) :
    x * y = nearest (x.negative != y.negative) (x.scaled * y.scaled) unitsPerOne := by
  change mul x y = _
  simp [mul, isNaN_of_isFinite, isInfinite_of_isFinite, hx, hy]

theorem div_eq (hx : x.isFinite) (hy : y.isFinite) (nonzero : y.isZero = false) :
    x / y = nearest (x.negative != y.negative) (x.scaled * unitsPerOne) y.scaled := by
  change div x y = _
  simp [div, isNaN_of_isFinite, isInfinite_of_isFinite, hx, hy, nonzero]

theorem isNaN_add (hx : x.isFinite) (hy : y.isFinite) : (x + y).isNaN = false := by
  change (add x y).isNaN = false
  simp [add, isNaN_of_isFinite, isInfinite_of_isFinite, hx, hy]

/-- A number times one that is neither zero nor infinite. -/
theorem isNaN_mul (hx : x.isNaN = false) (hy : y.isFinite) (nonzero : y.isZero = false) :
    (x * y).isNaN = false := by
  cases finite : x.isFinite with
  | true =>
      rw [mul_eq finite hy]
      exact nearest_isNaN ..
  | false =>
      have large : infinityMagnitude ≤ x.magnitude := Nat.not_lt.1 (of_decide_eq_false finite)
      have some : x.isZero = false :=
        decide_eq_false (Nat.ne_of_gt (Nat.lt_of_lt_of_le (by decide) large))
      change (mul x y).isNaN = false
      simp only [mul, hx, isNaN_of_isFinite hy, some, nonzero, Bool.or_self, Bool.false_eq_true,
        ↓reduceIte]
      split
      · rfl
      · exact nearest_isNaN ..

/-- A number divided by one that is neither zero nor infinite. -/
theorem isNaN_div (hx : x.isNaN = false) (hy : y.isFinite) (nonzero : y.isZero = false) :
    (x / y).isNaN = false := by
  change (div x y).isNaN = false
  simp only [div, hx, isNaN_of_isFinite hy, isInfinite_of_isFinite hy, nonzero,
    Bool.false_eq_true, ↓reduceIte]
  split
  · rfl
  · exact nearest_isNaN ..

theorem isNaN_roundAway (hx : x.isNaN = false) : x.roundAway.isNaN = false := by
  unfold roundAway
  split
  · exact nearest_isNaN ..
  · exact hx

end Finite

section Unit

theorem magnitude_ofNat (n : Nat) : (ofNat n).magnitude = nearestMagnitude (n * unitsPerOne) 1 :=
  rfl

theorem isNaN_ofNat (n : Nat) : (ofNat n).isNaN = false := nearest_isNaN ..

theorem scaled_one : (ofNat 1).scaled = unitsPerOne := by decide +kernel

theorem unitsPerOne_pos : 0 < unitsPerOne := Nat.pos_of_ne_zero (by decide +kernel)

/-- Numbers from zero to one. -/
def InUnit (x : Binary64) : Prop := (zero false).le x ∧ x.le (ofNat 1)

theorem inUnit_iff (x : Binary64) :
    x.InUnit ↔ x.magnitude ≤ (ofNat 1).magnitude ∧ (x.negative → x.magnitude = 0) :=
  between_zero_iff rfl (isNaN_ofNat 1)

theorem isFinite_of_magnitude_le (h : x.magnitude ≤ (ofNat 1).magnitude) : x.isFinite :=
  decide_eq_true (Nat.lt_of_le_of_lt h (by decide +kernel))

namespace InUnit

theorem magnitude_le (h : x.InUnit) : x.magnitude ≤ (ofNat 1).magnitude := ((inUnit_iff x).1 h).1

theorem isNaN (h : x.InUnit) : x.isNaN = false := ((le_iff _ _).1 h.1).2.1

theorem isFinite (h : x.InUnit) : x.isFinite := isFinite_of_magnitude_le h.magnitude_le

theorem clamp (number : x.isNaN = false) : (x.clamp (.zero false) (.ofNat 1)).InUnit :=
  clamp_between number (by decide +kernel)

theorem zero (negative : Bool) : (Binary64.zero negative).InUnit :=
  (inUnit_iff _).2 ⟨Nat.zero_le _, fun _ => rfl⟩

/-- A part divided by the whole. -/
theorem div (hx : x.negative = false) (hy : y.negative = false) (finite : y.isFinite)
    (nonzero : y.isZero = false) (part : x.magnitude ≤ y.magnitude) : (x / y).InUnit := by
  have dividend : x.isFinite :=
    decide_eq_true (Nat.lt_of_le_of_lt part (of_decide_eq_true finite))
  have whole : 0 < y.scaled := scaled_pos nonzero
  rw [div_eq dividend finite nonzero, hx, hy]
  refine (inUnit_iff _).2 ⟨?_, fun minus => by cases minus⟩
  rw [magnitude_ofNat]
  refine nearestMagnitude_mono whole Nat.one_pos ?_
  rw [Nat.mul_one, Nat.one_mul, Nat.mul_comm]
  exact Nat.mul_le_mul_left _ (scaled_mono part)

end InUnit

/-- A product of numbers from minus one to one is such a number. -/
theorem magnitude_mul_le (hx : x.magnitude ≤ (ofNat 1).magnitude)
    (hy : y.magnitude ≤ (ofNat 1).magnitude) : (x * y).magnitude ≤ (ofNat 1).magnitude := by
  rw [mul_eq (isFinite_of_magnitude_le hx) (isFinite_of_magnitude_le hy), magnitude_ofNat]
  refine nearestMagnitude_mono unitsPerOne_pos Nat.one_pos ?_
  have sizes := Nat.mul_le_mul (scaled_mono hx) (scaled_mono hy)
  rw [scaled_one] at sizes
  rw [Nat.mul_one, Nat.one_mul]
  exact sizes

end Unit

section Max

/-- The larger of two numbers. -/
theorem max_spec (hx : x.isNaN = false) (hy : y.isNaN = false) :
    (x.max y = x ∨ x.max y = y) ∧ x.le (x.max y) ∧ y.le (x.max y) := by
  unfold Binary64.max
  rw [hx, hy, if_neg Bool.false_ne_true, if_neg Bool.false_ne_true]
  split
  · next below => exact ⟨.inr rfl, le_of_lt below, le_refl hy⟩
  · next above => exact ⟨.inl rfl, le_refl hx, le_of_not_lt hx hy above⟩

end Max

end Binary64

end RootCause
