import RootCause.Binary64.Basic

/-!
Rounding of exact quotients to binary64, and the arithmetic defined by it.

Every operation computes its exact result as a quotient of natural numbers and rounds
once, to the nearest number, a tie going to the even magnitude.
-/

namespace RootCause

/-- The natural number nearest to `n / d`, a half going to the even neighbour. -/
def roundQuotient (n d : Nat) : Nat :=
  let q := n / d
  let r := n % d
  if 2 * r < d then q else if d < 2 * r then q + 1 else q + q % 2

namespace Binary64

/-- The magnitude nearest to `n / d` units. Beyond the largest finite number it is that of
infinity. -/
def nearestMagnitude (n d : Nat) : Nat :=
  let shift := (n / d).log2 - 52
  min infinityMagnitude (roundQuotient n (d * Nat.pow 2 shift) + shift * leastNormal)

theorem nearestMagnitude_le (n d : Nat) : nearestMagnitude n d ≤ infinityMagnitude :=
  Nat.min_le_left _ _

/-- The number nearest to `n / d` units, with the given sign. -/
def nearest (negative : Bool) (n d : Nat) : Binary64 :=
  ⟨negative, nearestMagnitude n d,
    Nat.lt_of_le_of_lt (nearestMagnitude_le n d) (by decide)⟩

@[simp] theorem nearest_negative (s : Bool) (n d : Nat) : (nearest s n d).negative = s := rfl

/-- Rounding never yields a NaN. -/
@[simp] theorem nearest_isNaN (s : Bool) (n d : Nat) : (nearest s n d).isNaN = false :=
  decide_eq_false (Nat.not_lt.2 (nearestMagnitude_le n d))

/-- The number nearest to the quotient `n / d`. -/
def ofRatio (n d : Nat) : Binary64 := nearest false (n * unitsPerOne) d

def ofNat (n : Nat) : Binary64 := ofRatio n 1

def ofInt (n : Int) : Binary64 := nearest (decide (n < 0)) (n.natAbs * unitsPerOne) 1

/-- The result of an operation that has no value. -/
def invalid : Binary64 := nan true

/-- The sum. An exact zero is `-0` only when both terms are negative. -/
def add (x y : Binary64) : Binary64 :=
  if x.isNaN then x else if y.isNaN then y
  else if x.isInfinite then
    if y.isInfinite && x.negative != y.negative then invalid else x
  else if y.isInfinite then y
  else
    let sum := x.units + y.units
    nearest (if sum = 0 then x.negative && y.negative else decide (sum < 0)) sum.natAbs 1

def sub (x y : Binary64) : Binary64 :=
  if x.isNaN then x else if y.isNaN then y else add x y.neg

/-- The product. Zero times infinity is invalid. -/
def mul (x y : Binary64) : Binary64 :=
  let negative := x.negative != y.negative
  if x.isNaN then x else if y.isNaN then y
  else if x.isInfinite || y.isInfinite then
    if x.isZero || y.isZero then invalid else infinity negative
  else nearest negative (x.scaled * y.scaled) unitsPerOne

/-- The quotient. Zero by zero and infinity by infinity are invalid. -/
def div (x y : Binary64) : Binary64 :=
  let negative := x.negative != y.negative
  if x.isNaN then x else if y.isNaN then y
  else if x.isInfinite then
    if y.isInfinite then invalid else infinity negative
  else if y.isInfinite then zero negative
  else if y.isZero then
    if x.isZero then invalid else infinity negative
  else nearest negative (x.scaled * unitsPerOne) y.scaled

/-- The nearest integer, a half going away from zero. The sign survives at zero. -/
def roundAway (x : Binary64) : Binary64 :=
  if x.isFinite then
    nearest x.negative
      ((2 * x.scaled + unitsPerOne) / (2 * unitsPerOne) * unitsPerOne) 1
  else x

instance : Add Binary64 := ⟨add⟩
instance : Sub Binary64 := ⟨sub⟩
instance : Mul Binary64 := ⟨mul⟩
instance : Div Binary64 := ⟨div⟩
instance : Neg Binary64 := ⟨neg⟩

end Binary64

end RootCause
