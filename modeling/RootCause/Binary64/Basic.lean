/-!
Binary64 numbers as a sign and a magnitude, with the two orders they are compared by.

Magnitudes are ordered as the values they stand for, so numeric comparison and the total
order are both comparisons of integers.
-/

namespace RootCause

/-- A binary64 word: its sign and the 63 bits below the sign. -/
structure Binary64 where
  negative : Bool
  magnitude : Nat
  magnitude_lt : magnitude < 0x8000000000000000
deriving DecidableEq

namespace Binary64

/-- The magnitude of infinity. Smaller magnitudes are finite, larger ones are not numbers. -/
def infinityMagnitude : Nat := 0x7FF0000000000000

def isFinite (x : Binary64) : Bool := decide (x.magnitude < infinityMagnitude)

def isInfinite (x : Binary64) : Bool := decide (x.magnitude = infinityMagnitude)

def isNaN (x : Binary64) : Bool := decide (infinityMagnitude < x.magnitude)

def isZero (x : Binary64) : Bool := decide (x.magnitude = 0)

theorem isNaN_of_isFinite {x : Binary64} (h : x.isFinite) : x.isNaN = false :=
  decide_eq_false (Nat.not_lt.2 (Nat.le_of_lt (of_decide_eq_true h)))

theorem isInfinite_of_isFinite {x : Binary64} (h : x.isFinite) : x.isInfinite = false :=
  decide_eq_false (Nat.ne_of_lt (of_decide_eq_true h))

def zero (negative : Bool) : Binary64 := ⟨negative, 0, by decide⟩

def infinity (negative : Bool) : Binary64 := ⟨negative, infinityMagnitude, by decide⟩

/-- The quiet NaN without payload. -/
def nan (negative : Bool) : Binary64 := ⟨negative, 0x7FF8000000000000, by decide⟩

instance : Inhabited Binary64 := ⟨zero false⟩

def neg (x : Binary64) : Binary64 := { x with negative := !x.negative }

def abs (x : Binary64) : Binary64 := { x with negative := false }

/-- The signed magnitude. Both zeros have the key zero. -/
def key (x : Binary64) : Int := if x.negative then -(x.magnitude : Int) else x.magnitude

/-- Numeric `<`. A NaN is below nothing and above nothing. -/
def lt (x y : Binary64) : Bool := !x.isNaN && !y.isNaN && decide (x.key < y.key)

/-- Numeric `≤`, false as soon as a NaN takes part. -/
def le (x y : Binary64) : Bool := !x.isNaN && !y.isNaN && decide (x.key ≤ y.key)

/-- Numeric equality: the two zeros are equal and a NaN differs from everything. -/
def eqv (x y : Binary64) : Bool := !x.isNaN && !y.isNaN && decide (x.key = y.key)

/-- The key of the total order: negative NaNs first, then numbers by value with `-0`
before `+0`, positive NaNs last. -/
def orderKey (x : Binary64) : Int :=
  if x.negative then -1 - (x.magnitude : Int) else x.magnitude

/-- The total order of words. -/
def totalLe (x y : Binary64) : Bool := decide (x.orderKey ≤ y.orderKey)

/-- Distinct words have distinct order keys. -/
theorem orderKey_inj {x y : Binary64} (h : x.orderKey = y.orderKey) : x = y := by
  obtain ⟨s, m, hm⟩ := x
  obtain ⟨t, n, hn⟩ := y
  cases s <;> cases t <;> simp [orderKey] at h ⊢ <;> omega

/-- The larger number; a NaN yields to the other operand. -/
def max (x y : Binary64) : Binary64 :=
  if x.isNaN then y else if y.isNaN then x else if x.lt y then y else x

/-- The nearest number of `[low, high]`. A NaN stays a NaN. -/
def clamp (x low high : Binary64) : Binary64 :=
  if x.lt low then low else if high.lt x then high else x

/-- The least magnitude of a normal number: significands have 53 bits. -/
def leastNormal : Nat := 0x10000000000000

/-- The distance from zero in units of `2 ^ -1074`, for a finite number. -/
def scaled (x : Binary64) : Nat :=
  if x.magnitude < 2 * leastNormal then x.magnitude
  else (leastNormal + x.magnitude % leastNormal) * Nat.pow 2 (x.magnitude / leastNormal - 1)

/-- The signed value in units of `2 ^ -1074`, for a finite number. -/
def units (x : Binary64) : Int := if x.negative then -(x.scaled : Int) else x.scaled

/-- The number of units in one. -/
def unitsPerOne : Nat := Nat.pow 2 1074

end Binary64

end RootCause
