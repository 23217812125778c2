import RootCause.Binary64.Rounding

/-!
Decimals `digits * 10 ^ exponent` and the binary64 number nearest to one.
-/

namespace RootCause

/-- The nonnegative number `digits * 10 ^ exponent`. -/
structure Decimal where
  digits : Nat
  exponent : Int
deriving DecidableEq

namespace Decimal

/-- The value as a quotient of natural numbers. -/
def ratio (d : Decimal) : Nat × Nat :=
  (d.digits * Nat.pow 10 d.exponent.toNat, Nat.pow 10 (-d.exponent).toNat)

/-- The count of digits before the decimal point, negative for leading zeros behind it. -/
def pointPosition (d : Decimal) : Int := (Nat.toDigits 10 d.digits).length + d.exponent

/-- The nearest binary64 number with the given sign. A decimal from `10 ^ 310` is infinite and
one below `10 ^ (-330)` is zero, whatever its digits, so no power beyond those is formed. -/
def toBinary64 (negative : Bool) (d : Decimal) : Binary64 :=
  if d.digits = 0 then .zero negative
  else if 310 < d.pointPosition then .infinity negative
  else if d.pointPosition < -330 then .zero negative
  else .nearest negative (d.ratio.1 * Binary64.unitsPerOne) d.ratio.2

/-- Removes the zeros at the end of the digits, at most `limit` of them. -/
def dropZeros : Nat → Decimal → Decimal
  | 0, d => d
  | limit + 1, d =>
    if d.digits ≠ 0 ∧ d.digits % 10 = 0 then dropZeros limit ⟨d.digits / 10, d.exponent + 1⟩
    else d

end Decimal

/-- The number that a run of decimal digits denotes. -/
def digitsValue (cs : List Char) : Nat :=
  cs.foldl (fun n c => 10 * n + (c.toNat - '0'.toNat)) 0

end RootCause
