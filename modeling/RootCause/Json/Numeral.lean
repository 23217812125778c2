import RootCause.Decimal.Basic
import RootCause.Json.Basic

/-!
The value of a JSON number.

An integer stays an integer when 64 bits hold it. Any other literal is read in two rounding
steps: its leading digits, as many as fit 64 bits, become a double, and that double is
multiplied or divided by a power of ten. Hence the result may differ from the nearest double
in its last place. Digits behind the first one that does not fit are dropped; dropped integer
digits still count as powers of ten.
-/

namespace RootCause

namespace Json

/-- A number literal without its sign: digits before the point, digits behind it, and the
exponent if one is written. -/
structure Numeral where
  whole : List Char
  fraction : Option (List Char)
  exponent : Option Int

namespace Numeral

/-- Appends digits to a significand as long as 64 bits hold it; gives back the digits left. -/
def gather : Nat → List Char → Nat × List Char
  | n, [] => (n, [])
  | n, c :: cs =>
    let next := n * 10 + (c.toNat - '0'.toNat)
    if next < UInt64.size then gather next cs else (n, c :: cs)

def powerOfTen (k : Nat) : Binary64 := Binary64.ofNat (Nat.pow 10 k)

/-- Multiplies by a power of ten, in steps of at most `308`; none when the result is
infinite. -/
def scale (x : Binary64) (exponent : Int) : Option Binary64 :=
  if exponent < -308 then
    if x.isZero then some x else scale (x / powerOfTen 308) (exponent + 308)
  else if exponent < 0 then some (x / powerOfTen exponent.natAbs)
  else if exponent ≤ 308 then
    let product := x * powerOfTen exponent.natAbs
    if product.isInfinite then none else some product
  else if x.isZero then some x
  else none
termination_by exponent.natAbs
decreasing_by omega

/-- The value of a numeral; none when it is too large for a double. -/
def value? (negative : Bool) (n : Numeral) : Option Number :=
  let (whole, left) := gather 0 n.whole
  let signed (x : Binary64) : Number := .double (if negative then x.neg else x)
  match n.fraction, n.exponent, left with
  | none, none, [] =>
    if negative then
      if 0 < whole ∧ whole ≤ 0x8000000000000000 then some (.integer (-(whole : Int)))
      else some (signed (Binary64.ofNat whole))
    else some (.integer whole)
  | fraction, exponent, left =>
    let digits := fraction.getD []
    let (significand, unread) := gather whole digits
    let shift : Int := left.length - (digits.length - unread.length : Nat)
    (scale (Binary64.ofNat significand) (shift + exponent.getD 0)).map signed

end Numeral

end Json

end RootCause
