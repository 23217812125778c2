import RootCause.Decimal.Shortest

/-!
Texts of binary64 numbers: positional, with a fixed number of places, and as a JSON number.
-/

namespace RootCause

namespace Decimal

/-- The digits with the decimal point at its place: no exponent, no point when there is no
fraction. -/
def positional (d : Decimal) : String :=
  let digits := Nat.toDigits 10 d.digits
  let point := d.pointPosition
  if d.digits = 0 then "0"
  else if 0 ≤ d.exponent then String.ofList (digits ++ List.replicate d.exponent.toNat '0')
  else if 0 < point then
    String.ofList (digits.take point.toNat ++ '.' :: digits.drop point.toNat)
  else String.ofList ('0' :: '.' :: (List.replicate (-point).toNat '0' ++ digits))

/-- One digit before the point and an exponent with its sign. -/
def scientific (d : Decimal) : String :=
  let point := d.pointPosition - 1
  let exponent := if point < 0 then s!"-{point.natAbs}" else s!"+{point.natAbs}"
  match Nat.toDigits 10 d.digits with
  | [] => ""
  | [c] => String.ofList [c] ++ "e" ++ exponent
  | c :: cs => String.ofList (c :: '.' :: cs) ++ "e" ++ exponent

/-- Always with a point or an exponent; positional for magnitudes from `10 ^ (-5)` up to,
and without, `10 ^ 16`. -/
def jsonText (d : Decimal) : String :=
  if d.digits = 0 then "0.0"
  else if d.pointPosition ≤ -5 ∨ 16 < d.pointPosition then d.scientific
  else if 0 ≤ d.exponent then d.positional ++ ".0"
  else d.positional

end Decimal

namespace Binary64

/-- Puts the sign before the text of a magnitude. -/
def signed (x : Binary64) (text : String) : String := if x.negative then "-" ++ text else text

/-- The shortest positional text, `inf` and `NaN` for the rest. -/
def text (x : Binary64) : String :=
  if x.isNaN then "NaN"
  else x.signed (if x.isInfinite then "inf" else x.shortest.positional)

/-- The value rounded to two places, a tie going to the even digit. -/
def fixed2 (x : Binary64) : String :=
  if x.isNaN then "NaN"
  else if x.isInfinite then x.signed "inf"
  else
    let hundredths := roundQuotient (100 * x.scaled) unitsPerOne
    let places := Nat.toDigits 10 (100 + hundredths % 100)
    x.signed (toString (hundredths / 100) ++ "." ++ String.ofList (places.drop 1))

/-- The number as JSON writes it. Only finite numbers have such a text. -/
def jsonText (x : Binary64) : String := x.signed x.shortest.jsonText

end Binary64

end RootCause
