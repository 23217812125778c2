import RootCause.Decimal.Basic

/-!
Numbers read from free text: decimals with an optional sign, point and exponent, and the
names of infinity and NaN.
-/

namespace RootCause

namespace Decimal

/-- An exponent after its mark: an optional sign and at least one digit, to the end. -/
def readExponent (cs : List Char) : Option Int :=
  let (negative, digits) := match cs with
    | '-' :: rest => (true, rest)
    | '+' :: rest => (false, rest)
    | rest => (false, rest)
  if digits.isEmpty || !digits.all Char.isDigit then none
  else if negative then some (-(digitsValue digits : Int)) else some (digitsValue digits)

/-- An unsigned decimal: digits with at most one point, at least one digit in all, and an
optional exponent. Trailing text is refused. -/
def read? (cs : List Char) : Option Decimal :=
  let whole := cs.takeWhile Char.isDigit
  let (fraction, rest) := match cs.dropWhile Char.isDigit with
    | '.' :: rest => (rest.takeWhile Char.isDigit, rest.dropWhile Char.isDigit)
    | rest => ([], rest)
  let digits := digitsValue (whole ++ fraction)
  if whole.isEmpty && fraction.isEmpty then none
  else match rest with
    | [] => some ⟨digits, -(fraction.length : Int)⟩
    | mark :: rest =>
      if mark = 'e' ∨ mark = 'E' then
        (readExponent rest).map fun e => ⟨digits, e - fraction.length⟩
      else none

end Decimal

namespace Binary64

/-- A number without its sign. The names of infinity and NaN are read in any letter case. -/
def readUnsigned (negative : Bool) (cs : List Char) : Option Binary64 :=
  let name := String.ofList (cs.map Char.toLower)
  if name = "inf" ∨ name = "infinity" then some (infinity negative)
  else if name = "nan" then some (nan negative)
  else (Decimal.read? cs).map (Decimal.toBinary64 negative)

/-- The number that a text denotes. The whole text has to be consumed. -/
def read? : List Char → Option Binary64
  | '-' :: cs => readUnsigned true cs
  | '+' :: cs => readUnsigned false cs
  | cs => readUnsigned false cs

end Binary64

end RootCause
