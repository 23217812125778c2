import RootCause.Decimal.Basic

/-!
The fewest decimal digits that read back to a binary64 number.
-/

namespace RootCause

namespace Binary64

/-- The least `p` with value below `10 ^ p`, for a finite nonzero number. -/
def decimalPosition (x : Binary64) : Int :=
  let below (p : Int) : Bool :=
    decide (x.scaled * Nat.pow 10 (-p).toNat < unitsPerOne * Nat.pow 10 p.toNat)
  let estimate : Int := ((x.scaled.log2 : Int) - 1074) * 1233 / 4096
  if below estimate then estimate
  else if below (estimate + 1) then estimate + 1
  else estimate + 2

/-- The two neighbours of the value on the grid of `count` digits, the nearer one first and
an even one first at a tie. -/
def gridNeighbours (x : Binary64) (count : Nat) : List Decimal :=
  let exponent := x.decimalPosition - count
  let n := x.scaled * Nat.pow 10 (-exponent).toNat
  let d := unitsPerOne * Nat.pow 10 exponent.toNat
  let low := n / d
  let excess := 2 * (n % d)
  let below : Decimal := ⟨low, exponent⟩
  let above : Decimal := ⟨low + 1, exponent⟩
  if excess < d ∨ excess = d ∧ low % 2 = 0 then [below, above] else [above, below]

/-- The first of the grids of `count`, `count + 1`, ... digits that holds a decimal reading
back to `x`. -/
def shortestFrom (x : Binary64) : Nat → Nat → Decimal
  | 0, count => ⟨0, count⟩
  | limit + 1, count =>
    match (x.gridNeighbours count).find? (fun d => decide (d.toBinary64 x.negative = x)) with
    | some d => d
    | none => shortestFrom x limit (count + 1)

/-- The shortest decimal that reads back to a finite number, without zeros at its end.
Seventeen digits always suffice. -/
def shortest (x : Binary64) : Decimal :=
  if x.isZero then ⟨0, 0⟩ else (shortestFrom x 17 1).dropZeros 2

end Binary64

end RootCause
