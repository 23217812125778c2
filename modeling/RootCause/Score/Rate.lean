import RootCause.Binary64.Rounding

/-!
Rates, changes and shares of counts.
-/

namespace RootCause

/-- The double nearest to a count. -/
def countDouble (n : UInt64) : Binary64 := Binary64.ofNat n.toNat

/-- The quotient of two counts, none by zero. -/
def rate (a b : UInt64) : Option Binary64 :=
  if b = 0 then none else some (countDouble a / countDouble b)

def hundred : Binary64 := Binary64.ofNat 100

/-- The change from baseline to current in percent of the baseline, none from zero. -/
def pctChange (current baseline : Binary64) : Option Binary64 :=
  if baseline.eqv (.zero false) then none
  else some ((current - baseline) / baseline * hundred)

/-- The change between two rates that are there. -/
def rateChange (current baseline : Option Binary64) : Option Binary64 := do
  pctChange (← current) (← baseline)

def countChange (current baseline : UInt64) : Option Binary64 :=
  pctChange (countDouble current) (countDouble baseline)

/-- The part of a total that a count makes up, zero of zero. -/
def share (part total : UInt64) : Binary64 := (rate part total).getD (.zero false)

/-- The value rounded to hundredths, a half away from zero. -/
def round2 (x : Binary64) : Binary64 := (x * hundred).roundAway / hundred

end RootCause
