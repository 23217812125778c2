import RootCause.Time.Instant

/-!
Points in time given as seconds since the start of 1970.
-/

namespace RootCause

namespace DateTime

/-- The date some days after the first of March of year zero. Eras of 400 years all have the
same length, and a year that starts in March has its leap day at its end. -/
def dateOfDays (days : Int) : Int × Nat × Nat :=
  let era := days / 146097
  let ofEra := (days % 146097).toNat
  let yearOfEra := (ofEra - ofEra / 1460 + ofEra / 36524 - ofEra / 146096) / 365
  let ofYear := ofEra - (365 * yearOfEra + yearOfEra / 4 - yearOfEra / 100)
  let shifted := (5 * ofYear + 2) / 153
  let day := ofYear - (153 * shifted + 2) / 5 + 1
  let month := if shifted < 10 then shifted + 3 else shifted - 9
  let year := yearOfEra + era * 400
  (if month ≤ 2 then year + 1 else year, month, day)

/-- The days from the first of March of year zero to the start of 1970. -/
def daysBefore1970 : Int := 719468

end DateTime

namespace Instant

/-- The point some seconds and nanoseconds after the start of 1970. -/
def ofUnix? (seconds : Int) (nanosecond : Nat) : Option Instant :=
  let (year, month, day) := DateTime.dateOfDays (seconds / 86400 + DateTime.daysBefore1970)
  let ofDay := (seconds % 86400).toNat
  (DateTime.ofFields? year month day (ofDay / 3600) (ofDay / 60 % 60) (ofDay % 60)
    nanosecond).map fun t => ⟨t⟩

/-- The start of 1970. -/
def epoch : Instant := ⟨⟨1970, 1, 1, 0, 0, 0, 0, by decide, by decide⟩⟩

end Instant

end RootCause
