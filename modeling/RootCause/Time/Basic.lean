/-!
Civil date-times to the nanosecond, with their order and their two written forms.

A leap second is the second 60 of its minute, so the lexicographic order of the fields is
the chronological one.
-/

namespace RootCause

def isLeapYear (year : Int) : Bool := year % 4 == 0 && (year % 100 != 0 || year % 400 == 0)

/-- The length of a month of the proleptic Gregorian calendar; months count from one. -/
def daysInMonth (year : Int) : Nat → Nat
  | 2 => if isLeapYear year then 29 else 28
  | 4 | 6 | 9 | 11 => 30
  | _ => 31

/-- The days of the years that can be represented. -/
def ValidDate (year : Int) (month day : Nat) : Prop :=
  -262143 ≤ year ∧ year ≤ 262142 ∧ 1 ≤ month ∧ month ≤ 12 ∧
    1 ≤ day ∧ day ≤ daysInMonth year month

/-- The times of a day. Every minute may have a second 60. -/
def ValidTime (hour minute second nanosecond : Nat) : Prop :=
  hour ≤ 23 ∧ minute ≤ 59 ∧ second ≤ 60 ∧ nanosecond < 1000000000

instance (year : Int) (month day : Nat) : Decidable (ValidDate year month day) :=
  inferInstanceAs (Decidable (_ ∧ _ ∧ _ ∧ _ ∧ _ ∧ _))

instance (hour minute second nanosecond : Nat) :
    Decidable (ValidTime hour minute second nanosecond) :=
  inferInstanceAs (Decidable (_ ∧ _ ∧ _ ∧ _))

structure DateTime where
  year : Int
  month : Nat
  day : Nat
  hour : Nat
  minute : Nat
  second : Nat
  nanosecond : Nat
  date_valid : ValidDate year month day
  time_valid : ValidTime hour minute second nanosecond
deriving DecidableEq

namespace DateTime

def ofFields? (year : Int) (month day hour minute second nanosecond : Nat) : Option DateTime :=
  if h : ValidDate year month day ∧ ValidTime hour minute second nanosecond then
    some ⟨year, month, day, hour, minute, second, nanosecond, h.1, h.2⟩
  else none

/-- The fields below the year, from the month to the nanosecond. -/
def lowerFields (t : DateTime) : List Nat :=
  [t.month, t.day, t.hour, t.minute, t.second, t.nanosecond]

/-- Chronological order. -/
def before (s t : DateTime) : Bool :=
  decide (s.year < t.year ∨ s.year = t.year ∧ s.lowerFields < t.lowerFields)

/-- The same time without its fraction of a second. -/
def wholeSecond (t : DateTime) : DateTime :=
  { t with
    nanosecond := 0
    time_valid := ⟨t.time_valid.1, t.time_valid.2.1, t.time_valid.2.2.1, by decide⟩ }

end DateTime

/-- At least `width` decimal digits. -/
def padded (width n : Nat) : List Char :=
  let digits := Nat.toDigits 10 n
  List.replicate (width - digits.length) '0' ++ digits

/-- Four digits from year 0 to 9999, a sign and at least four digits outside. -/
def yearText (year : Int) : List Char :=
  if year < 0 then '-' :: padded 4 year.natAbs
  else if 9999 < year then '+' :: padded 4 year.natAbs
  else padded 4 year.natAbs

namespace DateTime

def dateText (t : DateTime) : List Char :=
  yearText t.year ++ '-' :: padded 2 t.month ++ '-' :: padded 2 t.day

/-- The time of day to the whole second. -/
def clockText (t : DateTime) : List Char :=
  padded 2 t.hour ++ ':' :: padded 2 t.minute ++ ':' :: padded 2 t.second

/-- Nothing for a whole second, else a point and three, six or nine digits, the fewest that
hold the fraction. -/
def fractionText (t : DateTime) : List Char :=
  let n := t.nanosecond
  if n = 0 then []
  else if n % 1000000 = 0 then '.' :: padded 3 (n / 1000000)
  else if n % 1000 = 0 then '.' :: padded 6 (n / 1000)
  else '.' :: padded 9 n

/-- The form with a blank between date and time. The fraction is not written. -/
def toChars (t : DateTime) : List Char := t.dateText ++ ' ' :: t.clockText

def text (t : DateTime) : String := String.ofList t.toChars

/-- The ISO form, with the fraction. -/
def iso (t : DateTime) : String :=
  String.ofList (t.dateText ++ 'T' :: t.clockText ++ t.fractionText)

end DateTime

end RootCause
