import RootCause.Decimal.Reader
import RootCause.Source.Basic
import RootCause.Workflow.Basic

/-!
Three tables: sessions by hour, sessions by day and segment, and orders.

Times are kept as texts and compared as texts, so a time counts as late as its text sorts.
Days are compared by their dates, hours and orders by date and time.
-/

namespace RootCause

/-- What a count column holds: an integer of 64 bits, or a text that is none. -/
inductive Amount where
  | integer (n : Int)
  | text (s : String)
deriving DecidableEq

/-- Sessions of a tenant in one hour of a day. -/
structure HourlyRow where
  tenantId : String
  date : String
  hour : Amount
  sessions : Amount
  atcSessions : Amount
deriving DecidableEq

/-- Sessions of a tenant on one day in one segment. A dimension without an entry is
unknown. -/
structure SegmentRow where
  tenantId : String
  date : String
  productTitle : Option String
  dimensions : Dict String
  sessions : Amount
  atcSessions : Amount
deriving DecidableEq

/-- One line of an order. An order of several lines has one name. -/
structure OrderRow where
  tenantId : String
  orderName : String
  createdAt : String
  dimensions : Dict String
deriving DecidableEq

structure Tables where
  hourly : List HourlyRow
  segments : List SegmentRow
  orders : List OrderRow
deriving DecidableEq

namespace Amount

def minInteger : Int := -0x8000000000000000

def maxInteger : Int := 0x7FFFFFFFFFFFFFFF

/-- The integer that a text starts with, zero for none. -/
def leadingInteger (s : String) : Int :=
  let digits (cs : List Char) : Int := digitsValue (cs.takeWhile Char.isDigit)
  match s.toList.dropWhile Char.isWhitespace with
  | '-' :: cs => -digits cs
  | '+' :: cs => digits cs
  | cs => digits cs

/-- The integer that an amount counts as where one is needed. -/
def whole : Amount → Int
  | .integer n => n
  | .text s => leadingInteger s

/-- Adds an amount; none for a text and for a sum of more than 64 bits. -/
def addTo (sum : Int) : Amount → Option Int
  | .integer n =>
    if minInteger ≤ sum + n ∧ sum + n ≤ maxInteger then some (sum + n) else none
  | .text _ => none

/-- The sum from left to right. No partial sum may leave 64 bits. -/
def sum (amounts : List Amount) : Option Int := amounts.foldlM addTo 0

end Amount

/-- A sum as a count; a negative one counts as zero. -/
def countOfSum (n : Int) : UInt64 := UInt64.ofNat n.toNat

/-- At least two places, zeros in front, the sign within the places. -/
def hourText (n : Int) : String :=
  if n < 0 then toString n else String.ofList (padded 2 n.toNat)

/-- The text of the start of an hour. -/
def HourlyRow.startText (r : HourlyRow) : String :=
  r.date ++ " " ++ hourText r.hour.whole ++ ":00:00"

/-- The date of a bound as days are compared with it. There is none for a leap second, for
years beyond 9999 and before the noon of 24 November of the year -4713. -/
def DateTime.dayText? (t : DateTime) : Option String :=
  let tooEarly : Prop :=
    t.year < -4713 ∨ t.year = -4713 ∧ [t.month, t.day, t.hour] < [11, 24, 12]
  if t.second = 60 ∨ 9999 < t.year ∨ tooEarly then none
  else some (String.ofList t.dateText)

namespace WindowRange

/-- Whether a text of a time lies in the range of the texts of the bounds. -/
def containsText (w : WindowRange) (time : String) : Bool :=
  decide (w.start.text ≤ time) && decide (time < w.stop.text)

/-- Whether a day lies from the day of one bound up to, and without, that of the other. A
bound without a day has no days on its side. -/
def daysContain (start stop : DateTime) (date : String) : Bool :=
  match start.dayText?, stop.dayText? with
  | some a, some b => decide (a ≤ date) && decide (date < b)
  | _, _ => false

end WindowRange

end RootCause
