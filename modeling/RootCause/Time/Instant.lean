import RootCause.Time.Reader

/-!
Points in time, kept in universal time and read from texts with an offset.
-/

namespace RootCause

/-- A point in time, by its date-time in universal time. -/
structure Instant where
  utc : DateTime
deriving DecidableEq

namespace DateTime

/-- The same time on the next day, none after the last day. -/
def nextDay? (t : DateTime) : Option DateTime :=
  let fields (year : Int) (month day : Nat) :=
    ofFields? year month day t.hour t.minute t.second t.nanosecond
  if t.day < daysInMonth t.year t.month then fields t.year t.month (t.day + 1)
  else if t.month < 12 then fields t.year (t.month + 1) 1
  else fields (t.year + 1) 1 1

/-- The same time on the day before, none before the first day. -/
def previousDay? (t : DateTime) : Option DateTime :=
  let fields (year : Int) (month day : Nat) :=
    ofFields? year month day t.hour t.minute t.second t.nanosecond
  if 1 < t.day then fields t.year t.month (t.day - 1)
  else if 1 < t.month then fields t.year (t.month - 1) (daysInMonth t.year (t.month - 1))
  else fields (t.year - 1) 12 31

/-- The time some minutes earlier, less than a day; later for a negative count. -/
def minutesEarlier? (t : DateTime) (minutes : Int) : Option DateTime := do
  let total : Int := (t.hour * 60 + t.minute : Nat) - minutes
  let day ← if total < 0 then t.previousDay? else if 1440 ≤ total then t.nextDay? else some t
  let ofDay := (total % 1440).toNat
  ofFields? day.year day.month day.day (ofDay / 60) (ofDay % 60) t.second t.nanosecond

/-- An offset from universal time in minutes: `Z`, or a sign, two digits for hours and two
for minutes, with colons or white space between them. -/
def readOffset (cs : List Char) : Option (Int × List Char) :=
  match cs with
  | [] => none
  | sign :: rest =>
    if sign = 'Z' ∨ sign = 'z' then some (0, rest)
    else if sign = '+' ∨ sign = '-' ∨ sign = '\u2212' then do
      let (hours, _) ← if (rest.takeWhile Char.isDigit).length < 2 then none
        else readDigits 2 rest
      let rest := (rest.drop 2).dropWhile fun c => c == ':' || isBlank c
      let (minutes, _) ← if (rest.takeWhile Char.isDigit).length < 2 then none
        else readDigits 2 rest
      if 59 < minutes ∨ 23 < hours then none
      else
        let offset : Int := (hours * 60 + minutes : Nat)
        some (if sign = '+' then offset else -offset, rest.drop 2)
    else none

/-- An offset, or the name of universal time in any letter case. -/
def readZone (cs : List Char) : Option (Int × List Char) :=
  if String.ofList ((cs.take 3).map Char.toLower) = "utc" then some (0, cs.drop 3)
  else readOffset cs

end DateTime

namespace Instant

open DateTime

/-- Reads a date, one of `T`, `t` and a blank, a time with an optional fraction and an
offset. -/
def ofText? (text : String) : Option Instant := do
  let ((year, month, day), cs) ← readDate true text.toList
  let cs ← match cs with
    | c :: cs => if c = 'T' ∨ c = 't' ∨ c = ' ' then some cs else none
    | [] => none
  let ((hour, minute, second), cs) ← readClock true cs
  let (nanosecond, cs) ← readFraction cs
  let (offset, cs) ← readZone (trimStart cs)
  let localTime ← ofFields? year month day hour minute second nanosecond
  let utc ← localTime.minutesEarlier? offset
  if (trimStart cs).isEmpty then some ⟨utc⟩ else none

/-- The ISO form in universal time. -/
def text (t : Instant) : String := t.utc.iso ++ "Z"

end Instant

end RootCause
