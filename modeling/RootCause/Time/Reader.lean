import RootCause.Text.Blank
import RootCause.Time.Basic

/-!
Date-times read from text.

A field may have white space before it and fewer digits than its width; only a year with a
sign may be longer than four digits.
-/

namespace RootCause

namespace DateTime

/-- The text behind a character that has to come next. -/
def expect (c : Char) : List Char → Option (List Char)
  | [] => none
  | d :: cs => if c = d then some cs else none

/-- At least one digit and at most `width`, with the text behind them. -/
def readDigits (width : Nat) (cs : List Char) : Option (Nat × List Char) :=
  let digits := (cs.takeWhile Char.isDigit).take width
  if digits.isEmpty then none
  else some (digits.foldl (fun n c => 10 * n + (c.toNat - '0'.toNat)) 0, cs.drop digits.length)

def readField (cs : List Char) : Option (Nat × List Char) := readDigits 2 (trimStart cs)

def readYear (cs : List Char) : Option (Int × List Char) :=
  match trimStart cs with
  | '-' :: cs => (readDigits cs.length cs).map fun (n, rest) => (-(n : Int), rest)
  | '+' :: cs => (readDigits cs.length cs).map fun (n, rest) => ((n : Int), rest)
  | cs => (readDigits 4 cs).map fun (n, rest) => ((n : Int), rest)

/-- The fraction behind a point, cut to nine digits; zero when there is no point. -/
def readFraction : List Char → Option (Nat × List Char)
  | '.' :: cs =>
    match readDigits 9 cs with
    | none => none
    | some (n, rest) =>
      some (n * Nat.pow 10 (9 - (cs.length - rest.length)), rest.dropWhile Char.isDigit)
  | cs => some (0, cs)

/-- Year, month and day. White space may stand before a dash where `loose` holds. -/
def readDate (loose : Bool) (cs : List Char) : Option ((Int × Nat × Nat) × List Char) := do
  let gap (cs : List Char) := if loose then trimStart cs else cs
  let (year, cs) ← readYear cs
  let cs ← expect '-' (gap cs)
  let (month, cs) ← readField cs
  let cs ← expect '-' (gap cs)
  let (day, cs) ← readField cs
  return ((year, month, day), cs)

/-- Hour, minute and second. White space may stand before a colon where `loose` holds. -/
def readClock (loose : Bool) (cs : List Char) : Option ((Nat × Nat × Nat) × List Char) := do
  let gap (cs : List Char) := if loose then trimStart cs else cs
  let (hour, cs) ← readField cs
  let cs ← expect ':' (gap cs)
  let (minute, cs) ← readField cs
  let cs ← expect ':' (gap cs)
  let (second, cs) ← readField cs
  return ((hour, minute, second), cs)

/-- Replaces the first `T` by a blank. -/
def blankForT : List Char → List Char
  | [] => []
  | c :: cs => if c = 'T' then ' ' :: cs else c :: blankForT cs

/-- Reads a date, white space or none, a time and an optional fraction. Around it white space
and at its end letters `Z` do not count, and the first `T` counts as a blank. -/
def read? (raw : List Char) : Option DateTime := do
  let cs := blankForT (dropEndWhile (· == 'Z') (trim raw))
  let ((year, month, day), cs) ← readDate false cs
  let ((hour, minute, second), cs) ← readClock false cs
  let (nanosecond, cs) ← readFraction cs
  if cs.isEmpty then ofFields? year month day hour minute second nanosecond else none

def ofText? (text : String) : Option DateTime := read? text.toList

end DateTime

end RootCause
