import RootCause.Json.Printer

/-!
Ids of runs: the time in milliseconds, so that ids sort by time, and random bits behind it.
-/

namespace RootCause

/-- The low `count` hexadecimal digits of a number. -/
def hexDigits : (count : Nat) → Nat → List Char
  | 0, _ => []
  | count + 1, n => hexDigits count (n / 16) ++ [Json.hexChar (n % 16)]

/-- Five groups of digits. The third one starts with the version 7, the fourth one with a
variant. -/
def runIdText (milliseconds random : Nat) : String :=
  let time := hexDigits 12 milliseconds
  let version := '7' :: hexDigits 3 random
  let variant := hexDigits 4 (0x8000 + random / 0x1000 % 0x4000)
  let rest := hexDigits 12 (random / 0x4000000)
  "-".intercalate
    ([time.take 8, time.drop 8, version, variant, rest].map String.ofList)

end RootCause
