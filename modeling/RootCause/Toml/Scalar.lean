import RootCause.Decimal.Reader
import RootCause.Json.Parser
import RootCause.Toml.Value

/-!
The scalars of TOML texts: strings, numbers, dates and times.

Each reader gives its result and the text behind it, none on an error of form.
-/

namespace RootCause

namespace Toml

def isBlank (c : Char) : Bool := c == ' ' || c == '\t'

def skipBlanks (cs : List Char) : List Char := cs.dropWhile isBlank

/-- The characters of comments and of strings on one line. -/
def isTextChar (c : Char) : Bool :=
  c == '\t' || (' ' ≤ c && c ≤ '~') || 0x80 ≤ c.toNat

/-- The text behind a line break. -/
def lineBreak? : List Char → Option (List Char)
  | '\n' :: rest => some rest
  | '\r' :: '\n' :: rest => some rest
  | _ => none

def skipComment : List Char → List Char
  | '#' :: rest => rest.dropWhile isTextChar
  | rest => rest

/-! Strings -/

def escape? : Char → Option Char
  | 'b' => some '\x08'
  | 't' => some '\t'
  | 'n' => some '\n'
  | 'f' => some '\x0c'
  | 'r' => some '\r'
  | '"' => some '"'
  | '\\' => some '\\'
  | _ => none

/-- The character with a code written in hexadecimal digits. -/
def charOfDigits? (digits : List Char) : Option Char := do
  let values ← digits.mapM Json.hexDigit?
  let code := values.foldl (fun n d => 16 * n + d) 0
  if code.isValidChar then some (Char.ofNat code) else none

def prepend (c : Char) : List Char × List Char → List Char × List Char
  | (cs, rest) => (c :: cs, rest)

/-- A string with escapes up to its closing quote, or to three of them if it may go over many
lines. A backslash at the end of a line skips the white space behind it (`skipping`). -/
def basicBody (multiline : Bool) : (skipping : Bool) → List Char →
    Option (List Char × List Char)
  | _, [] => none
  | _, '"' :: rest =>
    if multiline then
      match rest with
      | '"' :: '"' :: '"' :: '"' :: rest => some (['"', '"'], rest)
      | '"' :: '"' :: '"' :: rest => some (['"'], rest)
      | '"' :: '"' :: rest => some ([], rest)
      | rest => (basicBody multiline false rest).map (prepend '"')
    else some ([], rest)
  | _, '\\' :: 'u' :: a :: b :: c :: d :: rest =>
    match charOfDigits? [a, b, c, d] with
    | none => none
    | some x => (basicBody multiline false rest).map (prepend x)
  | _, '\\' :: 'U' :: a :: b :: c :: d :: e :: f :: g :: h :: rest =>
    match charOfDigits? [a, b, c, d, e, f, g, h] with
    | none => none
    | some x => (basicBody multiline false rest).map (prepend x)
  | _, '\\' :: e :: rest =>
    match escape? e with
    | some x => (basicBody multiline false rest).map (prepend x)
    | none =>
      if multiline && (lineBreak? (skipBlanks (e :: rest))).isSome then
        basicBody multiline true (e :: rest)
      else none
  | skipping, '\r' :: '\n' :: rest =>
    if !multiline then none
    else if skipping then basicBody multiline true rest
    else (basicBody multiline false rest).map (prepend '\n')
  | skipping, c :: rest =>
    if multiline && skipping && (isBlank c || c == '\n') then basicBody multiline true rest
    else if (c != '\\' && isTextChar c) || (multiline && c == '\n') then
      (basicBody multiline false rest).map (prepend c)
    else none

/-- A string without escapes up to its closing quote, or to three of them. -/
def literalBody (multiline : Bool) : List Char → Option (List Char × List Char)
  | [] => none
  | '\'' :: rest =>
    if multiline then
      match rest with
      | '\'' :: '\'' :: '\'' :: '\'' :: rest => some (['\'', '\''], rest)
      | '\'' :: '\'' :: '\'' :: rest => some (['\''], rest)
      | '\'' :: '\'' :: rest => some ([], rest)
      | rest => (literalBody multiline rest).map (prepend '\'')
    else some ([], rest)
  | '\r' :: '\n' :: rest =>
    if multiline then (literalBody multiline rest).map (prepend '\n') else none
  | c :: rest =>
    if isTextChar c || (multiline && c == '\n') then
      (literalBody multiline rest).map (prepend c)
    else none

/-- A string over many lines starts behind a first line break. -/
def skipFirstBreak (cs : List Char) : List Char := (lineBreak? cs).getD cs

/-- A string of any kind. -/
def string? : List Char → Option (List Char × List Char)
  | '"' :: '"' :: '"' :: rest => basicBody true false (skipFirstBreak rest)
  | '"' :: rest => basicBody false false rest
  | '\'' :: '\'' :: '\'' :: rest => literalBody true (skipFirstBreak rest)
  | '\'' :: rest => literalBody false rest
  | _ => none

/-! Numbers -/

/-- Digits, with single underscores between them. The underscores are left out. -/
def digits? (isDigit : Char → Bool) : List Char → Option (List Char × List Char)
  | [] => none
  | c :: '_' :: rest =>
    if isDigit c then (digits? isDigit rest).map (prepend c) else none
  | c :: rest =>
    if !isDigit c then none
    else
      match rest with
      | d :: _ => if isDigit d then (digits? isDigit rest).map (prepend c) else some ([c], rest)
      | [] => some ([c], rest)

/-- Digits without leading zeros. -/
def decimalDigits? : List Char → Option (List Char × List Char)
  | '0' :: rest => some (['0'], rest)
  | cs => digits? Char.isDigit cs

def isInteger64 (n : Int) : Bool := decide (-0x8000000000000000 ≤ n) && decide (n < 0x8000000000000000)

/-- An integer in a base other than ten. -/
def basedInteger? (base : Nat) (cs : List Char) : Option (Value × List Char) := do
  let isDigit (c : Char) : Bool := (Json.hexDigit? c).any (· < base)
  let (digits, rest) ← digits? isDigit cs
  let n : Nat := digits.foldl (fun n c => base * n + (Json.hexDigit? c).getD 0) 0
  if isInteger64 n then some (.integer n, rest) else none

/-- The fraction of a number, with its point. -/
def fraction? : List Char → Option (List Char × List Char)
  | '.' :: rest => (digits? Char.isDigit rest).map (prepend '.')
  | rest => some ([], rest)

/-- The exponent of a number, with its mark and sign. -/
def exponent? : List Char → Option (List Char × List Char)
  | mark :: rest =>
    if mark = 'e' ∨ mark = 'E' then
      match rest with
      | '-' :: rest => (digits? Char.isDigit rest).map fun r => prepend 'e' (prepend '-' r)
      | '+' :: rest => (digits? Char.isDigit rest).map (prepend 'e')
      | rest => (digits? Char.isDigit rest).map (prepend 'e')
    else some ([], mark :: rest)
  | [] => some ([], [])

/-- A decimal number behind its sign: a float with a fraction or an exponent, else an integer
of 64 bits. A float that is too large for a double is refused, unless it is negative. -/
def decimal? (negative : Bool) (cs : List Char) : Option (Value × List Char) := do
  let (whole, cs) ← decimalDigits? cs
  let (fraction, cs) ← fraction? cs
  let (exponent, cs) ← exponent? cs
  if fraction.isEmpty && exponent.isEmpty then
    let n : Int := digitsValue whole
    let n := if negative then -n else n
    if isInteger64 n then some (.integer n, cs) else none
  else
    let x ← Binary64.readUnsigned negative (whole ++ fraction ++ exponent)
    if x.isInfinite && !negative then none else some (.float x, cs)

def signed? (negative : Bool) : List Char → Option (Value × List Char)
  | 'i' :: 'n' :: 'f' :: rest => some (.float (.infinity negative), rest)
  | 'n' :: 'a' :: 'n' :: rest => some (.float (.nan negative), rest)
  | rest => decimal? negative rest

def number? : List Char → Option (Value × List Char)
  | '0' :: 'x' :: rest => basedInteger? 16 rest
  | '0' :: 'o' :: rest => basedInteger? 8 rest
  | '0' :: 'b' :: rest => basedInteger? 2 rest
  | '-' :: rest => signed? true rest
  | '+' :: rest => signed? false rest
  | rest => signed? false rest

/-! Dates and times -/

/-- A number of exactly `width` digits, from `low` to `high`. -/
def field? (width low high : Nat) (cs : List Char) : Option (Nat × List Char) :=
  let digits := cs.take width
  let n := digitsValue digits
  if digits.length = width && digits.all Char.isDigit && low ≤ n && n ≤ high then
    some (n, cs.drop width)
  else none

def expect? (c : Char) : List Char → Option (List Char)
  | d :: rest => if c = d then some rest else none
  | [] => none

def lastDay (year month : Nat) : Nat :=
  if month = 2 then
    if year % 4 = 0 && (year % 100 != 0 || year % 400 = 0) then 29 else 28
  else if month = 4 || month = 6 || month = 9 || month = 11 then 30
  else 31

/-- The text behind a date. -/
def date? (cs : List Char) : Option (List Char) := do
  let (year, cs) ← field? 4 0 9999 cs
  let cs ← expect? '-' cs
  let (month, cs) ← field? 2 1 12 cs
  let cs ← expect? '-' cs
  let (_, cs) ← field? 2 1 (lastDay year month) cs
  return cs

/-- The text behind a time. -/
def time? (cs : List Char) : Option (List Char) := do
  let (_, cs) ← field? 2 0 23 cs
  let cs ← expect? ':' cs
  let (_, cs) ← field? 2 0 59 cs
  let cs ← expect? ':' cs
  let (_, cs) ← field? 2 0 60 cs
  match cs with
  | '.' :: rest =>
    if rest.head?.any Char.isDigit then some (rest.dropWhile Char.isDigit) else none
  | cs => some cs

/-- The text behind an offset from universal time, when there is one. -/
def offset? : List Char → Option (List Char)
  | 'Z' :: rest | 'z' :: rest => some rest
  | '+' :: rest | '-' :: rest => do
    let (_, rest) ← field? 2 0 23 rest
    let rest ← expect? ':' rest
    let (_, rest) ← field? 2 0 59 rest
    return rest
  | rest => some rest

/-- Whether a text starts with digits and then a mark. -/
def startsField (width : Nat) (mark : Char) (cs : List Char) : Bool :=
  match field? width 0 (Nat.pow 10 width) cs with
  | some (_, c :: _) => c == mark
  | _ => false

/-- The text behind a date, a time, or both with an optional offset. -/
def momentEnd? (cs : List Char) : Option (List Char) := do
  if startsField 4 '-' cs then
    let cs ← date? cs
    match cs with
    | mark :: rest =>
      if (mark == 'T' || mark == 't' || mark == ' ') && startsField 2 ':' rest then
        offset? (← time? rest)
      else return cs
    | [] => return []
  else time? cs

/-- A number, or a date or time. -/
def numeric? (cs : List Char) : Option (Value × List Char) :=
  if startsField 4 '-' cs || startsField 2 ':' cs then
    (momentEnd? cs).map fun rest =>
      (.moment (String.ofList (cs.take (cs.length - rest.length))), rest)
  else number? cs

end Toml

end RootCause
