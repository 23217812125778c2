/-!
A position in a YAML text: what is left, and the line and column reached.
-/

namespace RootCause

namespace Yaml

def isBreak (c : Char) : Bool :=
  c == '\n' || c == '\r' || c == '\x85' || c == '\u2028' || c == '\u2029'

def isBlank (c : Char) : Bool := c == ' ' || c == '\t'

/-- The characters that a text may hold. -/
def isPrintable (c : Char) : Bool :=
  let n := c.toNat
  n == 0x9 || n == 0xA || n == 0xD || (0x20 ≤ n && n ≤ 0x7E) || n == 0x85 ||
    (0xA0 ≤ n && n ≤ 0xFFFD) || 0x10000 ≤ n

structure Cursor where
  rest : List Char
  line : Nat
  column : Nat
  index : Nat

namespace Cursor

def ofText (text : List Char) : Cursor := ⟨text, 0, 0, 0⟩

def peek? (c : Cursor) (offset : Nat) : Option Char := c.rest[offset]?

def has (c : Cursor) (offset : Nat) (p : Char → Bool) : Bool := (c.peek? offset).any p

def isAt (c : Cursor) (ch : Char) : Bool := c.has 0 (· == ch)

def atEnd (c : Cursor) : Bool := c.rest.isEmpty

/-- Whether a blank, a line break or the end of the text is at an offset. -/
def endsWord (c : Cursor) (offset : Nat) : Bool :=
  match c.peek? offset with
  | none => true
  | some ch => isBlank ch || isBreak ch

/-- Moves on within the line. -/
def skip (c : Cursor) (n : Nat) : Cursor :=
  { c with rest := c.rest.drop n, column := c.column + n, index := c.index + n }

def skipWhile (c : Cursor) (p : Char → Bool) : Cursor := c.skip (c.rest.takeWhile p).length

def takeWhile (c : Cursor) (p : Char → Bool) : List Char := c.rest.takeWhile p

/-- Moves behind a line break, if there is one, and gives the break as it counts in a
scalar. -/
def readBreak (c : Cursor) : List Char × Cursor :=
  let next (n : Nat) : Cursor :=
    { rest := c.rest.drop n, line := c.line + 1, column := 0, index := c.index + n }
  match c.rest with
  | '\r' :: '\n' :: _ => (['\n'], next 2)
  | ch :: _ =>
    if ch == '\u2028' || ch == '\u2029' then ([ch], next 1)
    else if isBreak ch then (['\n'], next 1)
    else ([], c)
  | [] => ([], c)

def skipBreak (c : Cursor) : Cursor := c.readBreak.2

/-- Whether the line starts with three equal characters that stand alone. -/
def atMarker (c : Cursor) (ch : Char) : Bool :=
  c.column == 0 && c.has 0 (· == ch) && c.has 1 (· == ch) && c.has 2 (· == ch) && c.endsWord 3

def atDocumentMarker (c : Cursor) : Bool := c.atMarker '-' || c.atMarker '.'

end Cursor

end Yaml

end RootCause
