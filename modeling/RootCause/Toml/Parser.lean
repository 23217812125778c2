import RootCause.Toml.Scalar

/-!
TOML texts read into the table they describe.
-/

namespace RootCause

namespace Toml

/-- What reading a part gives: its value and the text behind it. -/
abbrev Reader (α : Type) := List Char → Option (α × List Char)

def isKeyChar (c : Char) : Bool := c.isAlphanum || c == '_' || c == '-'

def simpleKey? : Reader String
  | '"' :: rest => (basicBody false false rest).map fun (cs, rest) => (String.ofList cs, rest)
  | '\'' :: rest => (literalBody false rest).map fun (cs, rest) => (String.ofList cs, rest)
  | cs =>
    let name := cs.takeWhile isKeyChar
    if name.isEmpty then none else some (String.ofList name, cs.dropWhile isKeyChar)

/-- Names with points between them, the last one apart. `clock` is no shorter than the
text. -/
def dottedKey? : (clock : List Char) → Reader (List String × String)
  | [], _ => none
  | _ :: clock, cs => do
    let (name, cs) ← simpleKey? (skipBlanks cs)
    match skipBlanks cs with
    | '.' :: cs => do
      let ((path, key), cs) ← dottedKey? clock cs
      return ((name :: path, key), cs)
    | cs => return (([], name), cs)

/-- The deepest nesting of arrays and inline tables, and the longest path of a dotted key. -/
def maxDepth : Nat := 79

def key? (cs : List Char) : Option ((List String × String) × List Char) := do
  let ((path, key), cs) ← dottedKey? (' ' :: cs) cs
  if path.length < maxDepth then some ((path, key), cs) else none

/-- White space, comments and line breaks between the items of an array. -/
def skipLines : (clock : List Char) → List Char → Option (List Char)
  | [], cs => some cs
  | _ :: clock, cs =>
    match skipBlanks cs with
    | '#' :: rest => do
      let rest ← lineBreak? (skipComment ('#' :: rest))
      skipLines clock rest
    | '\n' :: rest => skipLines clock rest
    | '\r' :: rest => do
      let rest ← lineBreak? ('\r' :: rest)
      skipLines clock rest
    | cs => some cs

def skipLines? (cs : List Char) : Option (List Char) := skipLines (' ' :: cs) cs

/-- The items of an array up to its closing bracket. A comma may stand behind the last
one. -/
def items? (element : Reader Value) : (clock : List Char) → Reader (List Value)
  | [], _ => none
  | _ :: clock, cs => do
    match ← skipLines? cs with
    | ']' :: cs => return ([], cs)
    | cs =>
      let (item, cs) ← element cs
      match ← skipLines? cs with
      | ']' :: cs => return ([item], cs)
      | ',' :: cs =>
        let (items, cs) ← items? element clock cs
        return (item :: items, cs)
      | _ => none

/-- A key and its value. -/
def assignment? (element : Reader Value) : Reader Assignment := fun cs => do
  let ((path, key), cs) ← key? cs
  let cs ← expect? '=' cs
  let (value, cs) ← element (skipBlanks cs)
  return (⟨path, key, value⟩, cs)

/-- The assignments of an inline table up to its closing brace, at least one. -/
def inlineAssignments? (element : Reader Value) : (clock : List Char) → Reader (List Assignment)
  | [], _ => none
  | _ :: clock, cs => do
    let (a, cs) ← assignment? element cs
    match skipBlanks cs with
    | '}' :: cs => return ([a], cs)
    | ',' :: cs =>
      let (rest, cs) ← inlineAssignments? element clock cs
      return (a :: rest, cs)
    | _ => none

/-- A value in which arrays and inline tables nest at most `depth` deep. -/
def value? : (depth : Nat) → Reader Value
  | depth, cs =>
    match cs with
    | '"' :: _ | '\'' :: _ => (string? cs).map fun (s, cs) => (.text (String.ofList s), cs)
    | '[' :: cs =>
      match depth with
      | 0 => none
      | depth + 1 => (items? (value? depth) (' ' :: cs) cs).map fun (items, cs) => (.array items, cs)
    | '{' :: cs =>
      match depth with
      | 0 => none
      | depth + 1 =>
        match skipBlanks cs with
        | '}' :: cs => some (.table [], cs)
        | _ => do
          let (assignments, cs) ← inlineAssignments? (value? depth) (' ' :: cs) cs
          return (← inlineTable? assignments, cs)
    | 't' :: 'r' :: 'u' :: 'e' :: cs => some (.bool true, cs)
    | 'f' :: 'a' :: 'l' :: 's' :: 'e' :: cs => some (.bool false, cs)
    | cs => numeric? cs

/-- The text behind the end of a line with nothing but blanks and a comment on it. -/
def lineEnd? (cs : List Char) : Option (List Char) :=
  match skipComment (skipBlanks cs) with
  | [] => some []
  | cs => lineBreak? cs

/-- One statement with its line. -/
def statement? : Reader Statement
  | '[' :: '[' :: cs => do
    let ((path, key), cs) ← key? cs
    let cs ← expect? ']' cs
    let cs ← expect? ']' cs
    return (.arrayTable path key, ← lineEnd? cs)
  | '[' :: cs => do
    let ((path, key), cs) ← key? cs
    let cs ← expect? ']' cs
    return (.table path key, ← lineEnd? cs)
  | cs => do
    let (a, cs) ← assignment? (value? maxDepth) cs
    return (.assignment a, ← lineEnd? cs)

def statements? : (clock : List Char) → List Char → Option (List Statement)
  | [], _ => none
  | _ :: clock, cs =>
    match skipBlanks cs with
    | [] => some []
    | '#' :: cs => do statements? clock (← lineEnd? ('#' :: cs))
    | '\n' :: cs => statements? clock cs
    | '\r' :: '\n' :: cs => statements? clock cs
    | cs => do
      let (s, cs) ← statement? cs
      return s :: (← statements? clock cs)

/-- The table that a text describes. A byte order mark may stand before it. -/
def ofText? (text : String) : Option (List (String × Value)) := do
  let cs := match text.toList with
    | '\ufeff' :: cs => cs
    | cs => cs
  document? (← statements? (' ' :: cs) cs)

end Toml

end RootCause
