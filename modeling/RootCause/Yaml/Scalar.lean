import RootCause.Json.Parser
import RootCause.Yaml.Cursor

/-!
The texts of scalars: plain, quoted and in blocks.

Reading gives none on an error of the form. Loops are counted by the length of the text that
is left, which every round shortens.
-/

namespace RootCause

namespace Yaml

/-- Blanks and line breaks between two words of a scalar. -/
structure Gap where
  spaces : List Char := []
  broken : Bool := false
  firstBreak : List Char := []
  breaks : List Char := []

namespace Gap

/-- One break becomes a blank, more breaks lose the first one. A first break that was
escaped, or is no plain line break, stays. -/
def folded (g : Gap) : List Char :=
  if g.broken then
    if g.firstBreak = ['\n'] then (if g.breaks.isEmpty then [' '] else g.breaks)
    else g.firstBreak ++ g.breaks
  else g.spaces

/-- Reads a gap. In a plain scalar a tab may not stand where indentation is expected. -/
def read (indent : Option Nat) : Nat → Gap → Cursor → Option (Gap × Cursor)
  | 0, g, c => some (g, c)
  | fuel + 1, g, c =>
    match c.peek? 0 with
    | none => some (g, c)
    | some ch =>
      if isBlank ch then
        if g.broken then
          if ch == '\t' && indent.any (c.column < ·) then none
          else read indent fuel g (c.skip 1)
        else read indent fuel { g with spaces := g.spaces ++ [ch] } (c.skip 1)
      else if isBreak ch then
        let (text, c) := c.readBreak
        if g.broken then read indent fuel { g with breaks := g.breaks ++ text } c
        else read indent fuel { g with spaces := [], broken := true, firstBreak := text } c
      else some (g, c)

end Gap

/-- The word of a plain scalar at the start of a text; none for a colon that may not stand
in a flow collection. -/
def plainWord (flow : Bool) : List Char → Option (List Char)
  | [] => some []
  | ch :: rest =>
    let next := rest.head?
    if isBlank ch || isBreak ch then some []
    else if flow && ch == ':' && next.any (fun c => ",?[]\x7b\x7d".toList.contains c) then none
    else if ch == ':' && next.all (fun c => isBlank c || isBreak c) then some []
    else if flow && ",[]\x7b\x7d".toList.contains ch then some []
    else (plainWord flow rest).map (ch :: ·)

/-- The words of a plain scalar from a position on, joined to those before; also whether a
line break follows the last one. -/
def plainScalar (flow : Bool) (indent : Nat) :
    Nat → List Char → Gap → Cursor → Option (List Char × Bool × Cursor)
  | 0, text, gap, c => some (text, gap.broken, c)
  | fuel + 1, text, gap, c =>
    if c.atDocumentMarker || c.isAt '#' then some (text, gap.broken, c)
    else
      match plainWord flow c.rest with
      | none => none
      | some [] => some (text, gap.broken, c)
      | some word =>
        let text := text ++ gap.folded ++ word
        let c := c.skip word.length
        if c.has 0 (fun ch => isBlank ch || isBreak ch) then
          match Gap.read (some indent) (c.rest.length + 1) {} c with
          | none => none
          | some (gap, c) =>
            if !flow && c.column < indent then some (text, gap.broken, c)
            else plainScalar flow indent fuel text gap c
        else some (text, false, c)

/-- The character of an escape without digits. -/
def escape? : Char → Option Char
  | '0' => some '\x00'
  | 'a' => some '\x07'
  | 'b' => some '\x08'
  | 't' | '\t' => some '\t'
  | 'n' => some '\n'
  | 'v' => some '\x0b'
  | 'f' => some '\x0c'
  | 'r' => some '\r'
  | 'e' => some '\x1b'
  | ' ' => some ' '
  | '"' => some '"'
  | '/' => some '/'
  | '\\' => some '\\'
  | 'N' => some '\x85'
  | '_' => some '\xa0'
  | 'L' => some '\u2028'
  | 'P' => some '\u2029'
  | _ => none

/-- The count of hexadecimal digits behind an escape letter. -/
def escapeDigits? : Char → Option Nat
  | 'x' => some 2
  | 'u' => some 4
  | 'U' => some 8
  | _ => none

/-- The character with a code written in hexadecimal digits; none for a surrogate and beyond
the last character. -/
def hexChar? (digits : List Char) (count : Nat) : Option Char := do
  let values ← digits.mapM Json.hexDigit?
  let code := values.foldl (fun n d => 16 * n + d) 0
  if values.length = count ∧ code.isValidChar then some (Char.ofNat code) else none

/-- The word of a quoted scalar at a position: its text, whether an escaped line break ends
it, and the position behind. -/
def quotedWord (single : Bool) : Nat → List Char → Cursor → Option (List Char × Bool × Cursor)
  | 0, text, c => some (text, false, c)
  | fuel + 1, text, c =>
    match c.peek? 0 with
    | none => some (text, false, c)
    | some ch =>
      if isBlank ch || isBreak ch then some (text, false, c)
      else if single then
        if ch == '\'' then
          if c.has 1 (· == '\'') then quotedWord single fuel (text ++ ['\'']) (c.skip 2)
          else some (text, false, c)
        else quotedWord single fuel (text ++ [ch]) (c.skip 1)
      else if ch == '"' then some (text, false, c)
      else if ch == '\\' then
        match c.peek? 1 with
        | none => none
        | some e =>
          if isBreak e then some (text, true, (c.skip 1).skipBreak)
          else
            match escape? e, escapeDigits? e with
            | some x, _ => quotedWord single fuel (text ++ [x]) (c.skip 2)
            | none, some count =>
              let c := c.skip 2
              match hexChar? (c.rest.take count) count with
              | none => none
              | some x => quotedWord single fuel (text ++ [x]) (c.skip count)
            | none, none => none
      else quotedWord single fuel (text ++ [ch]) (c.skip 1)

/-- The rest of a quoted scalar up to and with its closing quote. -/
def quotedScalar (single : Bool) : Nat → List Char → Cursor → Option (List Char × Cursor)
  | 0, _, _ => none
  | fuel + 1, text, c =>
    if c.atDocumentMarker || c.atEnd then none
    else
      match quotedWord single (c.rest.length + 1) [] c with
      | none => none
      | some (word, escaped, c) =>
        let text := text ++ word
        if !escaped && c.isAt (if single then '\'' else '"') then some (text, c.skip 1)
        else
          match Gap.read none (c.rest.length + 1) { broken := escaped } c with
          | none => none
          | some (gap, c) => quotedScalar single fuel (text ++ gap.folded) c

/-- What a block scalar does with the line breaks at its end. -/
inductive Chomping where
  | strip
  | clip
  | keep
deriving DecidableEq

def chompingOf? : Option Char → Option Chomping
  | some '+' => some .keep
  | some '-' => some .strip
  | _ => none

/-- The indicators of a block scalar: chomping and an indentation from one to nine, in either
order. -/
def blockHeader (c : Cursor) : Option (Chomping × Option Nat × Cursor) :=
  let digit? (c : Cursor) : Option (Option Nat × Cursor) :=
    if c.isAt '0' then none
    else if c.has 0 Char.isDigit then
      some ((c.peek? 0).map (fun d => d.toNat - '0'.toNat), c.skip 1)
    else some (none, c)
  match chompingOf? (c.peek? 0) with
  | some chomping => (digit? (c.skip 1)).map fun (increment, c) => (chomping, increment, c)
  | none =>
    match digit? c with
    | none => none
    | some (none, c) => some (.clip, none, c)
    | some (some increment, c) =>
      match chompingOf? (c.peek? 0) with
      | some chomping => some (chomping, some increment, c.skip 1)
      | none => some (.clip, some increment, c)

/-- Indentation and empty lines before the next line of a block: the breaks, the widest
indentation seen and the position. None for a tab in place of indentation. -/
def blockBreaks (indent : Option Nat) :
    Nat → List Char → Nat → Cursor → Option (List Char × Nat × Cursor)
  | 0, breaks, widest, c => some (breaks, widest, c)
  | fuel + 1, breaks, widest, c =>
    let spaces := (c.takeWhile (· == ' ')).length
    let c := c.skip (match indent with
      | none => spaces
      | some n => min spaces (n - c.column))
    let widest := max widest c.column
    let inIndent := match indent with
      | none => true
      | some n => c.column < n
    if inIndent && c.isAt '\t' then none
    else if c.has 0 isBreak then
      let (text, c) := c.readBreak
      blockBreaks indent fuel (breaks ++ text) widest c
    else some (breaks, widest, c)

/-- A block scalar under construction. -/
structure Block where
  text : List Char := []
  firstBreak : List Char := []
  breaks : List Char := []
  afterBlank : Bool := false

/-- The lines of a block scalar at its indentation. -/
def blockLines (literal : Bool) (indent : Nat) : Nat → Block → Cursor → Option (Block × Cursor)
  | 0, b, c => some (b, c)
  | fuel + 1, b, c =>
    if c.column != indent || c.atEnd then some (b, c)
    else
      let blankStart := c.has 0 isBlank
      let joint :=
        if !literal && b.firstBreak = ['\n'] && !b.afterBlank && !blankStart then
          if b.breaks.isEmpty then [' '] else []
        else b.firstBreak
      let line := c.takeWhile fun ch => !isBreak ch
      let (firstBreak, c) := (c.skip line.length).readBreak
      match blockBreaks (some indent) (c.rest.length + 1) [] 0 c with
      | none => none
      | some (breaks, _, c) =>
        blockLines literal indent fuel
          { text := b.text ++ joint ++ b.breaks ++ line
            firstBreak, breaks, afterBlank := blankStart } c

/-- A block scalar behind its indicator. `parent` is the indentation around it. Without an
indicator the indentation is that of the first line with text, or of the widest empty line. -/
def blockScalar (literal : Bool) (parent : Int) (c : Cursor) : Option (List Char × Cursor) := do
  let (chomping, increment, c) ← blockHeader c
  let c := c.skipWhile isBlank
  let c := if c.isAt '#' then c.skipWhile fun ch => !isBreak ch else c
  if !c.atEnd && !c.has 0 isBreak then none
  else
    let c := c.skipBreak
    let given := increment.map fun n => (max parent 0).toNat + n
    let (breaks, widest, c) ← blockBreaks given (c.rest.length + 1) [] 0 c
    let indent := given.getD (max (max widest (parent + 1).toNat) 1)
    let (b, c) ← blockLines literal indent (c.rest.length + 1) { breaks } c
    let tail := match chomping with
      | .strip => []
      | .clip => b.firstBreak
      | .keep => b.firstBreak ++ b.breaks
    return (b.text ++ tail, c)

end Yaml

end RootCause
