import RootCause.Yaml.Scalar

/-!
The tokens of a YAML text.

Indentation becomes tokens of its own: a collection in block form starts where a line is
indented further and ends where one is indented less. A scalar turns out to be a key when a
colon follows it on its line, so the tokens before it are put in afterwards.
-/

namespace RootCause

namespace Yaml

inductive Token where
  | versionDirective (major minor : Nat)
  | tagDirective (handle expansion : List Char)
  | documentStart
  | documentEnd
  | blockSequenceStart
  | blockMappingStart
  | blockEnd
  | flowSequenceStart
  | flowSequenceEnd
  | flowMappingStart
  | flowMappingEnd
  | blockEntry
  | flowEntry
  | key
  | value
  | alias (name : List Char)
  | anchor (name : List Char)
  | tag (handle suffix : List Char)
  | scalar (plain : Bool) (text : List Char)
deriving DecidableEq

/-- A place where a key may have started: the count of tokens before it and its position. A
required one has to turn out a key. -/
structure KeyCandidate where
  required : Bool
  tokensBefore : Nat
  line : Nat
  column : Nat
  index : Nat

/-- A text partly read into tokens, the latest one first. There is one key candidate for the
block level and one for each open flow collection, the innermost first. -/
structure Scan where
  cursor : Cursor
  indent : Int
  indents : List Int
  candidate : Option KeyCandidate
  outerCandidates : List (Option KeyCandidate)
  keyAllowed : Bool
  tokens : List Token

namespace Scan

def ofText (text : List Char) : Scan := ⟨.ofText text, -1, [], none, [], true, []⟩

/-- Whether a flow collection is open. -/
def inFlow (s : Scan) : Bool := !s.outerCandidates.isEmpty

def emit (s : Scan) (t : Token) : Scan := { s with tokens := t :: s.tokens }

/-- Moves on and emits. -/
def advance (s : Scan) (n : Nat) (t : Token) : Scan :=
  { s with cursor := s.cursor.skip n, tokens := t :: s.tokens }

/-- Emits a token behind the first `before` tokens. -/
def emitAt (s : Scan) (before : Nat) (t : Token) : Scan :=
  let later := s.tokens.length - before
  { s with tokens := s.tokens.take later ++ t :: s.tokens.drop later }

/-- Opens a block collection where a column lies beyond the indentation. -/
def openBlock (s : Scan) (column before : Nat) (t : Token) : Scan :=
  if s.inFlow then s
  else if s.indent < column then
    { s.emitAt before t with indents := s.indent :: s.indents, indent := column }
  else s

/-- Closes the block collections that lie beyond a column. -/
def closeBlocks (column : Int) : (indents : List Int) → Scan → Scan
  | [], s => s
  | outer :: rest, s =>
    if s.inFlow then s
    else if column < s.indent then
      closeBlocks column rest { s.emit .blockEnd with indent := outer, indents := rest }
    else s

def closeTo (s : Scan) (column : Int) : Scan := closeBlocks column s.indents s

/-- A candidate lasts for its line and for 1024 characters. -/
def keepCandidate (c : Cursor) : Option KeyCandidate → Option (Option KeyCandidate)
  | none => some none
  | some k =>
    if k.line < c.line ∨ k.index + 1024 < c.index then
      if k.required then none else some none
    else some (some k)

def dropStale (s : Scan) : Option Scan := do
  return { s with
    candidate := ← keepCandidate s.cursor s.candidate
    outerCandidates := ← s.outerCandidates.mapM (keepCandidate s.cursor) }

/-- Gives up the candidate of the innermost level. -/
def dropCandidate (s : Scan) : Option Scan :=
  if s.candidate.any (·.required) then none else some { s with candidate := none }

/-- Makes the position a candidate where a key may start. -/
def addCandidate (s : Scan) : Option Scan :=
  if s.keyAllowed then do
    let s ← s.dropCandidate
    return { s with candidate := some {
      required := !s.inFlow && s.indent == s.cursor.column
      tokensBefore := s.tokens.length
      line := s.cursor.line
      column := s.cursor.column
      index := s.cursor.index } }
  else some s

/-- Skips blanks, comments and line breaks. A tab counts as a blank only where no key may
start. -/
def skipToToken : Nat → Scan → Scan
  | 0, s => s
  | fuel + 1, s =>
    let c := s.cursor
    let c := if c.index == 0 && c.isAt '\uFEFF' then c.skip 1 else c
    let c := c.skipWhile fun ch => ch == ' ' || (ch == '\t' && (s.inFlow || !s.keyAllowed))
    let c := if c.isAt '#' then c.skipWhile fun ch => !isBreak ch else c
    if c.has 0 isBreak then
      skipToToken fuel { s with cursor := c.skipBreak, keyAllowed := s.keyAllowed || !s.inFlow }
    else { s with cursor := c }

/-! Directives, anchors and tags -/

def isWordChar (c : Char) : Bool := c.isAlphanum || c == '-' || c == '_'

def isUriChar (verbatim : Bool) (c : Char) : Bool :=
  isWordChar c || ";/?:@&=+$.!~*'()%".toList.contains c ||
    (verbatim && ",[]".toList.contains c)

/-- A percent sign stands for the byte of two hexadecimal digits; bytes are put together to
characters. -/
def unescapeUri : List Char → Option (List UInt8)
  | [] => some []
  | '%' :: a :: b :: rest => do
    let hi ← Json.hexDigit? a
    let lo ← Json.hexDigit? b
    return UInt8.ofNat (16 * hi + lo) :: (← unescapeUri rest)
  | '%' :: _ => none
  | c :: rest => do return (String.ofList [c]).toUTF8.toList ++ (← unescapeUri rest)

def uriText (cs : List Char) : Option (List Char) := do
  let bytes ← unescapeUri cs
  return (← String.fromUTF8? ⟨bytes.toArray⟩).toList

/-- The characters of a URI from a position on. -/
def readUri (verbatim : Bool) (c : Cursor) : Option (List Char × Cursor) :=
  let cs := c.takeWhile (isUriChar verbatim)
  (uriText cs).map fun text => (text, c.skip cs.length)

/-- A `!`, word characters and a `!` that may be missing. -/
def readHandle (c : Cursor) : Option (List Char × Cursor) :=
  if c.isAt '!' then
    let word := (c.skip 1).takeWhile isWordChar
    let c' := c.skip (1 + word.length)
    if c'.isAt '!' then some ('!' :: word ++ ['!'], c'.skip 1) else some ('!' :: word, c')
  else none

/-- A tag: `<` a URI `>`, a handle with a suffix, or a suffix alone. -/
def readTag (inFlow : Bool) (c : Cursor) : Option (Token × Cursor) := do
  let (t, c) ←
    if c.has 1 (· == '<') then do
      let (uri, c) ← readUri true (c.skip 2)
      if uri.isEmpty || !c.isAt '>' then none else some (Token.tag [] uri, c.skip 1)
    else do
      let (handle, c) ← readHandle c
      if handle.length > 1 && handle.getLast? == some '!' then
        let (suffix, c) ← readUri false c
        if suffix.isEmpty then none else some (Token.tag handle suffix, c)
      else
        let (more, c) ← readUri false c
        let suffix := handle.drop 1 ++ more
        some (if suffix.isEmpty then Token.tag [] ['!'] else Token.tag ['!'] suffix, c)
  if c.endsWord 0 || (inFlow && c.isAt ',') then some (t, c) else none

/-- The name of an anchor or an alias. -/
def readName (c : Cursor) : Option (List Char × Cursor) :=
  let name := c.takeWhile isWordChar
  let c := c.skip name.length
  if name.isEmpty || !(c.endsWord 0 || c.has 0 (fun ch => "?:,]\x7d%@\x60".toList.contains ch))
  then none
  else some (name, c)

/-- A number of one to nine digits. -/
def readVersionNumber (c : Cursor) : Option (Nat × Cursor) :=
  let digits := c.takeWhile Char.isDigit
  if digits.isEmpty || digits.length > 9 then none
  else some (digitsValue digits, c.skip digits.length)

/-- A directive behind its percent sign. Only the two known ones are accepted. -/
def readDirective (c : Cursor) : Option (Token × Cursor) := do
  let name := c.takeWhile isWordChar
  let c := c.skip name.length
  let (t, c) ←
    if !c.endsWord 0 then none
    else if name = "YAML".toList then do
      let (major, c) ← readVersionNumber (c.skipWhile isBlank)
      if !c.isAt '.' then none
      else
        let (minor, c) ← readVersionNumber (c.skip 1)
        some (Token.versionDirective major minor, c)
    else if name = "TAG".toList then do
      let (handle, c) ← readHandle (c.skipWhile isBlank)
      if (handle.length > 1 && handle.getLast? != some '!') || !c.has 0 isBlank then none
      else
        let (expansion, c) ← readUri true (c.skipWhile isBlank)
        if expansion.isEmpty || !c.endsWord 0 then none
        else some (Token.tagDirective handle expansion, c)
    else none
  let c := c.skipWhile isBlank
  let c := if c.isAt '#' then c.skipWhile fun ch => !isBreak ch else c
  if c.atEnd || c.has 0 isBreak then some (t, c.skipBreak) else none

/-! One token -/

/-- A directive or a document marker, which ends every block. -/
def atMargin (s : Scan) : Option Scan := do
  let s ← (s.closeTo (-1)).dropCandidate
  return { s with keyAllowed := false }

/-- Opens a flow collection. -/
def openFlow (s : Scan) (t : Token) : Option Scan := do
  let s ← s.addCandidate
  return { s.advance 1 t with
    candidate := none, outerCandidates := s.candidate :: s.outerCandidates, keyAllowed := true }

/-- Closes a flow collection. A closing bracket outside of any is left to the grammar. -/
def closeFlow (s : Scan) (t : Token) : Option Scan := do
  let s ← s.dropCandidate
  let s := match s.outerCandidates with
    | [] => s
    | candidate :: rest => { s with candidate, outerCandidates := rest }
  return { s.advance 1 t with keyAllowed := false }

/-- The mark of an entry or of a key that is marked as one. -/
def mark (s : Scan) (start t : Token) (keyAfter : Bool) : Option Scan := do
  if !s.inFlow && !s.keyAllowed then none
  else
    let s := s.openBlock s.cursor.column s.tokens.length start
    let s ← s.dropCandidate
    return { s.advance 1 t with keyAllowed := keyAfter }

/-- A colon: it makes the candidate a key, or stands for a value without a simple key. -/
def valueMark (s : Scan) : Option Scan :=
  match s.candidate with
  | some k =>
    let s := (s.emitAt k.tokensBefore .key).openBlock k.column k.tokensBefore .blockMappingStart
    some { s.advance 1 .value with candidate := none, keyAllowed := false }
  | none =>
    if !s.inFlow && !s.keyAllowed then none
    else
      let s := s.openBlock s.cursor.column s.tokens.length .blockMappingStart
      some { s.advance 1 .value with keyAllowed := !s.inFlow }

/-- A token that may be a key and is read by `read`. -/
def content (s : Scan) (read : Cursor → Option (Token × Cursor)) : Option Scan := do
  let s ← s.addCandidate
  let (t, c) ← read s.cursor
  return { s.emit t with cursor := c, keyAllowed := false }

def blockContent (s : Scan) (literal : Bool) : Option Scan := do
  let s ← s.dropCandidate
  let (text, c) ← blockScalar literal s.indent (s.cursor.skip 1)
  return { s.emit (.scalar false text) with cursor := c, keyAllowed := true }

def quotedContent (s : Scan) (single : Bool) : Option Scan :=
  s.content fun c =>
    (quotedScalar single (c.rest.length + 1) [] (c.skip 1)).map fun (text, c) =>
      (.scalar false text, c)

def plainContent (s : Scan) : Option Scan := do
  let s ← s.addCandidate
  let c := s.cursor
  let (text, broken, c) ←
    plainScalar s.inFlow (s.indent + 1).toNat (c.rest.length + 1) [] {} c
  return { s.emit (.scalar true text) with cursor := c, keyAllowed := broken }

/-- The characters that a plain scalar does not start with. -/
def indicators : List Char := "-?:,[]\x7b\x7d#&*!|>'\"%@\x60".toList

/-- Reads one token at the position, none left at the end of the text. -/
def next (s : Scan) : Option Scan :=
  let c := s.cursor
  let spaced := c.endsWord 1
  match c.peek? 0 with
  | none => do
    let s ← (s.closeTo (-1)).dropCandidate
    return { s with keyAllowed := false }
  | some ch =>
    if c.column == 0 && ch == '%' then do
      let s ← s.atMargin
      let (t, c) ← readDirective (c.skip 1)
      return { s.emit t with cursor := c }
    else if c.atMarker '-' then s.atMargin.map (·.advance 3 .documentStart)
    else if c.atMarker '.' then s.atMargin.map (·.advance 3 .documentEnd)
    else if ch == '[' then s.openFlow .flowSequenceStart
    else if ch == '{' then s.openFlow .flowMappingStart
    else if ch == ']' then s.closeFlow .flowSequenceEnd
    else if ch == '}' then s.closeFlow .flowMappingEnd
    else if ch == ',' then do
      let s ← s.dropCandidate
      return { s.advance 1 .flowEntry with keyAllowed := true }
    else if ch == '-' && spaced then s.mark .blockSequenceStart .blockEntry true
    else if ch == '?' && (s.inFlow || spaced) then
      s.mark .blockMappingStart .key (!s.inFlow)
    else if ch == ':' && (s.inFlow || spaced) then s.valueMark
    else if ch == '*' then
      s.content fun c => (readName (c.skip 1)).map fun (name, c) => (.alias name, c)
    else if ch == '&' then
      s.content fun c => (readName (c.skip 1)).map fun (name, c) => (.anchor name, c)
    else if ch == '!' then s.content (readTag s.inFlow)
    else if ch == '|' && !s.inFlow then s.blockContent true
    else if ch == '>' && !s.inFlow then s.blockContent false
    else if ch == '\'' then s.quotedContent true
    else if ch == '"' then s.quotedContent false
    else if isBlank ch then none
    else if !indicators.contains ch || (ch == '-' && !c.has 1 isBlank) ||
        (!s.inFlow && (ch == '?' || ch == ':') && !spaced) then s.plainContent
    else none

/-- Reads tokens up to the end of the text. -/
def all : Nat → Scan → Option Scan
  | 0, s => some s
  | fuel + 1, s => do
    let s := skipToToken (s.cursor.rest.length + 1) s
    let s ← s.dropStale
    let s := s.closeTo s.cursor.column
    let atEnd := s.cursor.atEnd
    let s ← s.next
    if atEnd then some s else all fuel s

end Scan

/-- The tokens of a text, none on an error of form. Every round of reading shortens the
text. -/
def tokens? (text : List Char) : Option (List Token) :=
  if text.all isPrintable then
    (Scan.all (text.length + 1) (.ofText text)).map (·.tokens.reverse)
  else none

end Yaml

end RootCause
