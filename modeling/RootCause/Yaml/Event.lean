import RootCause.Yaml.Token

/-!
The nodes of a YAML document in the order of their text, collections with an end.

The functions of the grammar give the events of a part and the tokens behind it, none where
the tokens do not follow the grammar. Each takes a token between two calls of itself, which
bounds the recursion.
-/

namespace RootCause

namespace Yaml

/-- What stands before the content of a node. -/
structure NodeMarks where
  anchor : Option (List Char) := none
  tag : Option (List Char) := none

inductive Event where
  | alias (name : List Char)
  | scalar (marks : NodeMarks) (plain : Bool) (text : List Char)
  | sequenceStart (marks : NodeMarks)
  | mappingStart (marks : NodeMarks)
  | collectionEnd

namespace Event

/-- The node of a place where nothing is written. -/
def empty : Event := .scalar {} true []

/-- What the handles of tags stand for. -/
abbrev Handles := List (List Char × List Char)

def defaultHandles : Handles :=
  [("!".toList, "!".toList), ("!!".toList, "tag:yaml.org,2002:".toList)]

/-- The full tag; none for an unknown handle. -/
def resolveTag (handles : Handles) (handle suffix : List Char) : Option (List Char) :=
  if handle.isEmpty then some suffix else (handles.lookup handle).map (· ++ suffix)

/-- An anchor and a tag, in either order. -/
def readMarks (handles : Handles) : List Token → Option (NodeMarks × List Token)
  | .anchor a :: .tag h s :: rest | .tag h s :: .anchor a :: rest => do
    return (⟨some a, some (← resolveTag handles h s)⟩, rest)
  | .anchor a :: rest => some (⟨some a, none⟩, rest)
  | .tag h s :: rest => do return (⟨none, some (← resolveTag handles h s)⟩, rest)
  | rest => some ({}, rest)

/-- Where a node may be: in a block, in a block as the value of a key, in a flow. -/
inductive Place where
  | block
  | blockValue
  | flow
deriving DecidableEq

/-- Reads a part, or takes an empty node where a token says that there is none. -/
abbrev Part := List Token → Option (List Event × List Token)

def endsBlockPart : List Token → Bool
  | .key :: _ | .value :: _ | .blockEnd :: _ => true
  | _ => false

/-- A part that is an empty node when a token ends it at once. -/
def orEmpty (ends : Bool) (part : Part) : Part := fun ts =>
  if ends then some ([empty], ts) else part ts

/-- Two parts one after the other. -/
def andThen (first second : Part) : Part := fun ts => do
  let (a, ts) ← first ts
  let (b, ts) ← second ts
  return (a ++ b, ts)

mutual

/-- One node. -/
def node (handles : Handles) : Nat → Place → Part
  | 0, _, _ => none
  | fuel + 1, place, ts => do
    match ts with
    | .alias name :: ts => return ([.alias name], ts)
    | _ =>
      let (marks, ts) ← readMarks handles ts
      match ts, place with
      | .scalar plain text :: ts, _ =>
        if marks.tag = some ['!'] then return ([.scalar { marks with tag := none } plain text], ts)
        else return ([.scalar marks plain text], ts)
      | .flowSequenceStart :: ts, _ =>
        let (es, ts) ← flowSequence handles fuel true ts
        return (.sequenceStart marks :: es, ts)
      | .flowMappingStart :: ts, _ =>
        let (es, ts) ← flowMapping handles fuel true ts
        return (.mappingStart marks :: es, ts)
      | .blockEntry :: _, .blockValue =>
        let (es, ts) ← indentlessSequence handles fuel ts
        return (.sequenceStart marks :: es, ts)
      | .blockSequenceStart :: ts, .block | .blockSequenceStart :: ts, .blockValue =>
        let (es, ts) ← blockSequence handles fuel ts
        return (.sequenceStart marks :: es, ts)
      | .blockMappingStart :: ts, .block | .blockMappingStart :: ts, .blockValue =>
        let (es, ts) ← blockMapping handles fuel ts
        return (.mappingStart marks :: es, ts)
      | ts, _ =>
        if marks.anchor.isSome || marks.tag.isSome then return ([.scalar marks true []], ts)
        else none

/-- Entries of a block sequence up to its end. -/
def blockSequence (handles : Handles) : Nat → Part
  | 0, _ => none
  | fuel + 1, ts =>
    match ts with
    | .blockEntry :: .blockEntry :: ts =>
      andThen (fun ts => some ([empty], ts)) (blockSequence handles fuel) (.blockEntry :: ts)
    | .blockEntry :: .blockEnd :: ts => some ([empty, .collectionEnd], ts)
    | .blockEntry :: ts => andThen (node handles fuel .block) (blockSequence handles fuel) ts
    | .blockEnd :: ts => some ([.collectionEnd], ts)
    | _ => none

/-- Entries of a sequence that is indented like the key before it. -/
def indentlessSequence (handles : Handles) : Nat → Part
  | 0, _ => none
  | fuel + 1, ts =>
    match ts with
    | .blockEntry :: .blockEntry :: ts =>
      andThen (fun ts => some ([empty], ts)) (indentlessSequence handles fuel) (.blockEntry :: ts)
    | .blockEntry :: ts =>
      andThen (orEmpty (endsBlockPart ts) (node handles fuel .block))
        (indentlessSequence handles fuel) ts
    | ts => some ([.collectionEnd], ts)

/-- Keys and values of a block mapping up to its end. -/
def blockMapping (handles : Handles) : Nat → Part
  | 0, _ => none
  | fuel + 1, ts =>
    match ts with
    | .key :: ts =>
      andThen (orEmpty (endsBlockPart ts) (node handles fuel .blockValue))
        (blockMappingValue handles fuel) ts
    | .blockEnd :: ts => some ([.collectionEnd], ts)
    | _ => none

/-- The value of a block mapping's key, then the rest of the mapping. -/
def blockMappingValue (handles : Handles) : Nat → Part
  | 0, _ => none
  | fuel + 1, ts =>
    match ts with
    | .value :: ts =>
      andThen (orEmpty (endsBlockPart ts) (node handles fuel .blockValue))
        (blockMapping handles fuel) ts
    | ts => andThen (fun ts => some ([empty], ts)) (blockMapping handles fuel) ts

/-- Entries of a flow sequence; behind the first one a comma comes before each. -/
def flowSequence (handles : Handles) : Nat → (first : Bool) → Part
  | 0, _, _ => none
  | fuel + 1, first, ts =>
    match first, ts with
    | _, .flowSequenceEnd :: ts => some ([.collectionEnd], ts)
    | true, ts => flowSequenceEntry handles fuel ts
    | false, .flowEntry :: ts => flowSequenceEntry handles fuel ts
    | false, _ => none

/-- An entry of a flow sequence, a single pair included, then the rest of it. -/
def flowSequenceEntry (handles : Handles) : Nat → Part
  | 0, _ => none
  | fuel + 1, ts =>
    match ts with
    | .flowSequenceEnd :: ts => some ([.collectionEnd], ts)
    | .key :: ts =>
      let key : Part :=
        match ts with
        | .value :: _ | .flowEntry :: _ | .flowSequenceEnd :: _ =>
          fun ts => some ([empty], ts.drop 1)
        | _ => node handles fuel .flow
      let value : Part := fun ts =>
        match ts with
        | .value :: ts =>
          match ts with
          | .flowEntry :: _ | .flowSequenceEnd :: _ => some ([empty], ts)
          | _ => node handles fuel .flow ts
        | ts => some ([empty], ts)
      andThen (andThen (fun ts => (andThen key value ts).map fun (es, ts) =>
          (.mappingStart {} :: es, ts)) fun ts => some ([.collectionEnd], ts))
        (flowSequence handles fuel false) ts
    | ts => andThen (node handles fuel .flow) (flowSequence handles fuel false) ts

/-- Keys and values of a flow mapping; behind the first pair a comma comes before each. -/
def flowMapping (handles : Handles) : Nat → (first : Bool) → Part
  | 0, _, _ => none
  | fuel + 1, first, ts =>
    match first, ts with
    | _, .flowMappingEnd :: ts => some ([.collectionEnd], ts)
    | true, ts => flowMappingEntry handles fuel ts
    | false, .flowEntry :: ts => flowMappingEntry handles fuel ts
    | false, _ => none

/-- A pair of a flow mapping, a key alone included, then the rest of it. -/
def flowMappingEntry (handles : Handles) : Nat → Part
  | 0, _ => none
  | fuel + 1, ts =>
    match ts with
    | .flowMappingEnd :: ts => some ([.collectionEnd], ts)
    | .key :: ts =>
      let ends := match ts with
        | .value :: _ | .flowEntry :: _ | .flowMappingEnd :: _ => true
        | _ => false
      let value : Part := fun ts =>
        match ts with
        | .value :: ts =>
          match ts with
          | .flowEntry :: _ | .flowMappingEnd :: _ => some ([empty], ts)
          | _ => node handles fuel .flow ts
        | ts => some ([empty], ts)
      andThen (andThen (orEmpty ends (node handles fuel .flow)) value)
        (flowMapping handles fuel false) ts
    | ts =>
      andThen (andThen (node handles fuel .flow) fun ts => some ([empty], ts))
        (flowMapping handles fuel false) ts

end

/-- The handles that directives define, and the tokens behind them. Only versions 1.1 and 1.2
are known, and no directive may repeat another. -/
def directives : (version : Bool) → Handles → List Token → Option (Handles × List Token)
  | version, handles, .versionDirective major minor :: ts =>
    if version || major != 1 || (minor != 1 && minor != 2) then none
    else directives true handles ts
  | version, handles, .tagDirective handle expansion :: ts =>
    if (handles.lookup handle).isSome then none
    else directives version (handles ++ [(handle, expansion)]) ts
  | _, handles, ts => some (handles, ts)

/-- The content of a document; an empty node where another document or the end follows. -/
def content (handles : Handles) : Part := fun ts =>
  match ts with
  | [] | .documentStart :: _ | .documentEnd :: _ | .versionDirective _ _ :: _
  | .tagDirective _ _ :: _ => some ([empty], ts)
  | _ => node handles (4 * ts.length + 4) .block ts

/-- The events of the only document. More than one document, and none, are refused. -/
def document? (ts : List Token) : Option (List Event) :=
  let part : Option (List Event × List Token) :=
    match ts with
    | [] => none
    | .versionDirective _ _ :: _ | .tagDirective _ _ :: _ | .documentStart :: _ =>
      match directives false [] ts with
      | some (handles, .documentStart :: ts) =>
        content (handles ++ defaultHandles.filter fun h => (handles.lookup h.1).isNone) ts
      | _ => none
    | ts => node defaultHandles (4 * ts.length + 4) .block ts
  match part with
  | some (events, rest) => if rest.all (· = .documentEnd) then some events else none
  | none => none

end Event

end Yaml

end RootCause
