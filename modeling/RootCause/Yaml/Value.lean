import RootCause.Decimal.Reader
import RootCause.Yaml.Event

/-!
YAML documents read into JSON values.

A plain scalar is null, a flag, an integer, a number or a text, whichever fits first. Keys
are texts. Infinity and NaN have no JSON value and become null; a local tag has none either
and is refused, like an integer that 64 bits do not hold.
-/

namespace RootCause

namespace Yaml

/-! Scalars -/

def isNullText (s : String) : Bool := ["null", "Null", "NULL", "~"].contains s

def flag? (s : String) : Option Bool :=
  if ["true", "True", "TRUE"].contains s then some true
  else if ["false", "False", "FALSE"].contains s then some false
  else none

/-- Digits in a base below seventeen, at least one. -/
def digitsIn? (base : Nat) (cs : List Char) : Option Nat := do
  let digits ← cs.mapM Json.hexDigit?
  if digits.isEmpty || digits.any (base ≤ ·) then none
  else some (digits.foldl (fun n d => base * n + d) 0)

/-- A magnitude with the mark of its base, if it has one; as a plain decimal without leading
zeros. -/
def magnitude? : List Char → Option Nat
  | '0' :: 'x' :: cs => digitsIn? 16 cs
  | '0' :: 'o' :: cs => digitsIn? 8 cs
  | '0' :: 'b' :: cs => digitsIn? 2 cs
  | '0' :: c :: cs => if c.isDigit then none else digitsIn? 10 ('0' :: c :: cs)
  | cs => digitsIn? 10 cs

/-- An integer of up to 128 bits. -/
def integer? (cs : List Char) : Option Int :=
  match cs with
  | '-' :: cs => do
    let n ← magnitude? cs
    if n ≤ 0x80000000000000000000000000000000 then some (-(n : Int)) else none
  | cs => do
    let n ← magnitude? (match cs with
      | '+' :: cs => cs
      | cs => cs)
    if n < 0x100000000000000000000000000000000 then some n else none

/-- Digits with a zero in front, which are a text. -/
def isZeroPadded (cs : List Char) : Bool :=
  let digits := match cs with
    | '-' :: cs | '+' :: cs => cs
    | cs => cs
  1 < digits.length && digits.head? == some '0' && digits.all Char.isDigit

/-- A number that is no integer, also the named ones. -/
def double? (cs : List Char) : Option Binary64 :=
  let s := String.ofList cs
  if [".inf", ".Inf", ".INF", "+.inf", "+.Inf", "+.INF"].contains s then some (.infinity false)
  else if ["-.inf", "-.Inf", "-.INF"].contains s then some (.infinity true)
  else if [".nan", ".NaN", ".NAN"].contains s then some (.nan false)
  else (Binary64.read? cs).filter (·.isFinite)

/-- An integer as JSON holds it; none beyond 64 bits. -/
def integerJson? (n : Int) : Option Json :=
  if -0x8000000000000000 ≤ n ∧ n < 0x10000000000000000 then some (.number (.integer n)) else none

def plainJson? (cs : List Char) : Option Json :=
  let s := String.ofList cs
  if cs.isEmpty || isNullText s then some .null
  else
    match flag? s, integer? cs with
    | some b, _ => some (.bool b)
    | none, some n => integerJson? n
    | none, none =>
      match (if isZeroPadded cs then none else double? cs) with
      | some x => some (.ofDouble x)
      | none => some (.string s)

/-- The tag of a type of the core schema. -/
def coreTag (name : String) : List Char := ("tag:yaml.org,2002:" ++ name).toList

/-- A local tag, which names a type of its own. -/
def isLocalTag (tag : List Char) : Bool := tag.head? == some '!'

def scalarJson? (tag : Option (List Char)) (plain : Bool) (cs : List Char) : Option Json :=
  let s := String.ofList cs
  match tag with
  | none => if plain then plainJson? cs else some (.string s)
  | some tag =>
    if isLocalTag tag then none
    else if tag = coreTag "bool" then (flag? s).map .bool
    else if tag = coreTag "int" then (integer? cs).bind integerJson?
    else if tag = coreTag "float" then (double? cs).map .ofDouble
    else if tag = coreTag "null" then (if isNullText s then some .null else none)
    else some (.string s)

/-! Aliases -/

/-- An event whose alias is the number of an anchor. -/
inductive Linked where
  | alias (anchor : Nat)
  | scalar (tag : Option (List Char)) (plain : Bool) (text : List Char)
  | sequenceStart (tag : Option (List Char))
  | mappingStart (tag : Option (List Char))
  | collectionEnd

/-- Anchor names with their numbers, and the places of the numbers. -/
structure Anchors where
  numbers : List (List Char × Nat) := []
  places : List (Nat × Nat) := []

namespace Anchors

/-- Names an anchor at a place. Its number is the count of the names before; a name that is
given again keeps its slot but takes a new number. -/
def add (a : Anchors) (place : Nat) : Option (List Char) → Anchors
  | none => a
  | some name =>
    let number := a.numbers.length
    let numbers :=
      if (a.numbers.lookup name).isSome then
        a.numbers.map fun n => if n.1 = name then (name, number) else n
      else a.numbers ++ [(name, number)]
    ⟨numbers, (number, place) :: a.places⟩

end Anchors

/-- Replaces names of aliases by numbers; none for an unknown name. -/
def link (a : Anchors) (place : Nat) : List Event → Option (List Linked × Anchors)
  | [] => some ([], a)
  | e :: rest => do
    let (linked, a) ← match e with
      | .alias name => (a.numbers.lookup name).map fun n => (Linked.alias n, a)
      | .scalar m plain text => some (.scalar m.tag plain text, a.add place m.anchor)
      | .sequenceStart m => some (.sequenceStart m.tag, a.add place m.anchor)
      | .mappingStart m => some (.mappingStart m.tag, a.add place m.anchor)
      | .collectionEnd => some (.collectionEnd, a)
    let (rest, a) ← link a (place + 1) rest
    return (linked :: rest, a)

/-! Values -/

/-- A linked document. -/
structure Document where
  events : List Linked
  anchors : Anchors

/-- What reading a part gives: its value, the events behind it and the aliases followed. -/
abbrev Reading (α : Type) := List Linked → Nat → Option (α × List Linked × Nat)

namespace Document

/-- The events from an anchor on. Aliases may be followed a hundred times as often as there
are events. -/
def follow (d : Document) (anchor followed : Nat) : Option (List Linked × Nat) :=
  if followed < d.events.length * 100 then
    (d.anchors.places.lookup anchor).map fun place => (d.events.drop place, followed + 1)
  else none

/-- A key: the text of a scalar, however written. -/
def key (d : Document) : Reading String
  | .scalar _ _ text :: rest, followed => some (String.ofList text, rest, followed)
  | .alias n :: rest, followed =>
    match d.follow n followed with
    | some (.scalar _ _ text :: _, followed) => some (String.ofList text, rest, followed)
    | _ => none
  | _, _ => none

/-- Values up to the end of a collection. `clock` is no shorter than the events. -/
def items (element : Reading Json) : (clock : List Linked) → Reading (List Json)
  | _, .collectionEnd :: rest, followed => some ([], rest, followed)
  | [], _, _ => none
  | _ :: clock, es, followed => do
    let (item, es, followed) ← element es followed
    let (more, es, followed) ← items element clock es followed
    return (item :: more, es, followed)

/-- Keys and values up to the end of a collection. -/
def members (d : Document) (element : Reading Json) :
    (clock : List Linked) → Reading (List (String × Json))
  | _, .collectionEnd :: rest, followed => some ([], rest, followed)
  | [], _, _ => none
  | _ :: clock, es, followed => do
    let (key, es, followed) ← d.key es followed
    let (item, es, followed) ← element es followed
    let (more, es, followed) ← members d element clock es followed
    return ((key, item) :: more, es, followed)

/-- A value that starts with an event other than an alias. -/
def written (d : Document) (element : Option (Reading Json)) : Reading Json
  | .scalar tag plain text :: rest, followed =>
    (scalarJson? tag plain text).map fun j => (j, rest, followed)
  | .sequenceStart tag :: rest, followed =>
    match element with
    | none => none
    | some element =>
      if tag.any isLocalTag then none
      else (items element rest rest followed).map fun (js, r) => (.array js, r)
  | .mappingStart tag :: rest, followed =>
    match element with
    | none => none
    | some element =>
      if tag.any isLocalTag then none
      else (members d element rest rest followed).map fun (ms, r) => (.object ms, r)
  | _, _ => none

/-- A value in which collections nest at most `depth` deep, those behind aliases
included. -/
def value (d : Document) : (depth : Nat) → Reading Json
  | depth, es, followed =>
    let element := match depth with
      | 0 => none
      | depth + 1 => some (value d depth)
    match es with
    | .alias n :: rest =>
      match d.follow n followed with
      | none => none
      | some (target, followed) =>
        (written d element target followed).map fun (j, _, followed) => (j, rest, followed)
    | es => written d element es followed

end Document

/-- The nesting that a document may have. -/
def maxDepth : Nat := 128

/-- The value of a text with one document, in normal form. -/
def ofText? (text : String) : Option Json := do
  let tokens ← tokens? text.toList
  let events ← Event.document? tokens
  let (linked, anchors) ← link {} 0 events
  let d : Document := ⟨linked, anchors⟩
  let (json, _, _) ← d.value maxDepth d.events 0
  return json.normalize

end Yaml

end RootCause
