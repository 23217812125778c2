import RootCause.Binary64.Basic

/-!
TOML values, and how the statements of a document make up its tables.

A table may be stated once. It can still be there before, when the name of another table or
a dotted key went through it; `Origin` says which, because only some of these may be
continued.
-/

namespace RootCause

namespace Toml

inductive Value where
  | text (s : String)
  | integer (n : Int)
  | float (x : Binary64)
  | bool (b : Bool)
  | moment (s : String)
  | array (items : List Value)
  | table (entries : List (String × Value))

instance : Inhabited Value := ⟨.table []⟩

/-- What brought a table about: its own statement, the name of a table below it, or a dotted
key. -/
inductive Origin where
  | stated
  | implied
  | dotted
deriving DecidableEq

/-- A part of a document under construction. An array of tables holds its latest table apart
from the earlier ones. -/
inductive Node where
  | value (v : Value)
  | table (origin : Origin) (entries : List (String × Node))
  | tables (earlier : List (List (String × Node))) (latest : List (String × Node))

abbrev Entries := List (String × Node)

namespace Entries

/-- Puts a node under a key in place of the one there, or at the end. -/
def set (key : String) (node : Node) : Entries → Entries
  | [] => [(key, node)]
  | e :: rest => if e.1 = key then (key, node) :: rest else e :: set key node rest

/-- Changes the table that a path leads to from a table of a given origin. Tables that are
missing on the way come about. A dotted key (`dotted`) does not go through a table that has
been stated, and no path goes through a value. -/
def within (dotted : Bool) (change : Origin → Entries → Option Entries) :
    (path : List String) → Origin → Entries → Option Entries
  | [], origin, es => change origin es
  | key :: path, _, es =>
    match es.lookup key with
    | none =>
      let origin := if dotted then Origin.dotted else .implied
      (within dotted change path origin []).map fun t => es ++ [(key, .table origin t)]
    | some (.value _) => none
    | some (.table origin t) =>
      if dotted && origin = .stated then none
      else (within dotted change path origin t).map fun t => set key (.table origin t) es
    | some (.tables earlier latest) =>
      (within dotted change path .stated latest).map fun t => set key (.tables earlier t) es

/-- Adds a value under a new key to a table. Dotted keys end only in tables that came about
by dotted keys. -/
def addValue (path : List String) (key : String) (v : Value) : Origin → Entries → Option Entries :=
  within true
    (fun origin es =>
      if (origin == .dotted) == path.isEmpty || (es.lookup key).isSome then none
      else some (es ++ [(key, .value v)]))
    path

/-- States a table. One that only names below it have brought about is continued. -/
def stateTable (key : String) (es : Entries) : Option Entries :=
  match es.lookup key with
  | none => some (es ++ [(key, .table .stated [])])
  | some (.table .implied t) => some (set key (.table .stated t) es)
  | some _ => none

/-- Starts the next table of an array of tables. -/
def appendTable (key : String) (es : Entries) : Option Entries :=
  match es.lookup key with
  | none => some (es ++ [(key, .tables [] [])])
  | some (.tables earlier latest) => some (set key (.tables (earlier ++ [latest]) []) es)
  | some _ => none

end Entries

mutual

def Node.toValue : Node → Value
  | .value v => v
  | .table _ es => .table (Entries.toValues es)
  | .tables earlier latest =>
    .array (Entries.toTables earlier ++ [.table (Entries.toValues latest)])

def Entries.toValues : List (String × Node) → List (String × Value)
  | [] => []
  | (key, node) :: rest => (key, node.toValue) :: Entries.toValues rest

def Entries.toTables : List (List (String × Node)) → List Value
  | [] => []
  | es :: rest => .table (Entries.toValues es) :: Entries.toTables rest

end

/-- A key with its value, the path of a dotted key apart from its last name. -/
structure Assignment where
  path : List String
  key : String
  value : Value

/-- A line of a document. -/
inductive Statement where
  | assignment (a : Assignment)
  | table (path : List String) (key : String)
  | arrayTable (path : List String) (key : String)

/-- The tables of a document so far and the path of the one that assignments go to. -/
structure Draft where
  root : Entries := []
  current : List String := []

namespace Draft

def extend? (d : Draft) : Statement → Option Draft
  | .assignment a => do
    let root ← Entries.within false (Entries.addValue a.path a.key a.value) d.current .stated d.root
    return { d with root }
  | .table path key => do
    let root ← Entries.within false (fun _ => Entries.stateTable key) path .stated d.root
    return ⟨root, path ++ [key]⟩
  | .arrayTable path key => do
    let root ← Entries.within false (fun _ => Entries.appendTable key) path .stated d.root
    return ⟨root, path ++ [key]⟩

end Draft

/-- The table of an inline table's assignments. -/
def inlineTable? (assignments : List Assignment) : Option Value :=
  (assignments.foldlM (fun es a => Entries.addValue a.path a.key a.value .stated es) []).map
    fun es => .table (Entries.toValues es)

/-- The table of a document's statements. -/
def document? (statements : List Statement) : Option (List (String × Value)) :=
  (statements.foldlM Draft.extend? {}).map fun d => Entries.toValues d.root

end Toml

end RootCause
