import RootCause.Config.Basic
import RootCause.Toml.Parser

/-!
Settings read from TOML.

Every field may be left out, and entries that name no field do not count. A section may also
be the array of its fields in declared order; a date has no fields at all.
-/

namespace RootCause

namespace Toml.Value

def toText? : Value → Option String
  | .text s => some s
  | _ => none

def toBool? : Value → Option Bool
  | .bool b => some b
  | _ => none

def toUInt32? : Value → Option UInt32
  | .integer n => if 0 ≤ n ∧ n.toNat < UInt32.size then some (UInt32.ofNat n.toNat) else none
  | _ => none

/-- A named value: its name, or a table with the name as only key and nothing under it. -/
def toNamed? {α : Type} [Named α] : Value → Option α
  | .text name => Named.ofName? name
  | .table [(name, .table [])] | .table [(name, .array [])] => Named.ofName? name
  | _ => none

/-- The given fields of a record. -/
def record? (fields : List String) : Value → Option (List (String × Value))
  | .table entries => some entries
  | .array items => some (fields.zip items)
  | .moment _ => some []
  | _ => none

/-- A field that may be left out. -/
def field {α : Type} (record : List (String × Value)) (name : String)
    (decode : Value → Option α) (default : α) : Option α :=
  match record.lookup name with
  | none => some default
  | some v => decode v

end Toml.Value

open Toml.Value

def SourceConfig.ofToml? (v : Toml.Value) : Option SourceConfig := do
  let r ← v.record? ["kind", "fixture_path", "database_url", "max_connections"]
  return {
    kind := ← field r "kind" toNamed? .fixture
    fixturePath := ← field r "fixture_path" (fun v => (toText? v).map some) none
    databaseUrl := ← field r "database_url" (fun v => (toText? v).map some) none
    maxConnections := ← field r "max_connections" toUInt32? 4 }

def LoggingConfig.ofToml? (v : Toml.Value) : Option LoggingConfig := do
  let r ← v.record? ["format", "otel"]
  return {
    format := ← field r "format" toNamed? .pretty
    otel := ← field r "otel" toBool? false }

/-- The settings that a text gives. -/
def Config.ofText? (text : String) : Option Config := do
  let r ← Toml.ofText? text
  return {
    source := ← field r "source" SourceConfig.ofToml? {}
    logging := ← field r "logging" LoggingConfig.ofToml? {} }

end RootCause
