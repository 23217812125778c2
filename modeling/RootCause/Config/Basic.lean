import RootCause.Json.Record

/-!
The settings of the program: where analytics come from and how it logs.
-/

namespace RootCause

inductive SourceKind where
  | fixture
  | database
deriving DecidableEq

instance : Named SourceKind where
  all := [.fixture, .database]
  name
    | .fixture => "fixture"
    | .database => "sqlite"

inductive LogFormat where
  | pretty
  | json
deriving DecidableEq

instance : Named LogFormat where
  all := [.pretty, .json]
  name
    | .pretty => "pretty"
    | .json => "json"

structure SourceConfig where
  kind : SourceKind := .fixture
  fixturePath : Option String := none
  databaseUrl : Option String := none
  maxConnections : UInt32 := 4
deriving DecidableEq

structure LoggingConfig where
  format : LogFormat := .pretty
  otel : Bool := false
deriving DecidableEq

structure Config where
  source : SourceConfig := {}
  logging : LoggingConfig := {}
deriving DecidableEq

namespace SourceConfig

def toJson (c : SourceConfig) : Json := .object (
  Json.memberIfSome "database_url" .string c.databaseUrl ++
  Json.memberIfSome "fixture_path" .string c.fixturePath ++
  [("kind", .ofNamed c.kind), ("max_connections", .ofNat c.maxConnections.toNat)])

end SourceConfig

namespace LoggingConfig

def toJson (c : LoggingConfig) : Json := .object [
  ("format", .ofNamed c.format), ("otel", .bool c.otel)]

end LoggingConfig

end RootCause
