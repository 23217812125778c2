import RootCause.Config.Decode
import RootCause.Database.File
import RootCause.Source.Answer
import RootCause.Source.Fixture

/-!
Settings loaded from the data directory, and the source that they select.
-/

namespace RootCause

/-- What the program takes from the environment of its process. -/
structure Environment where
  home : Option String
  dataDirectory : Option String
deriving DecidableEq

namespace Environment

/-- The data directory: the one that the environment names, else one in the home directory,
else one in the working directory. -/
def defaultDataDirectory (e : Environment) : String :=
  match e.dataDirectory, e.home with
  | some directory, _ => directory
  | none, some home => Path.join home ".dropscope"
  | none, none => ".dropscope"

def defaultDatabaseUrl (e : Environment) : String :=
  "sqlite://" ++ e.defaultDataDirectory ++ "/analytics.db"

end Environment

/-- Why the settings in a file were not used. -/
inductive ConfigWarning where
  | unreadable
  | malformed
deriving DecidableEq

def ConfigWarning.message : ConfigWarning → String
  | .unreadable => "failed to read"
  | .malformed => "failed to parse"

structure LoadedConfig where
  config : Config
  warning : Option ConfigWarning
deriving DecidableEq

/-- Settings from what reading the file gave. Without a file, and when the file is of no use,
they are the defaults. A relative path of a fixture is seen from the data directory. -/
def LoadedConfig.ofFile (directory : String) : Except ReadError String → LoadedConfig
  | .error .notFound => ⟨{}, none⟩
  | .error _ => ⟨{}, some .unreadable⟩
  | .ok text =>
    match Config.ofText? text with
    | none => ⟨{}, some .malformed⟩
    | some c =>
      let fixturePath := c.source.fixturePath.map (Path.join directory)
      ⟨{ c with source := { c.source with fixturePath } }, none⟩

/-- The settings in a data directory. -/
def loadConfig {m : Type → Type} [Monad m] (disk : Disk m) (directory : String) :
    m LoadedConfig := do
  return .ofFile directory (← disk.readText (Path.join directory "config.toml"))

/-- Why the selected source cannot be asked. -/
inductive OpenError where
  | missingFixturePath
  | unreadableFixture (path : String) (e : ReadError)
  | malformedFixture (path : String)
  | database (url : String)
deriving DecidableEq

def OpenError.message : OpenError → String
  | .missingFixturePath => "fixture source selected but no fixture path configured"
  | .unreadableFixture path e => s!"failed to read fixture {path}: {e.message}"
  | .malformedFixture path => s!"invalid fixture {path}"
  | .database url => s!"failed to open analytics database {url}"

/-- Opens the source that the settings select. -/
def openSource {m : Type → Type} [Monad m] (disk : Disk m) (e : Environment)
    (c : SourceConfig) : m (Except OpenError Source) := do
  match c.kind with
  | .fixture =>
    match c.fixturePath with
    | none => return .error .missingFixturePath
    | some path =>
      match ← disk.readText path with
      | .error e => return .error (.unreadableFixture path e)
      | .ok text =>
        match Fixture.ofText? text with
        | none => return .error (.malformedFixture path)
        | some fixture => return .ok fixture.source
  | .database =>
    let url := c.databaseUrl.getD e.defaultDatabaseUrl
    match DatabaseAddress.ofText? url with
    | none => return .error (.database url)
    | some address =>
      match ← Tables.opened? disk address with
      | none => return .error (.database url)
      | some tables => return .ok tables.source

end RootCause
