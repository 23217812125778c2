import RootCause.Files.Tree
import RootCause.Json.Parser
import RootCause.Workflow.Validation
import RootCause.Yaml.Value

/-!
Workflows read from texts and files.
-/

namespace RootCause

/-- How the text of a workflow is written. -/
inductive TextFormat where
  | json
  | yaml
deriving DecidableEq

/-- A file whose extension is not `json` holds YAML. -/
def TextFormat.ofPath (path : String) : TextFormat :=
  if Path.hasExtension path "json" then .json else .yaml

/-- The value of a text, in normal form. -/
def TextFormat.document? : TextFormat → String → Option Json
  | .json, text => (Json.ofText? text).map Json.normalize
  | .yaml, text => Yaml.ofText? text

/-- Why a file gives no workflow. -/
inductive LoadError where
  | unreadable (e : ReadError)
  | definition (e : DefinitionError)
deriving DecidableEq

def LoadError.message : LoadError → String
  | .unreadable e => e.message
  | .definition e => e.message

namespace Workflow

/-- An acceptable workflow from a text. -/
def ofText (format : TextFormat) (text : String) : Except DefinitionError Workflow :=
  match format.document? text with
  | none => .error .parse
  | some document => ofDocument? document

/-- An acceptable workflow from what reading the file at a path gave. -/
def ofFile (path : String) : Except ReadError String → Except LoadError Workflow
  | .error e => .error (.unreadable e)
  | .ok text => (ofText (.ofPath path) text).mapError .definition

end Workflow

end RootCause
