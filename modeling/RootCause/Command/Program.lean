import RootCause.Command.Arguments
import RootCause.Command.Report
import RootCause.Config.Load
import RootCause.Workflow.File

/-!
The commands, as functions of the files, the environment and the arguments.
-/

namespace RootCause

/-- What the program leaves: an exit code, lines of output, the messages of its error from the
outermost to the cause, and a warning for its log. -/
structure Output where
  code : UInt32 := 0
  lines : List String := []
  errors : List String := []
  warning : Option ConfigWarning := none
deriving DecidableEq

/-- What tells one run from others: its id and its clock. -/
structure RunStamp where
  id : String
  clock : Nat → Instant

def programName : String := "dscope"

def programVersion : String := "0.1.0"

namespace Output

/-- The lines for the error output: what went wrong, then why, numbered when there are more
causes than one. -/
def errorLines (o : Output) : List String :=
  match o.errors with
  | [] => []
  | [error] => ["Error: " ++ error]
  | [error, cause] => ["Error: " ++ error, "", "Caused by:", "    " ++ cause]
  | error :: causes =>
    ["Error: " ++ error, "", "Caused by:"] ++
      causes.zipIdx.map fun (cause, i) => s!"    {i}: {cause}"

/-- A failure of a command. -/
def failure (errors : List String) : Output := { code := 1, errors }

def ofText (text : String) : Output := { lines := text.splitOn "\n" }

end Output

/-- How the program is called. -/
def usageLines : List String :=
  ["Usage: " ++ programName ++ " [OPTIONS] <COMMAND>",
    "",
    "Commands:",
    "  validate <FILE>                   Check a workflow and list its steps",
    "  run <WORKFLOW> --context <FILE>   Run a workflow and report its finding",
    "  completions <SHELL>               Print words that a shell can complete",
    "  help [COMMAND]                    Print this text",
    "",
    "Options of run:",
    "  --fixtures <FILE>   Take analytics from a fixture file",
    "  --database <URL>    Take analytics from a database",
    "",
    "Options:",
    "  --json              Print JSON",
    "  --quiet             Print nothing but errors on the error output",
    "  -v, --verbose       Log more",
    "  --data-dir <DIR>    The directory with config.toml",
    "  -h, --help          Print this text",
    "  -V, --version       Print the version"]

def commandWords : List String :=
  (Named.all (α := CommandName)).map Named.name

/-- A line that makes a shell complete the names of commands. -/
def completionLine (shell : Shell) : String :=
  let words := " ".intercalate commandWords
  let quoted := ", ".intercalate (commandWords.map fun w => "'" ++ w ++ "'")
  match shell with
  | .bash => s!"complete -W \"{words}\" {programName}"
  | .zsh => s!"compctl -k \"({words})\" {programName}"
  | .fish => s!"complete -c {programName} -a \"{words}\""
  | .elvish => s!"set edit:completion:arg-completer[{programName}] = " ++
      "\x7b|@args| put " ++ words ++ " \x7d"
  | .powershell => s!"Register-ArgumentCompleter -Native -CommandName {programName} " ++
      "-ScriptBlock \x7b " ++ quoted ++ " \x7d"

namespace ArgumentStop

/-- Help and version are no errors. -/
def output : ArgumentStop → Output
  | .help _ => { lines := usageLines }
  | .version command =>
    let suffix := (command.map fun c => "-" ++ Named.name c).getD ""
    { lines := [programName ++ suffix ++ " " ++ programVersion] }
  | .usage => { code := 2 }

end ArgumentStop

section

variable {m : Type → Type} [Monad m]

/-- The workflow in a file. -/
def loadWorkflow (disk : Disk m) (path : String) : m (Except LoadError Workflow) := do
  return Workflow.ofFile path (← disk.readText path)

def workflowFailure (path : String) (e : LoadError) : Output :=
  .failure [s!"Workflow {path} is invalid", e.message]

def performValidate (disk : Disk m) (json : Bool) (file : String) : m Output := do
  match ← loadWorkflow disk file with
  | .error e => return workflowFailure file e
  | .ok w => return if json then .ofText (w.summaryJson.pretty 0) else { lines := w.report }

/-- The context in the text of a file, fit for a run. -/
def contextOfText (text : String) : Except Output Context :=
  match (Json.ofText? text).bind Context.ofJson? with
  | none => .error (.failure ["Invalid run context JSON", DefinitionError.parse.message])
  | some c =>
    match c.validate with
    | .error e => .error (.failure ["Invalid run context", e.message])
    | .ok () => .ok c

namespace RunArguments

/-- The source settings of a run: the arguments go before the configuration. -/
def sourceConfig (a : RunArguments) (c : SourceConfig) : SourceConfig :=
  match a.fixtures, a.database with
  | some path, _ => { c with kind := .fixture, fixturePath := some path }
  | none, some url => { c with kind := .database, databaseUrl := some url }
  | none, none => c

end RunArguments

/-- Runs a workflow in a context over a source. -/
def runOutput (w : Workflow) (source : Source) (stamp : RunStamp) (json : Bool) (c : Context) :
    Output :=
  match (w.run source stamp.clock c []).1 with
  | .error e => .failure [s!"Workflow '{w.id}' failed", e.message]
  | .ok o =>
    if json then .ofText ((o.json stamp.id).pretty 0) else { lines := o.report stamp.id }

def performRun (disk : Disk m) (e : Environment) (config : Config) (stamp : RunStamp)
    (json : Bool) (a : RunArguments) : m Output := do
  match ← loadWorkflow disk a.workflow with
  | .error e => return workflowFailure a.workflow e
  | .ok w =>
    match ← disk.readText a.context with
    | .error e => return .failure [s!"Failed to read context {a.context}", e.message]
    | .ok text =>
      match contextOfText text with
      | .error output => return output
      | .ok c =>
        match ← openSource disk e (a.sourceConfig config.source) with
        | .error e => return .failure ["Failed to open analytics source", e.message]
        | .ok source => return runOutput w source stamp json c

/-- Whether warnings are logged. -/
def Invocation.logsWarnings (i : Invocation) : Bool := !i.quiet || 0 < i.verbosity

/-- A command with its settings loaded. -/
def perform (disk : Disk m) (e : Environment) (stamp : RunStamp) (i : Invocation) : m Output := do
  match i.command with
  | .completions shell => return { lines := [completionLine shell] }
  | .validate file =>
    let loaded ← loadConfig disk (i.dataDirectory.getD e.defaultDataDirectory)
    let output ← performValidate disk i.json file
    return { output with warning := if i.logsWarnings then loaded.warning else none }
  | .run a =>
    let loaded ← loadConfig disk (i.dataDirectory.getD e.defaultDataDirectory)
    let output ← performRun disk e loaded.config stamp i.json a
    return { output with warning := if i.logsWarnings then loaded.warning else none }

/-- The whole program. -/
def program (disk : Disk m) (e : Environment) (stamp : RunStamp) (arguments : List String) :
    m Output :=
  match readArguments e.dataDirectory arguments with
  | .error stop => return stop.output
  | .ok invocation => perform disk e stamp invocation

end

end RootCause
