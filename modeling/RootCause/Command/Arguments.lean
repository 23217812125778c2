import RootCause.Json.Record

/-!
The arguments of the command line.

Options may stand before the name of a command or behind it. Those that every command knows
may be given in both places, and then the later one counts. Reading stops at the first
argument that is wrong or that asks for help.
-/

namespace RootCause

inductive Shell where
  | bash
  | elvish
  | fish
  | powershell
  | zsh
deriving DecidableEq

instance : Named Shell where
  all := [.bash, .elvish, .fish, .powershell, .zsh]
  name
    | .bash => "bash"
    | .elvish => "elvish"
    | .fish => "fish"
    | .powershell => "powershell"
    | .zsh => "zsh"

structure RunArguments where
  workflow : String
  context : String
  fixtures : Option String
  database : Option String
deriving DecidableEq

inductive Command where
  | validate (file : String)
  | run (arguments : RunArguments)
  | completions (shell : Shell)
deriving DecidableEq

structure Invocation where
  json : Bool
  quiet : Bool
  verbosity : Nat
  dataDirectory : Option String
  command : Command
deriving DecidableEq

inductive CommandName where
  | validate
  | run
  | completions
  | help
deriving DecidableEq

instance : Named CommandName where
  all := [.validate, .run, .completions, .help]
  name
    | .validate => "validate"
    | .run => "run"
    | .completions => "completions"
    | .help => "help"

/-- An option that takes a value. -/
inductive ValueOption where
  | dataDirectory
  | context
  | fixtures
  | database
deriving DecidableEq

instance : Named ValueOption where
  all := [.dataDirectory, .context, .fixtures, .database]
  name
    | .dataDirectory => "data-dir"
    | .context => "context"
    | .fixtures => "fixtures"
    | .database => "database"

namespace ValueOption

def isKnown (command : Option CommandName) (o : ValueOption) : Bool :=
  o = .dataDirectory || command = some .run

/-- A path is not empty. -/
def accepts (o : ValueOption) (value : String) : Bool := o = .database || !value.isEmpty

end ValueOption

/-- Why there is nothing to perform. -/
inductive ArgumentStop where
  | help (command : Option CommandName)
  | version (command : Option CommandName)
  | usage
deriving DecidableEq

/-- What stands on one side of a command's name. -/
structure ArgumentGroup where
  json : Bool := false
  quiet : Bool := false
  verbosity : Nat := 0
  values : List (ValueOption × String) := []
  operand : Option String := none

namespace ArgumentGroup

def value? (g : ArgumentGroup) (o : ValueOption) : Option String := g.values.lookup o

/-- Sets an option that has not been set. -/
def withValue (g : ArgumentGroup) (o : ValueOption) (value : String) :
    Except ArgumentStop ArgumentGroup :=
  if (g.value? o).isSome || !o.accepts value then .error .usage
  else .ok { g with values := (o, value) :: g.values }

/-- Whether a command can take an operand: a file, or a shell. -/
def acceptsOperand (command : Option CommandName) (operand : String) : Bool :=
  if command = some .completions then (Named.ofName? (α := Shell) operand).isSome
  else !operand.isEmpty

def withOperand (g : ArgumentGroup) (command : Option CommandName) (operand : String) :
    Except ArgumentStop ArgumentGroup :=
  if g.operand.isSome || !acceptsOperand command operand then .error .usage
  else .ok { g with operand := some operand }

/-- A long option without a value of its own. A switch is set once. -/
def withSwitch (g : ArgumentGroup) (command : Option CommandName) (name : String) :
    Except ArgumentStop ArgumentGroup :=
  match name with
  | "json" => if g.json then .error .usage else .ok { g with json := true }
  | "quiet" => if g.quiet then .error .usage else .ok { g with quiet := true }
  | "verbose" => .ok { g with verbosity := g.verbosity + 1 }
  | "help" => .error (.help command)
  | "version" => .error (.version command)
  | _ => .error .usage

/-- Letters behind one dash. -/
def withLetters (g : ArgumentGroup) (command : Option CommandName) :
    List Char → Except ArgumentStop ArgumentGroup
  | [] => .ok g
  | 'v' :: rest => withLetters { g with verbosity := g.verbosity + 1 } command rest
  | 'h' :: _ => .error (.help command)
  | 'V' :: _ => .error (.version command)
  | _ => .error .usage

/-- The operands behind the mark that ends the options. -/
def withOperands (g : ArgumentGroup) (command : Option CommandName) :
    List String → Except ArgumentStop ArgumentGroup
  | [] => .ok g
  | operand :: rest => do withOperands (← g.withOperand command operand) command rest

end ArgumentGroup

/-- Whether an argument is an option or starts like one. -/
def isOptionLike (argument : String) : Bool := argument.startsWith "-" && argument ≠ "-"

/-- Reads the arguments of a group. Before the command's name (`command` is none) the group
ends at the first operand, which is that name. -/
def readGroup (command : Option CommandName) :
    List String → ArgumentGroup → Except ArgumentStop (ArgumentGroup × List String)
  | [], g => .ok (g, [])
  | argument :: rest, g =>
    if argument = "--" then
      if command.isNone then .error .usage
      else (g.withOperands command rest).map (·, [])
    else if argument.startsWith "--" then
      match (argument.drop 2).toString.splitOn "=" with
      | [] => .error .usage
      | name :: attached =>
        match (Named.ofName? name : Option ValueOption), attached, rest with
        | some o, [], value :: rest =>
          if !o.isKnown command || isOptionLike value then .error .usage
          else do readGroup command rest (← g.withValue o value)
        | some _, [], [] => .error .usage
        | some o, attached, rest =>
          if !o.isKnown command then .error .usage
          else do readGroup command rest (← g.withValue o ("=".intercalate attached))
        | none, [], rest => do readGroup command rest (← g.withSwitch command name)
        | none, _, _ => .error .usage
    else if isOptionLike argument then do
      readGroup command rest (← g.withLetters command (argument.toList.drop 1))
    else if command.isNone then .ok (g, argument :: rest)
    else do readGroup command rest (← g.withOperand command argument)

/-- The command of a name and its group. -/
def commandOf (name : CommandName) (g : ArgumentGroup) : Except ArgumentStop Command :=
  match name, g.operand with
  | .validate, some file => .ok (.validate file)
  | .run, some workflow =>
    match g.value? .context, g.value? .fixtures, g.value? .database with
    | none, _, _ => .error .usage
    | some _, some _, some _ => .error .usage
    | some context, fixtures, database => .ok (.run ⟨workflow, context, fixtures, database⟩)
  | .completions, some shell =>
    match Named.ofName? shell with
    | some shell => .ok (.completions shell)
    | none => .error .usage
  | _, _ => .error .usage

/-- The data directory that the options or the environment name. An empty one in the
environment is wrong wherever it would be looked at. -/
def chosenDirectory (general own : ArgumentGroup) (fromEnvironment : Option String) :
    Except ArgumentStop (Option String) :=
  match general.value? .dataDirectory, own.value? .dataDirectory with
  | some _, some directory => .ok (some directory)
  | outer, inner =>
    if fromEnvironment = some "" then .error .usage
    else .ok (inner <|> outer <|> fromEnvironment)

/-- What the arguments ask for. -/
def readArguments (fromEnvironment : Option String) (arguments : List String) :
    Except ArgumentStop Invocation := do
  let (general, rest) ← readGroup none arguments {}
  match rest with
  | [] => .error .usage
  | name :: rest =>
    match (Named.ofName? name : Option CommandName), rest with
    | none, _ => .error .usage
    | some .help, [] => .error (.help none)
    | some .help, [topic] =>
      match Named.ofName? topic with
      | some command => .error (.help (some command))
      | none => .error .usage
    | some .help, _ => .error .usage
    | some name, rest =>
      let (own, _) ← readGroup (some name) rest {}
      let command ← commandOf name own
      let dataDirectory ← chosenDirectory general own fromEnvironment
      return {
        json := general.json || own.json
        quiet := general.quiet || own.quiet
        verbosity := if own.verbosity = 0 then general.verbosity else own.verbosity
        dataDirectory
        command }

end RootCause
