import RestQuery.Text.Split

/-!
# Command-line arguments

The tool has two commands, `parse` and `compile`, and two options that stand before or behind the
command. Arguments are read from left to right. An option that takes a value from the next argument
is settled only when something else is met, so that its own faults are found after those of an
argument that cannot be read at all.

A level is the part of the arguments that belongs to the tool as a whole or to one command. An
option may be given once on each level; one that is given on both counts as given to the command.
-/

namespace RestQuery.CommandLine

/-- Why arguments do not give a command to run. -/
inductive Usage where
  | help
  | version
  /-- There are no arguments at all. -/
  | nothingGiven
  | missingCommand
  | missingArgument
  | unknownCommand
  | unknownArgument
  | invalidValue
  | tooManyValues
  | repeatedArgument
deriving DecidableEq, Repr

/-- The form of what is printed. -/
inductive Format where
  | json
  | yaml
deriving DecidableEq, Repr, Inhabited

/-- The commands. -/
inductive CommandName where
  | parse
  | compile
deriving DecidableEq, Repr

/-- The command with a name. -/
def CommandName.ofName? (name : String) : Option CommandName :=
  if name = "parse" then some .parse
  else if name = "compile" then some .compile
  else none

/-- The argument names a command, or asks for help with one. -/
def namesCommand (argument : String) : Bool :=
  (CommandName.ofName? argument).isSome || argument = "help"

/-- Part of the arguments: before the command, or behind it. -/
inductive Level where
  | tool
  | command (name : CommandName)
deriving DecidableEq, Repr

/-- The options. -/
inductive Setting where
  | help
  | version
  | verbose
  | format
  | diagnostics
  | collection
  | known
  | config
deriving DecidableEq, Repr

namespace Setting

/-- Every option. -/
def all : List Setting :=
  [.help, .version, .verbose, .format, .diagnostics, .collection, .known, .config]

/-- The name behind two dashes. -/
def longName : Setting → String
  | help => "help"
  | version => "version"
  | verbose => "verbose"
  | format => "format"
  | diagnostics => "diagnostics"
  | collection => "collection"
  | known => "known"
  | config => "config"

/-- The letter behind one dash. -/
def letter? : Setting → Option Char
  | help => some 'h'
  | version => some 'V'
  | verbose => some 'v'
  | collection => some 'c'
  | _ => none

/-- The option takes a value. -/
def takesValue : Setting → Bool
  | format | collection | known | config => true
  | _ => false

/-- The option may be given several times. -/
def isRepeatable : Setting → Bool
  | known => true
  | _ => false

/-- The option is known on a level. -/
def isKnownOn (level : Level) : Setting → Bool
  | help | verbose | format => true
  | version => level = .tool
  | diagnostics => level = .command .parse
  | collection | known | config => level = .command .compile

/-- The option may have a value. -/
def accepts (setting : Setting) (value : String) : Bool :=
  match setting with
  | format => value = "json" || value = "yaml"
  | config => !value.isEmpty
  | _ => true

/-- The option of a level with a name. -/
def ofLongName? (level : Level) (name : String) : Option Setting :=
  all.find? fun setting => setting.isKnownOn level && setting.longName = name

/-- The option of a level with a letter. -/
def ofLetter? (level : Level) (letter : Char) : Option Setting :=
  all.find? fun setting => setting.isKnownOn level && setting.letter? = some letter

end Setting

/-- What has been read of a level. -/
structure Progress where
  /-- The settled options with their values. -/
  settled : List (Setting × List String)
  /-- An option whose value is the next argument, or has just been read. -/
  pending : Option (Setting × Option String)
  query : Option String
  /-- Two dashes have been read, so that no argument is an option any more. -/
  onlyValues : Bool
deriving DecidableEq, Repr

namespace Progress

/-- Nothing read. -/
def start : Progress := ⟨[], none, none, false⟩

/-- An option has been given. -/
def has (setting : Setting) (progress : Progress) : Bool :=
  progress.settled.any (·.1 = setting)

/-- Adds a value to an option. -/
def add (setting : Setting) (values : List String) (progress : Progress) : Progress :=
  { progress with settled := progress.settled ++ [(setting, values)] }

/-- The value of a repeatable option is a list with commas in between. -/
def splitValue (setting : Setting) (value : String) : List String :=
  if setting.isRepeatable then Text.split ',' value else [value]

/-- Settles an option that takes a value. -/
def settleValue (setting : Setting) (value : String) (progress : Progress) :
    Except Usage Progress :=
  if progress.has setting && !setting.isRepeatable then .error .repeatedArgument
  else if setting.accepts value then .ok (progress.add setting (splitValue setting value))
  else .error .invalidValue

/-- Settles the pending option, which must have its value by now. -/
def settle (progress : Progress) : Except Usage Progress :=
  match progress.pending with
  | none => .ok progress
  | some (_, none) => .error .invalidValue
  | some (setting, some value) => { progress with pending := none }.settleValue setting value

/-- Takes an option without a value. -/
def takeFlag (setting : Setting) (progress : Progress) : Except Usage Progress :=
  match progress.settle with
  | .error usage => .error usage
  | .ok progress =>
      match setting with
      | .help => .error .help
      | .version => .error .version
      | _ =>
          if progress.has setting then .error .repeatedArgument
          else .ok (progress.add setting [])

/-- Takes an option with the value that is attached to it, or makes it pending. -/
def takeOption (setting : Setting) (attached : Option String) (progress : Progress) :
    Except Usage Progress :=
  match progress.settle with
  | .error usage => .error usage
  | .ok progress =>
      match attached with
      | some value => progress.settleValue setting value
      | none => .ok { progress with pending := some (setting, none) }

/-- Takes an argument with two dashes: a name, and a value if there is an equals sign. -/
def takeLong (level : Level) (argument : String) (progress : Progress) : Except Usage Progress :=
  let (name, attached) :=
    match Text.cut '=' argument with
    | some (name, value) => (name, some value)
    | none => (argument, none)
  match Setting.ofLongName? level name with
  | none => .error .unknownArgument
  | some setting =>
      if setting.takesValue then progress.takeOption setting attached
      else if attached.isSome then .error .tooManyValues
      else progress.takeFlag setting

/-- What is attached to a letter: the rest of the argument, less an equals sign in front. -/
def attachedValue (rest : List Char) : Option String :=
  match rest with
  | [] => none
  | '=' :: value => some (String.ofList value)
  | value => some (String.ofList value)

/-- Takes an argument with one dash: letters of flags, and one of an option with a value. -/
def takeShort (level : Level) (progress : Progress) : List Char → Except Usage Progress
  | [] => .ok progress
  | letter :: rest =>
      match Setting.ofLetter? level letter with
      | none => .error .unknownArgument
      | some setting =>
          if setting.takesValue then progress.takeOption setting (attachedValue rest)
          else
            match progress.takeFlag setting with
            | .ok progress => takeShort level progress rest
            | .error usage => .error usage

/-- An option is waiting for its value. -/
def isWaiting (progress : Progress) : Bool :=
  match progress.pending with
  | some (_, none) => true
  | _ => false

/-- Takes an argument that is no option: the value that is waited for, or the query of a command. -/
def takeValue (level : Level) (argument : String) (progress : Progress) : Except Usage Progress :=
  match progress.pending, progress.onlyValues with
  | some (setting, none), false => .ok { progress with pending := some (setting, some argument) }
  | _, _ =>
      match level, progress.query with
      | .tool, _ =>
          if progress.onlyValues && namesCommand argument then .error .unknownArgument
          else .error .unknownCommand
      | .command _, some _ => .error .unknownArgument
      | .command _, none =>
          progress.settle.map fun progress => { progress with query := some argument }

/-- Takes one argument. -/
def take (level : Level) (argument : String) (progress : Progress) : Except Usage Progress :=
  if progress.onlyValues then progress.takeValue level argument
  else
    match argument.toList with
    | '-' :: '-' :: name =>
        if name.isEmpty then .ok { progress with onlyValues := true }
        else progress.takeLong level (String.ofList name)
    | '-' :: letter :: rest => progress.takeShort level (letter :: rest)
    | _ => progress.takeValue level argument

/-- The values of an option, in order. -/
def valuesOf (setting : Setting) (progress : Progress) : List String :=
  (progress.settled.filter (·.1 = setting)).flatMap (·.2)

/-- The value of an option. -/
def valueOf? (setting : Setting) (progress : Progress) : Option String :=
  (progress.valuesOf setting).head?

end Progress

/-- What to do. -/
inductive Command where
  | parse (query : String) (diagnostics : Bool)
  | compile (query collection : String) (known : Option (List String)) (config : Option String)
deriving DecidableEq, Repr

/-- A command with the options that every command has. -/
structure Invocation where
  verbose : Bool
  format : Format
  command : Command
deriving DecidableEq, Repr

/-- The command that the arguments behind its name give. -/
def commandOf (name : CommandName) (progress : Progress) : Except Usage Command :=
  match name, progress.query, progress.valueOf? .collection with
  | .parse, some query, _ => .ok (.parse query (progress.has .diagnostics))
  | .compile, some query, some collection =>
      let known := if progress.has .known then some (progress.valuesOf .known) else none
      .ok (.compile query collection known (progress.valueOf? .config))
  | _, _, _ => .error .missingArgument

/-- Reads the arguments behind the name of a command. -/
def readCommand (name : CommandName) (arguments : List String) :
    Except Usage (Command × Progress) := do
  let progress ← arguments.foldlM (fun progress argument => progress.take (.command name) argument)
    Progress.start
  let progress ← progress.settle
  return (← commandOf name progress, progress)

/-- The format with a name. -/
def Format.ofName (name : Option String) : Format :=
  if name = some "yaml" then .yaml else .json

/-- What the help command answers: its arguments name at most one command. -/
def helpUsage (arguments : List String) : Usage :=
  match arguments with
  | [] => .help
  | [name] => if namesCommand name then .help else .unknownCommand
  | _ => .unknownCommand

/-- The invocation of a command from what was read on both levels. -/
def invocationOf (tool : Progress) (command : Command) (inner : Progress) :
    Except Usage Invocation := do
  let tool ← tool.settle
  return {
    verbose := tool.has .verbose || inner.has .verbose
    format := .ofName (inner.valueOf? .format <|> tool.valueOf? .format)
    command }

/-- What is wrong with arguments that name no command. -/
def withoutCommand (tool : Progress) : Usage :=
  match tool.settle with
  | .error usage => usage
  | .ok tool => if tool.settled.isEmpty then .nothingGiven else .missingCommand

/-- Reads arguments up to the name of a command, and the rest for that command. -/
def readTool (tool : Progress) : List String → Except Usage Invocation
  | [] => .error (withoutCommand tool)
  | argument :: rest =>
      let name? :=
        if tool.isWaiting || tool.onlyValues then none else CommandName.ofName? argument
      match name? with
      | some name =>
          match readCommand name rest with
          | .error usage => .error usage
          | .ok (command, inner) => invocationOf tool command inner
      | none =>
          if argument = "help" && !tool.isWaiting && !tool.onlyValues then .error (helpUsage rest)
          else
            match tool.take .tool argument with
            | .ok tool => readTool tool rest
            | .error usage => .error usage

/-- Reads the arguments behind the name of the program. -/
def readArguments (arguments : List String) : Except Usage Invocation :=
  readTool .start arguments

end RestQuery.CommandLine
