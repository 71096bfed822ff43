import RestQuery.CommandLine.Run

/-!
# The command-line tool

Reads the arguments, runs the command and prints its outcome. The only file that is read is the
configuration that the arguments name.
-/

open RestQuery CommandLine

/-- How the tool is called. -/
def usageLines : List String :=
  ["Inspect and compile query strings of a REST collection.",
    "",
    "Usage: qfly [OPTIONS] <COMMAND>",
    "",
    "Commands:",
    "  parse <QUERY> [--diagnostics]",
    "  compile <QUERY> -c <COLLECTION> [--known <COLUMNS>] [--config <FILE>]",
    "  help [COMMAND]",
    "",
    "Options:",
    "  -v, --verbose",
    "      --format <json|yaml>",
    "  -h, --help",
    "  -V, --version"]

/-- What is wrong with the arguments, in words. -/
def describeUsage : Usage → String
  | .help | .nothingGiven => "\n".intercalate usageLines
  | .version => "qfly 0.4.0"
  | .missingCommand => "error: a command is required"
  | .missingArgument => "error: a required argument was not given"
  | .unknownCommand => "error: unknown command"
  | .unknownArgument => "error: unexpected argument"
  | .invalidValue => "error: invalid or missing value of an option"
  | .tooManyValues => "error: unexpected value of an option"
  | .repeatedArgument => "error: an argument was given more than once"

/-- The contents of the configuration file that an invocation names. -/
def readConfig (invocation : Invocation) : IO (Option (String × String)) := do
  match invocation.command with
  | .compile _ _ _ (some path) =>
      try return some (path, ← IO.FS.readFile path)
      catch _ => return none
  | _ => return none

def main (arguments : List String) : IO UInt32 := do
  match readArguments arguments with
  | .error usage =>
      if usage = .help ∨ usage = .version then
        IO.println (describeUsage usage)
        return 0
      else
        IO.eprintln (describeUsage usage)
        return 2
  | .ok invocation =>
      let file ← readConfig invocation
      match run (fun path => file.bind fun (name, text) => if name = path then some text else none)
          invocation with
      | .ok output =>
          IO.println output
          return 0
      | .error error =>
          IO.eprintln ("Error: " ++ ": ".intercalate error.messages)
          return 1
