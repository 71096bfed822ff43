import RestQuery.Service.Config

/-!
# Configuration files

A configuration file is YAML or JSON, as its extension says. What can be read at a path is given,
and so is the reader of YAML: nothing that is said about configuration files depends on how much of
YAML a reader knows.
-/

namespace RestQuery.ServiceConfig

/-- The name of the file that a path leads to. -/
def fileName (path : String) : String :=
  (((Text.split '/' path).filter fun part => !part.isEmpty && part != ".").getLast?).getD ""

/-- What stands behind the last point of a file name, unless the name starts with that point. -/
def extension (name : String) : String :=
  if name = ".." then ""
  else
    match (Text.split '.' name).reverse with
    | last :: before :: rest => if before.isEmpty && rest.isEmpty then "" else last
    | _ => ""

/-- Loads a configuration from a file, given a reader of YAML and what can be read at a path. -/
def loadWith (readYaml : String → Except ConfigError ServiceConfig)
    (contents : String → Option String) (path : String) : Except ConfigError ServiceConfig :=
  match contents path with
  | none => .error (.unreadable path)
  | some text =>
      let extension := extension (fileName path)
      if extension = "yaml" ∨ extension = "yml" then readYaml text
      else if extension = "json" then ofJsonText text
      else .error (.unsupportedFormat extension)

end RestQuery.ServiceConfig
