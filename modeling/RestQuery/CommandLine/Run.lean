import RestQuery.Binding
import RestQuery.CommandLine.Arguments
import RestQuery.Service.PlainYaml
import RestQuery.Wire.Report

/-!
# Running commands

A command gives the text to print, or an error. `parse` shows the structured form of a query string.
`compile` binds a query string to a collection and shows the request; given a configuration, the
address in front of it is the one a client would send the request to. The configuration is loaded
only after the query has been compiled, with whatever reader of YAML is given.
-/

namespace RestQuery.CommandLine

/-- Why a command fails. -/
inductive RunError where
  | query (error : QueryError)
  /-- The configuration cannot be loaded. -/
  | loading (path : String) (error : ConfigError)
  | config (error : ConfigError)
deriving DecidableEq, Repr

namespace RunError

/-- What was being done when a configuration could not be loaded. -/
def loadingMessage (path : String) : String :=
  "loading " ++ path

/-- The wording of an error, from the outside in. -/
def messages : RunError → List String
  | query error => [error.message]
  | loading path error => [loadingMessage path, error.message]
  | config error => [error.message]

end RunError

/-- The outcome of reading a query string as shown; without diagnostics only the query. -/
def parsedJson (parsed : Parsed) (diagnostics : Bool) : Json :=
  .object (("query", parsed.query.toJson) ::
    if diagnostics then
      [("dropped", .ofList DroppedFragment.toJson parsed.dropped),
        ("negated_keys", .ofTexts parsed.negatedKeys)]
    else [])

/-- The entries of the same outcome in YAML. -/
def parsedYaml (parsed : Parsed) (diagnostics : Bool) : List (String × Yaml.Value) :=
  ("query", parsed.query.toYaml) ::
    if diagnostics then
      [("dropped", .ofList DroppedFragment.toYaml parsed.dropped),
        ("negated_keys", .ofTexts parsed.negatedKeys)]
    else []

/-- A compiled query string as shown. -/
structure CompiledQuery where
  path : String
  query : String
  url : String
  projection : List String
deriving DecidableEq, Repr

namespace CompiledQuery

def toJson (compiled : CompiledQuery) : Json :=
  .object [("path", .text compiled.path), ("query", .text compiled.query),
    ("url", .text compiled.url), ("projection", .ofTexts compiled.projection)]

def toYaml (compiled : CompiledQuery) : List (String × Yaml.Value) :=
  [("path", .text compiled.path), ("query", .text compiled.query), ("url", .text compiled.url),
    ("projection", .ofTexts compiled.projection)]

end CompiledQuery

section

variable (readYaml : String → Except ConfigError ServiceConfig)
  (contents : String → Option String)

/-- The address that a configuration puts in front of a path. -/
def baseAddress : Option String → Except RunError String
  | none => .ok ""
  | some path =>
      match ServiceConfig.loadWith readYaml contents path with
      | .error error => .error (.loading path error)
      | .ok config => config.baseUrl.mapError .config

/-- The request that a query string gives for a collection, with its columns checked if known. -/
def compileRequest (query collection : String) (known : Option (List String)) :
    Except QueryError (Request × List String) := do
  let catalog := known.map fun columns => fun (_ : String) => columns
  let bound := bind (parseQueryString query).query (Builder.new collection) catalog
  let projection ← bound.projection
  let request ← bound.target.compile
  return (request, projection)

/-- Compiles a query string for a collection. -/
def compileQuery (query collection : String) (known : Option (List String))
    (config : Option String) : Except RunError CompiledQuery := do
  let (request, projection) ← (compileRequest query collection known).mapError .query
  let address ← baseAddress readYaml contents config
  return ⟨request.path, request.query, address ++ request.url, projection⟩

/-- The text that a command prints, given a reader of YAML and what can be read at a path. -/
def runWith (invocation : Invocation) : Except RunError String :=
  match invocation.command with
  | .parse query diagnostics =>
      let parsed := parseQueryString query
      match invocation.format with
      | .json => .ok (parsedJson parsed diagnostics).renderPretty
      | .yaml => .ok (Yaml.renderMapping (parsedYaml parsed diagnostics))
  | .compile query collection known config =>
      (compileQuery readYaml contents query collection known config).map fun compiled =>
        match invocation.format with
        | .json => compiled.toJson.renderPretty
        | .yaml => Yaml.renderMapping compiled.toYaml

end

/-- The text that a command prints when configurations are read as plain YAML. -/
def run (contents : String → Option String) (invocation : Invocation) : Except RunError String :=
  runWith ServiceConfig.ofYamlText contents invocation

end RestQuery.CommandLine
