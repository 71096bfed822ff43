import RestQuery.Json.Reader
import RestQuery.Wire.Parameters

/-!
# Client configuration

A configuration says where the data service lives. A complete address, the DSN, takes precedence;
otherwise the base address is put together from the protocol, the first host, the port, the base
path and the database. The port is added only to a host that contains no colon.
-/

namespace RestQuery

/-- Why a configuration cannot be loaded or resolved. -/
inductive ConfigError where
  /-- The file cannot be read. -/
  | unreadable (path : String)
  | invalidYaml
  | invalidJson
  /-- The file's extension names no known format. -/
  | unsupportedFormat (extension : String)
  /-- There is neither an address nor a host. -/
  | noHost
deriving DecidableEq, Repr

/-- The wording of an error. -/
def ConfigError.message : ConfigError → String
  | unreadable path => "failed to read config " ++ path
  | invalidYaml => "invalid YAML config"
  | invalidJson => "invalid JSON config"
  | unsupportedFormat extension => "unsupported config format: " ++ extension
  | noHost => "no dsn or host configured"

/-- Where the data service lives. -/
structure ServiceConfig where
  /-- The complete base address. -/
  dsn : Option String
  protocol : String
  /-- A host or a list of them, of which the first is used. -/
  hosts : Option Values
  port : Option UInt16
  database : String
  /-- The path between host and database. -/
  basePath : Option String
deriving DecidableEq, Repr

namespace ServiceConfig

/-- The configuration when nothing is given. -/
def default : ServiceConfig where
  dsn := none
  protocol := "http"
  hosts := none
  port := none
  database := ""
  basePath := none

instance : Inhabited ServiceConfig := ⟨default⟩

/-- The configuration of a complete address. -/
def ofDsn (dsn : String) : ServiceConfig :=
  { default with dsn := some dsn }

/-- A text that is set and not empty. -/
def nonEmpty? (text : Option String) : Option String :=
  text.filter (!·.isEmpty)

/-- The base path in effect. -/
def effectiveBasePath (config : ServiceConfig) : String :=
  (nonEmpty? config.basePath).getD "/api"

/-- The host with the port behind it, unless it contains a colon or there is no port. -/
def authority (host : String) (port : Option UInt16) : String :=
  match port with
  | some port => if host.toList.contains ':' then host else host ++ ":" ++ port.toNat.repr
  | none => host

/-- The first host, if it is not empty. -/
def firstHost? (config : ServiceConfig) : Option String :=
  nonEmpty? (config.hosts.bind (·.toList.head?))

/-- The address that requests are sent to. -/
def baseUrl (config : ServiceConfig) : Except ConfigError String :=
  match nonEmpty? config.dsn with
  | some dsn => .ok dsn
  | none =>
      match config.firstHost? with
      | none => .error .noHost
      | some host =>
          .ok (config.protocol ++ "://" ++ authority host config.port ++
            config.effectiveBasePath ++ "/" ++ config.database)

end ServiceConfig

def Values.toJson : Values → Json
  | .one value => .text value
  | .many values => .ofTexts values

open Json (Tree)

/-- A text or a list of texts. -/
def Values.ofTree? : Tree → Option Values
  | .text parts => (Json.partsText? parts).map .one
  | .list items => (items.mapM Tree.text?).map .many
  | _ => none

namespace ServiceConfig

/-- Every field of a configuration as JSON. -/
def toJson (config : ServiceConfig) : Json :=
  .object [("dsn", .ofOption Json.text config.dsn), ("protocol", .text config.protocol),
    ("hosts", .ofOption Values.toJson config.hosts),
    ("port", .ofOption (fun port => .int port.toNat) config.port),
    ("database", .text config.database), ("prefix", .ofOption Json.text config.basePath)]

/-- The fields of a configuration with the names that each goes by. -/
def fieldNames : List (List String) :=
  [["dsn"], ["protocol"], ["hosts", "host"], ["port"], ["database"], ["prefix"]]

/-- A port is an integer of sixteen bits. -/
def portOfTree? : Tree → Option UInt16
  | .number numeral =>
      match Json.ofNumeral? numeral with
      | some (.int value) =>
          if 0 ≤ value ∧ value < 65536 then some (UInt16.ofNat value.toNat) else none
      | _ => none
  | _ => none

/-- Reads a configuration; every field may be left out. -/
def ofTree? (tree : Tree) : Option ServiceConfig :=
  match tree.fields? fieldNames with
  | some [dsn, protocol, hosts, port, database, basePath] => do
      let dsn ← Fields.defaulted? none (Tree.optionOf? Tree.text?) dsn
      let protocol ← Fields.defaulted? default.protocol Tree.text? protocol
      let hosts ← Fields.defaulted? none (Tree.optionOf? Values.ofTree?) hosts
      let port ← Fields.defaulted? none (Tree.optionOf? portOfTree?) port
      let database ← Fields.defaulted? default.database Tree.text? database
      let basePath ← Fields.defaulted? none (Tree.optionOf? Tree.text?) basePath
      return ⟨dsn, protocol, hosts, port, database, basePath⟩
  | _ => none

/-- Reads a configuration from JSON text. -/
def ofJsonText (text : String) : Except ConfigError ServiceConfig :=
  match (Tree.ofText? text).bind ofTree? with
  | some config => .ok config
  | none => .error .invalidJson

end ServiceConfig

end RestQuery
